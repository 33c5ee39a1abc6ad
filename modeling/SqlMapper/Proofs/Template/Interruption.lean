import SqlMapper.Proofs.Template.Placeholder

/-!
# Text that is scanned in parts

A text may come in parts that are scanned one by one.  The nodes of the parts join to those of the whole
text exactly if no part ends inside a placeholder: such a placeholder stays literal text.
-/

namespace SqlMapper

open Text (append_eq_cases trim)

namespace Slice

/-- Whether a placeholder with a name begins in front of a place in a text and ends behind it. -/
def Cuts (front behind : List Char) : Prop :=
  ∃ before raw inside after head tail,
    Decomposed (front ++ behind) (before ++ .placeholder raw inside :: after) ∧
      spell (.placeholder raw inside) = head ++ tail ∧ head ≠ [] ∧ tail ≠ [] ∧
        front = before.flatMap spell ++ head

/-- Whether no part of a text ends inside a placeholder with a name. -/
def IsUncut : List (List Char) → Prop
  | [] => True
  | part :: rest => ¬Cuts part rest.flatten ∧ IsUncut rest

/-- What the nodes of a text spell. -/
def scanned (text : List Char) : List (Char ⊕ Node) :=
  Node.strokes (Node.scan (String.ofList text))

variable {raw : Bool} {c : Char} {text inside after rest front behind : List Char} {slices : List Slice}

/-! ### What scanning spells -/

theorem scanned_eq (text : List Char) :
    scanned text = Node.strokes ((TextPiece.split text).map TextPiece.toNode) := by
  rw [scanned, Node.scan, String.toList_ofList]

theorem scanned_nil : scanned [] = [] := by
  rw [scanned_eq, TextPiece.split]
  rfl

theorem strokes_addChar (c : Char) (pieces : List TextPiece) :
    Node.strokes ((TextPiece.addChar c pieces).map TextPiece.toNode) =
      .inl c :: Node.strokes (pieces.map TextPiece.toNode) := by
  rcases pieces with _ | ⟨_ | _, rest⟩ <;>
    simp [TextPiece.addChar, TextPiece.toNode, Node.strokes]

theorem strokes_foldr (text : List Char) (pieces : List TextPiece) :
    Node.strokes ((text.foldr TextPiece.addChar pieces).map TextPiece.toNode) =
      text.map .inl ++ Node.strokes (pieces.map TextPiece.toNode) := by
  induction text with
  | nil => rfl
  | cons c rest ih => rw [List.foldr_cons, strokes_addChar, ih, List.map_cons, List.cons_append]

theorem scanned_named (closed : '\x7d' ∉ inside) (named : trim inside ≠ []) (after : List Char) :
    scanned (spell (.placeholder raw inside) ++ after) =
      .inr (node (.placeholder raw inside)) :: scanned after := by
  have found : TextPiece.placeholder? (spell (.placeholder raw inside) ++ after) = _ :=
    placeholder?_spell closed after
  rw [if_neg named] at found
  rw [scanned_eq, split_of_some found, List.map_cons, scanned_eq]
  rfl

theorem scanned_blank (blank : trim inside = []) (after : List Char) :
    scanned (spell (.placeholder raw inside) ++ after) =
      (spell (.placeholder raw inside)).map .inl ++ scanned after := by
  rw [scanned_eq, split_of_blank blank, strokes_foldr, scanned_eq]

theorem scanned_other (incomplete : ¬Begins (c :: rest)) :
    scanned (c :: rest) = .inl c :: scanned rest := by
  rw [scanned_eq, split_of_none (placeholder?_of_not_begins incomplete), strokes_addChar, scanned_eq]

theorem scanned_plain (plain : ∀ c ∈ text, ∀ raw, c ≠ sigil raw) (after : List Char) :
    scanned (text ++ after) = text.map .inl ++ scanned after := by
  rw [scanned_eq, split_append_of_plain plain, strokes_foldr, scanned_eq]

/-- Text without a closing brace is literal. -/
theorem scanned_open (opened : '\x7d' ∉ text) : scanned text = text.map .inl := by
  induction text with
  | nil => exact scanned_nil
  | cons c rest ih =>
      rw [List.mem_cons, not_or] at opened
      have incomplete : ¬Begins (c :: rest) := by
        rw [begins_cons_iff]
        rintro ⟨-, -, closed⟩
        exact opened.2 closed
      rw [scanned_other incomplete, ih opened.2, List.map_cons]

theorem Begins.append (begins : Begins text) (behind : List Char) : Begins (text ++ behind) := by
  obtain ⟨raw, inside, after, closed, rfl⟩ := begins
  exact ⟨raw, inside, after ++ behind, closed, by rw [List.append_assoc]⟩

/-- A placeholder whose end is missing is open. -/
theorem not_mem_of_cut {head tail : List Char} (closed : '\x7d' ∉ inside)
    (cut : spell (.placeholder raw inside) = head ++ tail) (more : tail ≠ []) : '\x7d' ∉ head := by
  obtain ⟨start, last, rfl⟩ := (List.eq_nil_or_concat tail).resolve_left more
  have same : sigil raw :: '\x7b' :: inside = head ++ start := by
    have ends : (sigil raw :: '\x7b' :: inside) ++ ['\x7d'] = (head ++ start) ++ [last] := by
      simpa [spell] using cut
    exact (List.append_inj' ends rfl).1
  intro member
  have inFront : '\x7d' ∈ sigil raw :: '\x7b' :: inside := by
    rw [same]
    exact List.mem_append_left _ member
  simp only [List.mem_cons, Char.reduceEq, false_or] at inFront
  rcases inFront with sign | name
  · cases raw <;> cases sign
  · exact closed name

/-! ### Where a text is cut -/

theorem Cuts.cons_named (cuts : Cuts front behind) (closed : '\x7d' ∉ inside) (named : trim inside ≠ []) :
    Cuts (spell (.placeholder raw inside) ++ front) behind := by
  obtain ⟨before, other, name, after, head, tail, decomposed, whole, some, more, rfl⟩ := cuts
  refine ⟨.placeholder raw inside :: before, other, name, after, head, tail, ?_, whole, some, more, ?_⟩
  · rw [List.append_assoc]
    exact .named raw closed named decomposed
  · rw [List.flatMap_cons, List.append_assoc]

theorem addChar_append (c : Char) (before after : List Slice) :
    addChar c (before ++ .placeholder raw inside :: after) =
      addChar c before ++ .placeholder raw inside :: after := by
  rcases before with _ | ⟨_ | _, rest⟩ <;> rfl

theorem foldr_addChar_append (text : List Char) (before after : List Slice) :
    text.foldr addChar (before ++ .placeholder raw inside :: after) =
      text.foldr addChar before ++ .placeholder raw inside :: after := by
  induction text with
  | nil => rfl
  | cons c rest ih => rw [List.foldr_cons, ih, addChar_append, List.foldr_cons]

theorem Cuts.cons_blank (cuts : Cuts front behind) (blank : trim inside = []) :
    Cuts (spell (.placeholder raw inside) ++ front) behind := by
  obtain ⟨before, other, name, after, head, tail, decomposed, whole, some, more, rfl⟩ := cuts
  refine ⟨(spell (.placeholder raw inside)).foldr addChar before, other, name, after, head, tail, ?_,
    whole, some, more, ?_⟩
  · rw [List.append_assoc, ← foldr_addChar_append]
    exact .blank raw blank decomposed
  · rw [flatMap_spell_foldr, List.append_assoc]

theorem Cuts.cons_other (cuts : Cuts front behind) (incomplete : ¬Begins (c :: (front ++ behind))) :
    Cuts (c :: front) behind := by
  obtain ⟨before, other, name, after, head, tail, decomposed, whole, some, more, rfl⟩ := cuts
  refine ⟨addChar c before, other, name, after, head, tail, ?_, whole, some, more, ?_⟩
  · rw [List.cons_append, ← addChar_append]
    exact .other incomplete decomposed
  · rw [flatMap_spell_addChar, List.cons_append]

/-- A text that is not cut is scanned part by part. -/
theorem Decomposed.scanned_append (decomposed : Decomposed (front ++ behind) slices)
    (uncut : ¬Cuts front behind) : scanned (front ++ behind) = scanned front ++ scanned behind := by
  generalize whole : front ++ behind = text at decomposed
  induction decomposed generalizing front with
  | nil => simp_all [scanned_nil]
  | @named raw inside after slices closed named later ih =>
      rcases append_eq_cases whole with ⟨front, rfl, rfl⟩ | ⟨tail, more, cut, rfl⟩
      · have uncut : ¬Cuts front behind := fun cuts => uncut (cuts.cons_named closed named)
        rw [scanned_named closed named, scanned_named closed named, ih uncut rfl, List.cons_append]
      · cases front with
        | nil => rw [← whole, scanned_nil, List.nil_append, List.nil_append]
        | cons c front =>
            refine absurd ?_ uncut
            refine ⟨[], raw, inside, slices, c :: front, tail, ?_, cut, by simp, more, rfl⟩
            rw [whole]
            exact .named raw closed named later
  | @blank raw inside after slices blank later ih =>
      rcases append_eq_cases whole with ⟨front, rfl, rfl⟩ | ⟨tail, more, cut, rfl⟩
      · have uncut : ¬Cuts front behind := fun cuts => uncut (cuts.cons_blank blank)
        rw [scanned_blank blank, scanned_blank blank, ih uncut rfl, List.append_assoc]
      · cases front with
        | nil => rw [← whole, scanned_nil, List.nil_append, List.nil_append]
        | cons c front =>
            have opened := not_mem_of_cut (not_mem_of_blank blank) cut more
            have plain : ∀ c ∈ tail, ∀ raw, c ≠ sigil raw := by
              intro c member
              apply plain_of_blank blank c
              have inside := (List.cons.inj cut).2
              rw [inside]
              exact List.mem_append_right _ member
            rw [scanned_blank blank, cut, scanned_open opened, scanned_plain plain, List.map_append,
              List.append_assoc]
  | @other c rest slices incomplete later ih =>
      cases front with
      | nil => rw [← whole, scanned_nil, List.nil_append, List.nil_append]
      | cons d front =>
          obtain ⟨rfl, rfl⟩ := List.cons.inj whole
          have uncut : ¬Cuts front behind := fun cuts => uncut (cuts.cons_other incomplete)
          have open? : ¬Begins (d :: front) := fun begins => incomplete (begins.append behind)
          rw [scanned_other incomplete, scanned_other open?, ih uncut rfl, List.cons_append]

/-- How slices behind literal text come out of slices with that text in front. -/
theorem addChar_eq_append {before more : List Slice}
    (same : addChar c slices = before ++ .placeholder raw inside :: more) :
    ∃ first, slices = first ++ .placeholder raw inside :: more ∧
      before.flatMap spell = c :: first.flatMap spell := by
  cases before with
  | nil => rcases slices with _ | ⟨_ | _, rest⟩ <;> cases same
  | cons slice before =>
      rcases slices with _ | ⟨text | _, rest⟩
      · simp [addChar] at same
      · obtain ⟨rfl, rfl⟩ := List.cons.inj same
        exact ⟨.literal text :: before, rfl, rfl⟩
      · obtain ⟨rfl, behind⟩ := List.cons.inj same
        exact ⟨before, behind, rfl⟩

theorem foldr_addChar_eq_append {before more : List Slice}
    (same : text.foldr addChar slices = before ++ .placeholder raw inside :: more) :
    ∃ first, slices = first ++ .placeholder raw inside :: more ∧
      before.flatMap spell = text ++ first.flatMap spell := by
  induction text generalizing before with
  | nil => exact ⟨before, same, rfl⟩
  | cons c rest ih =>
      obtain ⟨between, same, spelled⟩ := addChar_eq_append same
      obtain ⟨first, same, behind⟩ := ih same
      exact ⟨first, same, by rw [spelled, behind, List.cons_append]⟩

/-- Where a text is cut, the part in front spells the beginning of a placeholder. -/
theorem Decomposed.scanned_ne {before later : List Slice} {head tail : List Char}
    (decomposed : Decomposed text slices) (found : slices = before ++ .placeholder raw inside :: later)
    (cut : spell (.placeholder raw inside) = head ++ tail) (some : head ≠ []) (more : tail ≠ [])
    (strokes : List (Char ⊕ Node)) :
    scanned text ≠ scanned (before.flatMap spell ++ head) ++ strokes := by
  induction decomposed generalizing before with
  | nil => simp at found
  | @named other name after slices closed named _ ih =>
      rw [scanned_named closed named]
      cases before with
      | nil =>
          cases found
          obtain ⟨c, head, rfl⟩ := List.exists_cons_of_ne_nil some
          rw [List.flatMap_nil, List.nil_append, scanned_open (not_mem_of_cut closed cut more)]
          simp
      | cons slice before =>
          obtain ⟨rfl, behind⟩ := List.cons.inj found
          rw [List.flatMap_cons, List.append_assoc, scanned_named closed named, List.cons_append]
          intro same
          exact ih behind (List.cons.inj same).2
  | @blank other name after slices blank _ ih =>
      obtain ⟨first, behind, spelled⟩ := foldr_addChar_eq_append found
      rw [scanned_blank blank, spelled, List.append_assoc, scanned_blank blank, List.append_assoc]
      intro same
      exact ih behind (List.append_cancel_left same)
  | @other c rest slices incomplete rests ih =>
      obtain ⟨first, behind, spelled⟩ := addChar_eq_append found
      have whole : rest = first.flatMap spell ++ head ++ (tail ++ later.flatMap spell) := by
        rw [← rests.flatMap_spell, behind, List.flatMap_append, List.flatMap_cons, cut]
        simp
      have open? : ¬Begins (c :: (first.flatMap spell ++ head)) := by
        intro begins
        apply incomplete
        rw [whole, ← List.cons_append]
        exact begins.append _
      rw [scanned_other incomplete, spelled, List.cons_append, scanned_other open?, List.cons_append]
      intro same
      exact ih behind (List.cons.inj same).2

theorem Cuts.scanned_ne (cuts : Cuts front behind) (strokes : List (Char ⊕ Node)) :
    scanned (front ++ behind) ≠ scanned front ++ strokes := by
  obtain ⟨before, raw, inside, after, head, tail, decomposed, cut, some, more, rfl⟩ := cuts
  exact decomposed.scanned_ne rfl cut some more strokes

theorem scanned_append (uncut : ¬Cuts front behind) :
    scanned (front ++ behind) = scanned front ++ scanned behind := by
  obtain ⟨slices, decomposed⟩ := exists_decomposed (front ++ behind)
  exact decomposed.scanned_append uncut

end Slice

namespace Node

open Slice (IsUncut scanned)

/-- The nodes of parts that are scanned one by one. -/
def scanParts (parts : List (List Char)) : List Node :=
  parts.flatMap fun part => scan (String.ofList part)

theorem strokes_scanParts (parts : List (List Char)) :
    strokes (scanParts parts) = parts.flatMap scanned := by
  induction parts with
  | nil => rfl
  | cons part rest ih =>
      rw [scanParts, List.flatMap_cons, strokes_append, ← scanParts, ih, List.flatMap_cons]
      rfl

theorem flatMap_scanned_iff (parts : List (List Char)) :
    parts.flatMap scanned = scanned parts.flatten ↔ IsUncut parts := by
  induction parts with
  | nil => simp [IsUncut, Slice.scanned_nil]
  | cons part rest ih =>
      rw [List.flatMap_cons, List.flatten_cons, IsUncut]
      by_cases cuts : Slice.Cuts part rest.flatten
      · simp only [cuts, not_true_eq_false, false_and, iff_false]
        exact Ne.symm (cuts.scanned_ne _)
      · rw [Slice.scanned_append cuts, List.append_cancel_left_eq, ih]
        simp [cuts]

theorem joined_scan_append {front behind : List Char} (uncut : ¬Slice.Cuts front behind) :
    joined (scan (String.ofList front) ++ scan (String.ofList behind)) =
      scan (String.ofList (front ++ behind)) := by
  apply (areSeparate_joined _).eq_of_strokes (areSeparate_scan _)
  rw [strokes_joined, strokes_append]
  exact (Slice.scanned_append uncut).symm

/-- Parts have the nodes of the whole text exactly if none of them ends inside a placeholder. -/
theorem joined_scanParts_iff (parts : List (List Char)) :
    joined (scanParts parts) = scan (String.ofList parts.flatten) ↔ IsUncut parts := by
  rw [← flatMap_scanned_iff, ← strokes_scanParts, scanned]
  constructor
  · intro same
    rw [← strokes_joined, same]
  · intro same
    apply (areSeparate_joined _).eq_of_strokes (areSeparate_scan _)
    rw [strokes_joined, same]

end Node

end SqlMapper
