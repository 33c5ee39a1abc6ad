import SqlMapper.Proofs.Template.Separate
import SqlMapper.Proofs.Text.Trim

/-!
# Placeholders as they are written

A text is cut into slices from left to right.  Where a complete placeholder begins, it is a slice, or
literal text if its name is blank; any other character is literal text.  Nothing is lost that way, and
the names are all that scanning takes out of the slices.
-/

namespace SqlMapper

open Text (trim)

/-- A stretch of text as it is written. -/
inductive Slice where
  | literal (text : List Char)
  /-- A sign and what stands in braces behind it. -/
  | placeholder (raw : Bool) (inside : List Char)

namespace Slice

/-- The sign in front of the braces. -/
def sigil (raw : Bool) : Char :=
  if raw then '$' else '#'

/-- The characters of a slice. -/
def spell : Slice → List Char
  | .literal text => text
  | .placeholder raw inside => sigil raw :: '\x7b' :: (inside ++ ['\x7d'])

/-- What is read from a slice. -/
def piece : Slice → TextPiece
  | .literal text => .literal text
  | .placeholder raw inside => .placeholder (trim inside) raw

def node (slice : Slice) : Node :=
  slice.piece.toNode

/-- Puts a literal character in front of slices. -/
def addChar (c : Char) : List Slice → List Slice
  | .literal text :: rest => .literal (c :: text) :: rest
  | slices => .literal [c] :: slices

/-- Whether a complete placeholder begins a text, with a name or with none. -/
def Begins (text : List Char) : Prop :=
  ∃ raw inside after, '\x7d' ∉ inside ∧ text = spell (.placeholder raw inside) ++ after

/-- The cutting of a text into slices from left to right. -/
inductive Decomposed : List Char → List Slice → Prop where
  | nil : Decomposed [] []
  | named (raw : Bool) {inside after : List Char} {slices : List Slice} (closed : '\x7d' ∉ inside)
      (named : trim inside ≠ []) (behind : Decomposed after slices) :
      Decomposed (spell (.placeholder raw inside) ++ after) (.placeholder raw inside :: slices)
  | blank (raw : Bool) {inside after : List Char} {slices : List Slice} (blank : trim inside = [])
      (behind : Decomposed after slices) :
      Decomposed (spell (.placeholder raw inside) ++ after)
        ((spell (.placeholder raw inside)).foldr addChar slices)
  | other {c : Char} {rest : List Char} {slices : List Slice} (incomplete : ¬Begins (c :: rest))
      (behind : Decomposed rest slices) : Decomposed (c :: rest) (addChar c slices)

variable {raw : Bool} {c : Char} {text inside after rest : List Char} {slices : List Slice}

/-! ### Where placeholders begin -/

theorem sigil?_eq_some_iff : TextPiece.sigil? c = some raw ↔ c = sigil raw := by
  unfold TextPiece.sigil? sigil
  split <;> cases raw <;> simp_all

theorem begins_cons_iff : Begins (c :: rest) ↔
    (∃ raw, c = sigil raw) ∧ rest.head? = some '\x7b' ∧ '\x7d' ∈ rest := by
  constructor
  · rintro ⟨raw, inside, after, -, same⟩
    simp only [spell, List.cons_append, List.cons.injEq] at same
    obtain ⟨rfl, rfl⟩ := same
    refine ⟨⟨raw, rfl⟩, rfl, ?_⟩
    simp
  · rintro ⟨⟨raw, rfl⟩, opened, closed⟩
    obtain ⟨behind, rfl⟩ : ∃ behind, rest = '\x7b' :: behind := by
      cases rest <;> simp_all
    simp only [List.mem_cons, Char.reduceEq, false_or] at closed
    obtain ⟨inside, after, rfl, first⟩ := List.eq_append_cons_of_mem closed
    exact ⟨raw, inside, after, first, by simp [spell]⟩

theorem begins_spell (closed : '\x7d' ∉ inside) (after : List Char) :
    Begins (spell (.placeholder raw inside) ++ after) :=
  ⟨raw, inside, after, closed, rfl⟩

theorem not_mem_of_blank (blank : trim inside = []) : '\x7d' ∉ inside := by
  intro member
  have := Text.trim_eq_nil_iff.1 blank _ member
  cases this

theorem placeholder?_spell (closed : '\x7d' ∉ inside) (after : List Char) :
    TextPiece.placeholder? (spell (.placeholder raw inside) ++ after) =
      if trim inside = [] then none else some (piece (.placeholder raw inside), after) := by
  have open? : ∀ c ∈ inside, (c != '\x7d') = true := by
    intro c member
    rw [bne_iff_ne]
    rintro rfl
    exact closed member
  have taken : (inside ++ '\x7d' :: after).takeWhile (· != '\x7d') = inside := by
    rw [List.takeWhile_append_of_pos open?]
    simp
  have dropped : (inside ++ '\x7d' :: after).dropWhile (· != '\x7d') = '\x7d' :: after := by
    rw [List.dropWhile_append_of_pos open?]
    simp
  simp only [spell, List.cons_append, List.append_assoc, List.nil_append, TextPiece.placeholder?,
    sigil?_eq_some_iff.2 rfl, taken, dropped]
  cases named : trim inside with
  | nil => rfl
  | cons first name => simp [piece, named]

theorem placeholder?_of_not_begins (incomplete : ¬Begins text) : TextPiece.placeholder? text = none := by
  cases found : TextPiece.placeholder? text with
  | none => rfl
  | some result =>
      refine absurd ?_ incomplete
      unfold TextPiece.placeholder? at found
      split at found
      · rename_i c rest
        split at found
        · rename_i raw _ _ last _ signed _ behind
          rw [begins_cons_iff]
          refine ⟨⟨raw, sigil?_eq_some_iff.1 signed⟩, rfl, List.mem_cons_of_mem _ ?_⟩
          have stops := List.head?_dropWhile_not (· != '\x7d') rest
          have member : last ∈ rest.dropWhile (· != '\x7d') := by simp [behind]
          simp only [behind, List.head?_cons, bne_eq_false_iff_eq] at stops
          rw [← stops]
          exact (List.dropWhile_suffix _).subset member
        · cases found
      · cases found

/-! ### Scanning -/

theorem split_of_none (absent : TextPiece.placeholder? (c :: rest) = none) :
    TextPiece.split (c :: rest) = TextPiece.addChar c (TextPiece.split rest) := by
  rw [TextPiece.split]
  split
  · simp_all
  · rfl

theorem split_of_some {piece : TextPiece} (found : TextPiece.placeholder? text = some (piece, after)) :
    TextPiece.split text = piece :: TextPiece.split after := by
  cases text with
  | nil => cases found
  | cons c rest =>
      rw [TextPiece.split]
      split
      · simp_all
      · simp_all

theorem map_piece_addChar (c : Char) (slices : List Slice) :
    (addChar c slices).map piece = TextPiece.addChar c (slices.map piece) := by
  rcases slices with _ | ⟨_ | _, rest⟩ <;> rfl

theorem map_piece_foldr (text : List Char) (slices : List Slice) :
    (text.foldr addChar slices).map piece = text.foldr TextPiece.addChar (slices.map piece) := by
  induction text with
  | nil => rfl
  | cons c rest ih => rw [List.foldr_cons, List.foldr_cons, map_piece_addChar, ih]

/-- Text without signs is literal, whatever stands behind it. -/
theorem split_append_of_plain (plain : ∀ c ∈ text, ∀ raw, c ≠ sigil raw) (after : List Char) :
    TextPiece.split (text ++ after) = text.foldr TextPiece.addChar (TextPiece.split after) := by
  induction text with
  | nil => rfl
  | cons c rest ih =>
      rw [List.forall_mem_cons] at plain
      have incomplete : ¬Begins (c :: (rest ++ after)) := by
        rw [begins_cons_iff]
        rintro ⟨⟨raw, same⟩, -⟩
        exact plain.1 raw same
      rw [List.cons_append, split_of_none (placeholder?_of_not_begins incomplete), ih plain.2,
        List.foldr_cons]

/-- Behind the sign of a blank placeholder there are no more signs. -/
theorem plain_of_blank (blank : trim inside = []) :
    ∀ c ∈ '\x7b' :: (inside ++ ['\x7d']), ∀ raw, c ≠ sigil raw := by
  intro c member raw
  simp only [List.mem_cons, List.mem_append, List.not_mem_nil, or_false] at member
  rcases member with rfl | space | rfl
  · cases raw <;> decide
  · rintro rfl
    have := Text.trim_eq_nil_iff.1 blank _ space
    cases raw <;> cases this
  · cases raw <;> decide

theorem split_of_blank (blank : trim inside = []) (after : List Char) :
    TextPiece.split (spell (.placeholder raw inside) ++ after) =
      (spell (.placeholder raw inside)).foldr TextPiece.addChar (TextPiece.split after) := by
  have absent : TextPiece.placeholder? (spell (.placeholder raw inside) ++ after) = _ :=
    placeholder?_spell (not_mem_of_blank blank) after
  rw [if_pos blank] at absent
  rw [spell, List.cons_append] at absent ⊢
  rw [split_of_none absent, split_append_of_plain (plain_of_blank blank), List.foldr_cons (a := sigil raw)]

/-- Scanning finds the slices of a text. -/
theorem Decomposed.split_eq (decomposed : Decomposed text slices) :
    TextPiece.split text = slices.map piece := by
  induction decomposed with
  | nil => rw [TextPiece.split, List.map_nil]
  | named raw closed named _ ih =>
      rw [List.map_cons, ← ih]
      apply split_of_some
      rw [placeholder?_spell closed, if_neg named]
  | blank raw blank _ ih => rw [split_of_blank blank, ih, map_piece_foldr]
  | other incomplete _ ih =>
      rw [split_of_none (placeholder?_of_not_begins incomplete), ih, map_piece_addChar]

theorem exists_decomposed (text : List Char) : ∃ slices, Decomposed text slices := by
  induction measure : text.length using Nat.strong_induction_on generalizing text with
  | _ size ih =>
      cases text with
      | nil => exact ⟨[], .nil⟩
      | cons c rest =>
          by_cases begins : Begins (c :: rest)
          · obtain ⟨raw, inside, after, closed, same⟩ := begins
            have shorter : after.length < size := by
              rw [← measure, same]
              simp [spell]
              omega
            obtain ⟨slices, behind⟩ := ih _ shorter after rfl
            rw [same]
            by_cases blank : trim inside = []
            · exact ⟨_, .blank raw blank behind⟩
            · exact ⟨_, .named raw closed blank behind⟩
          · obtain ⟨slices, behind⟩ := ih rest.length (by simp [← measure]) rest rfl
            exact ⟨_, .other begins behind⟩

/-! ### What slices are made of -/

theorem flatMap_spell_addChar (c : Char) (slices : List Slice) :
    (addChar c slices).flatMap spell = c :: slices.flatMap spell := by
  rcases slices with _ | ⟨_ | _, rest⟩ <;> rfl

theorem flatMap_spell_foldr (text : List Char) (slices : List Slice) :
    (text.foldr addChar slices).flatMap spell = text ++ slices.flatMap spell := by
  induction text with
  | nil => rfl
  | cons c rest ih => rw [List.foldr_cons, flatMap_spell_addChar, ih, List.cons_append]

theorem Decomposed.flatMap_spell (decomposed : Decomposed text slices) :
    slices.flatMap spell = text := by
  induction decomposed with
  | nil => rfl
  | named raw closed named _ ih => rw [List.flatMap_cons, ih]
  | blank raw blank _ ih => rw [flatMap_spell_foldr, ih]
  | other incomplete _ ih => rw [flatMap_spell_addChar, ih]

theorem mem_addChar : .placeholder raw inside ∈ addChar c slices ↔ .placeholder raw inside ∈ slices := by
  rcases slices with _ | ⟨_ | _, rest⟩ <;> simp [addChar]

theorem mem_foldr_addChar :
    .placeholder raw inside ∈ text.foldr addChar slices ↔ .placeholder raw inside ∈ slices := by
  induction text with
  | nil => rfl
  | cons c rest ih => rw [List.foldr_cons, mem_addChar, ih]

theorem Decomposed.named_of_mem (decomposed : Decomposed text slices)
    (member : .placeholder raw inside ∈ slices) : '\x7d' ∉ inside ∧ trim inside ≠ [] := by
  induction decomposed with
  | nil => cases member
  | named _ closed named _ ih =>
      rcases List.mem_cons.1 member with same | later
      · cases same
        exact ⟨closed, named⟩
      · exact ih later
  | blank raw blank _ ih => exact ih (mem_foldr_addChar.1 member)
  | other incomplete _ ih => exact ih (mem_addChar.1 member)

theorem areSeparate_addChar (separate : Node.AreSeparate (slices.map node)) (c : Char) :
    Node.AreSeparate ((addChar c slices).map node) := by
  have filled (text : List Char) : Node.text (String.ofList (c :: text)) ≠ .text "" := by
    simp
  match slices with
  | .literal text :: rest =>
      have first := Node.areSeparate_cons_iff.1 separate
      exact Node.areSeparate_cons_iff.2 ⟨filled text, first.2⟩
  | .placeholder raw inside :: rest =>
      refine Node.areSeparate_cons_iff.2 ⟨filled [], ?_, separate⟩
      rintro _ ⟨⟩ ⟨-, isText⟩
      cases isText
  | [] => exact Node.areSeparate_cons_iff.2 ⟨filled [], by simp, separate⟩

theorem Decomposed.areSeparate (decomposed : Decomposed text slices) :
    Node.AreSeparate (slices.map node) := by
  induction decomposed with
  | nil => exact Node.areSeparate_nil
  | named raw closed named _ ih =>
      refine Node.areSeparate_cons_iff.2 ⟨?_, ?_, ih⟩
      · rintro ⟨⟩
      · rintro next - ⟨isText, -⟩
        cases isText
  | @blank raw inside _ _ blank _ ih =>
      generalize spell (.placeholder raw inside) = text
      induction text with
      | nil => exact ih
      | cons c rest later => exact areSeparate_addChar later c
  | other incomplete _ ih => exact areSeparate_addChar ih _

/-! ### One decomposition only -/

theorem append_closing_inj {inside other after behind : List Char} (closed : '\x7d' ∉ inside)
    (closedOther : '\x7d' ∉ other) (same : inside ++ '\x7d' :: after = other ++ '\x7d' :: behind) :
    inside = other ∧ after = behind := by
  induction inside generalizing other with
  | nil =>
      cases other with
      | nil => exact ⟨rfl, (List.cons.inj same).2⟩
      | cons c others => exact absurd (List.mem_cons.2 (.inl (List.cons.inj same).1)) closedOther
  | cons c rest ih =>
      cases other with
      | nil => exact absurd (List.mem_cons.2 (.inl (List.cons.inj same).1.symm)) closed
      | cons d others =>
          simp only [List.mem_cons, not_or] at closed closedOther
          simp only [List.cons_append, List.cons.injEq] at same
          obtain ⟨rfl, behind⟩ := same
          obtain ⟨rfl, rfl⟩ := ih closed.2 closedOther.2 behind
          exact ⟨rfl, rfl⟩

theorem spell_append_inj {other : Bool} {insideOther afterOther : List Char}
    (closed : '\x7d' ∉ inside) (closedOther : '\x7d' ∉ insideOther)
    (same : spell (.placeholder raw inside) ++ after =
      spell (.placeholder other insideOther) ++ afterOther) :
    raw = other ∧ inside = insideOther ∧ after = afterOther := by
  simp only [spell, List.cons_append, List.append_assoc, List.cons.injEq, true_and,
    List.nil_append] at same
  have signs : raw = other := by
    cases raw <;> cases other <;> first | rfl | exact absurd same.1 (by decide)
  exact ⟨signs, append_closing_inj closed closedOther same.2⟩

/-- How the slices of a text begin. -/
theorem Decomposed.begins (decomposed : Decomposed (spell (.placeholder raw inside) ++ after) slices)
    (closed : '\x7d' ∉ inside) :
    ∃ later, Decomposed after later ∧
      slices = if trim inside = [] then (spell (.placeholder raw inside)).foldr addChar later
        else .placeholder raw inside :: later := by
  generalize whole : spell (.placeholder raw inside) ++ after = text at decomposed
  cases decomposed with
  | nil => cases whole
  | named _ closedOther named behind =>
      obtain ⟨rfl, rfl, rfl⟩ := spell_append_inj closed closedOther whole
      exact ⟨_, behind, by rw [if_neg named]⟩
  | blank _ blank behind =>
      obtain ⟨rfl, rfl, rfl⟩ := spell_append_inj closed (not_mem_of_blank blank) whole
      exact ⟨_, behind, by rw [if_pos blank]⟩
  | other incomplete behind =>
      rw [← whole] at incomplete
      exact absurd (begins_spell closed after) incomplete

theorem Decomposed.unique {others : List Slice} (decomposed : Decomposed text slices)
    (other : Decomposed text others) : others = slices := by
  induction decomposed generalizing others with
  | nil =>
      generalize whole : [] = text at other
      cases other <;> first | rfl | cases whole
  | named raw closed named _ ih =>
      obtain ⟨later, behind, rfl⟩ := other.begins closed
      rw [if_neg named, ih behind]
  | blank raw blank _ ih =>
      obtain ⟨later, behind, rfl⟩ := other.begins (not_mem_of_blank blank)
      rw [if_pos blank, ih behind]
  | @other c rest _ incomplete _ ih =>
      generalize whole : c :: rest = text at other
      cases other with
      | nil => cases whole
      | named _ closed _ behind =>
          rw [whole] at incomplete
          exact absurd (begins_spell closed _) incomplete
      | blank _ blank behind =>
          rw [whole] at incomplete
          exact absurd (begins_spell (not_mem_of_blank blank) _) incomplete
      | other _ behind =>
          cases whole
          rw [ih behind]

/-! ### Printing -/

/-- A placeholder with nothing but its name in the braces. -/
def tidy : Slice → Slice
  | .literal text => .literal text
  | .placeholder raw inside => .placeholder raw (trim inside)

theorem map_tidy_addChar (c : Char) (slices : List Slice) :
    (addChar c slices).map tidy = addChar c (slices.map tidy) := by
  rcases slices with _ | ⟨_ | _, rest⟩ <;> rfl

theorem map_tidy_foldr (text : List Char) (slices : List Slice) :
    (text.foldr addChar slices).map tidy = text.foldr addChar (slices.map tidy) := by
  induction text with
  | nil => rfl
  | cons c rest ih => rw [List.foldr_cons, List.foldr_cons, map_tidy_addChar, ih]

theorem head?_spell_tidy (slices : List Slice) :
    ((slices.map tidy).flatMap spell).head? = (slices.flatMap spell).head? := by
  induction slices with
  | nil => rfl
  | cons slice rest ih =>
      cases slice with
      | literal text => cases text <;> simp_all [tidy, spell]
      | placeholder raw inside => rfl

theorem mem_spell_tidy (slices : List Slice) :
    '\x7d' ∈ (slices.map tidy).flatMap spell ↔ '\x7d' ∈ slices.flatMap spell := by
  induction slices with
  | nil => rfl
  | cons slice rest ih =>
      cases slice with
      | literal text => simp_all [tidy, spell]
      | placeholder raw inside => simp [tidy, spell]

/-- Whatever is cut out of names, the slices stay the same. -/
theorem Decomposed.tidy (decomposed : Decomposed text slices) :
    Decomposed ((slices.map tidy).flatMap spell) (slices.map tidy) := by
  induction decomposed with
  | nil => exact .nil
  | named raw closed named _ ih =>
      apply Decomposed.named raw _ _ ih
      · intro member
        exact closed (Text.trim_subset _ member)
      · rwa [Text.trim_trim]
  | blank raw blank _ ih =>
      rw [map_tidy_foldr, flatMap_spell_foldr]
      exact .blank raw blank ih
  | @other c rest slices incomplete behind ih =>
      rw [map_tidy_addChar, flatMap_spell_addChar]
      apply Decomposed.other _ ih
      rw [begins_cons_iff, head?_spell_tidy, mem_spell_tidy, behind.flatMap_spell, ← begins_cons_iff]
      exact incomplete

end Slice

namespace Node

/-- The characters of a text or of a placeholder. -/
def characters : Node → List Char
  | .text content => content.toList
  | .parameter name raw => Slice.spell (.placeholder raw name.toList)
  | _ => []

/-- What nodes are scanned from, each placeholder with nothing but its name in the braces. -/
def printed (nodes : List Node) : String :=
  String.ofList (nodes.flatMap characters)

theorem printed_map_node (slices : List Slice) :
    printed (slices.map Slice.node) = String.ofList ((slices.map Slice.tidy).flatMap Slice.spell) := by
  rw [printed, List.flatMap_map, List.flatMap_map]
  congr 2
  funext slice
  cases slice <;> simp [Slice.node, Slice.piece, TextPiece.toNode, characters, Slice.tidy, Slice.spell]

theorem scan_of_decomposed {text : String} {slices : List Slice}
    (decomposed : Slice.Decomposed text.toList slices) : scan text = slices.map Slice.node := by
  rw [scan, decomposed.split_eq, List.map_map]
  rfl

theorem areSeparate_scan (text : String) : AreSeparate (scan text) := by
  obtain ⟨slices, decomposed⟩ := Slice.exists_decomposed text.toList
  rw [scan_of_decomposed decomposed]
  exact decomposed.areSeparate

/-- A text has one decomposition, which scanning finds.  It loses nothing, texts are as long as they can
be, names are trimmed, and the nodes are found again in what is printed of them. -/
theorem scan_decomposes (text : String) :
    ∃ slices, (∀ others, Slice.Decomposed text.toList others ↔ others = slices) ∧
      scan text = slices.map Slice.node ∧
      slices.flatMap Slice.spell = text.toList ∧
      AreSeparate (scan text) ∧
      (∀ name raw, parameter name raw ∈ scan text →
        name ≠ "" ∧ Text.trimmed name = name ∧ '\x7d' ∉ name.toList) ∧
      scan (printed (scan text)) = scan text := by
  obtain ⟨slices, decomposed⟩ := Slice.exists_decomposed text.toList
  have scanned := scan_of_decomposed decomposed
  refine ⟨slices, ?_, scanned, decomposed.flatMap_spell, areSeparate_scan text, ?_, ?_⟩
  · intro others
    constructor
    · intro other
      exact decomposed.unique other
    · rintro rfl
      exact decomposed
  · intro name raw member
    rw [scanned, List.mem_map] at member
    obtain ⟨slice, cut, same⟩ := member
    cases slice with
    | literal text => cases same
    | placeholder raw inside =>
        cases same
        obtain ⟨closed, named⟩ := decomposed.named_of_mem cut
        refine ⟨by simpa using named, ?_, ?_⟩
        · rw [Text.trimmed, String.toList_ofList, Text.trim_trim]
        · rw [String.toList_ofList]
          intro inName
          exact closed (Text.trim_subset _ inName)
  · have again : Slice.Decomposed (printed (scan text)).toList (slices.map Slice.tidy) := by
      rw [scanned, printed_map_node, String.toList_ofList]
      exact decomposed.tidy
    rw [scan_of_decomposed again, scanned, List.map_map]
    apply List.map_congr_left
    intro slice _
    cases slice <;> simp [Slice.tidy, Slice.node, Slice.piece, Text.trim_trim]

end Node

end SqlMapper
