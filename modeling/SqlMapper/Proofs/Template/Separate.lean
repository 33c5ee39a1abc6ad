import Mathlib.Data.List.Chain
import SqlMapper.Proofs.Mapper.Content

/-!
# Separate nodes

Nodes are kept with texts as long as they can be: no text is empty, and none follows another.  Adding
nodes one by one keeps them so.  Two such lists are the same if they spell the same characters with the
same nodes between.
-/

namespace SqlMapper.Node

def isText : Node → Bool
  | .text _ => true
  | _ => false

/-- Whether no text in a list is empty and none follows another. -/
structure AreSeparate (nodes : List Node) : Prop where
  filled : text "" ∉ nodes
  apart : nodes.IsChain fun first second => ¬(first.isText ∧ second.isText)

variable {nodes rest added : List Node} {node : Node} {content last : String}

theorem isText_iff : node.isText ↔ ∃ content, node = text content := by
  cases node <;> simp [isText]

theorem areSeparate_nil : AreSeparate [] :=
  ⟨by simp, .nil⟩

theorem areSeparate_cons_iff : AreSeparate (node :: rest) ↔
    node ≠ text "" ∧ (∀ next ∈ rest.head?, ¬(node.isText ∧ next.isText)) ∧ AreSeparate rest := by
  constructor
  · intro ⟨filled, apart⟩
    rw [List.mem_cons, not_or] at filled
    rw [List.isChain_cons] at apart
    exact ⟨Ne.symm filled.1, apart.1, filled.2, apart.2⟩
  · intro ⟨first, next, filled, apart⟩
    constructor
    · rw [List.mem_cons, not_or]
      exact ⟨Ne.symm first, filled⟩
    · exact List.isChain_cons.2 ⟨next, apart⟩

theorem areSeparate_concat_iff : AreSeparate (nodes ++ [node]) ↔
    AreSeparate nodes ∧ node ≠ text "" ∧ ∀ before ∈ nodes.getLast?, ¬(before.isText ∧ node.isText) := by
  constructor
  · intro ⟨filled, apart⟩
    rw [List.mem_append, List.mem_singleton, not_or] at filled
    rw [List.isChain_append] at apart
    exact ⟨⟨filled.1, apart.1⟩, Ne.symm filled.2, fun before ends => apart.2.2 before ends node rfl⟩
  · intro ⟨⟨filled, apart⟩, solid, next⟩
    constructor
    · rw [List.mem_append, List.mem_singleton, not_or]
      exact ⟨filled, Ne.symm solid⟩
    · rw [List.isChain_append]
      refine ⟨apart, .singleton _, ?_⟩
      simpa using next

/-! ### Adding nodes -/

theorem appendText_concat_text (nodes : List Node) (last content : String) :
    appendText content (nodes ++ [text last]) = nodes ++ [text (last ++ content)] := by
  induction nodes with
  | nil => rfl
  | cons node rest ih => rw [List.cons_append, appendText_cons (by simp), ih, List.cons_append]

theorem appendText_concat_of_not_isText (other : ¬node.isText) (nodes : List Node) (content : String) :
    appendText content (nodes ++ [node]) = nodes ++ [node] ++ [text content] := by
  induction nodes with
  | nil => cases node <;> first | rfl | exact absurd rfl other
  | cons node rest ih => simp [appendText_cons, ih]

theorem append_of_not_isText (other : ¬node.isText) (nodes : List Node) :
    append nodes node = nodes ++ [node] := by
  cases node <;> first | rfl | exact absurd rfl other

theorem AreSeparate.appendText (separate : AreSeparate nodes) (filled : content ≠ "") :
    AreSeparate (appendText content nodes) := by
  rcases List.eq_nil_or_concat nodes with rfl | ⟨start, final, rfl⟩
  · rw [Node.appendText, areSeparate_cons_iff]
    exact ⟨by simpa using filled, by simp, areSeparate_nil⟩
  · rw [List.concat_eq_append, areSeparate_concat_iff] at separate
    rw [List.concat_eq_append]
    cases kind : final.isText with
    | true =>
        obtain ⟨last, rfl⟩ := isText_iff.1 kind
        rw [appendText_concat_text, areSeparate_concat_iff]
        refine ⟨separate.1, ?_, separate.2.2⟩
        simp [filled]
    | false =>
        rw [appendText_concat_of_not_isText (by simp [kind]), areSeparate_concat_iff,
          areSeparate_concat_iff]
        refine ⟨separate, ?_, ?_⟩
        · simpa using filled
        · simp [kind]

theorem AreSeparate.append (separate : AreSeparate nodes) (node : Node) :
    AreSeparate (append nodes node) := by
  cases kind : node.isText with
  | true =>
      obtain ⟨content, rfl⟩ := isText_iff.1 kind
      rw [Node.append]
      split
      · exact separate
      · rename_i filled
        apply separate.appendText
        simpa using filled
  | false =>
      rw [append_of_not_isText (by simp [kind]), areSeparate_concat_iff]
      refine ⟨separate, ?_, ?_⟩
      · rintro rfl
        cases kind
      · simp [kind]

theorem AreSeparate.appendAll (separate : AreSeparate nodes) (added : List Node) :
    AreSeparate (appendAll nodes added) := by
  induction added generalizing nodes with
  | nil => exact separate
  | cons node rest ih =>
      rw [appendAll_cons]
      apply ih
      apply separate.append

theorem areSeparate_joined (nodes : List Node) : AreSeparate (joined nodes) :=
  areSeparate_nil.appendAll nodes

/-! ### What nodes spell -/

/-- The characters of texts and the nodes between them. -/
def strokes (nodes : List Node) : List (Char ⊕ Node) :=
  nodes.flatMap fun
    | .text content => content.toList.map .inl
    | node => [.inr node]

@[simp]
theorem strokes_nil : strokes [] = [] := rfl

theorem strokes_text (content : String) (rest : List Node) :
    strokes (text content :: rest) = content.toList.map .inl ++ strokes rest := rfl

theorem strokes_cons_of_not_isText (other : ¬node.isText) (rest : List Node) :
    strokes (node :: rest) = .inr node :: strokes rest := by
  cases node <;> first | rfl | exact absurd rfl other

theorem strokes_append (first second : List Node) :
    strokes (first ++ second) = strokes first ++ strokes second := by
  simp [strokes]

theorem strokes_appendText (content : String) (nodes : List Node) :
    strokes (appendText content nodes) = strokes nodes ++ content.toList.map .inl := by
  fun_induction Node.appendText content nodes with
  | case1 => simp [strokes]
  | case2 last => simp [strokes]
  | case3 node rest other ih => rw [← List.singleton_append, strokes_append, ih, ← List.append_assoc,
      ← strokes_append, List.singleton_append]

theorem strokes_append_node (nodes : List Node) (node : Node) :
    strokes (Node.append nodes node) = strokes nodes ++ strokes [node] := by
  cases kind : node.isText with
  | true =>
      obtain ⟨content, rfl⟩ := isText_iff.1 kind
      rw [Node.append]
      split
      · rename_i empty
        rw [String.isEmpty_iff] at empty
        simp [strokes, empty]
      · rw [strokes_appendText, strokes_text, strokes_nil, List.append_nil]
  | false => rw [append_of_not_isText (by simp [kind]), strokes_append]

theorem strokes_appendAll (nodes added : List Node) :
    strokes (appendAll nodes added) = strokes nodes ++ strokes added := by
  induction added generalizing nodes with
  | nil => simp [appendAll]
  | cons node rest ih =>
      rw [appendAll_cons, ih, strokes_append_node, List.append_assoc, ← strokes_append,
        List.singleton_append]

theorem strokes_joined (nodes : List Node) : strokes (joined nodes) = strokes nodes :=
  strokes_appendAll [] nodes

theorem strokes_eq_nil_iff (separate : AreSeparate nodes) : strokes nodes = [] ↔ nodes = [] := by
  cases nodes with
  | nil => simp
  | cons node rest =>
      have filled := (areSeparate_cons_iff.1 separate).1
      cases node <;> simp_all [strokes]

/-- A text takes all the characters at its place. -/
theorem takeWhile_strokes (separate : AreSeparate (text content :: rest)) :
    (strokes (text content :: rest)).takeWhile Sum.isLeft = content.toList.map .inl := by
  have next := (areSeparate_cons_iff.1 separate).2.1
  rw [strokes_text, List.takeWhile_append_of_pos (by simp)]
  cases rest with
  | nil => simp
  | cons node rest =>
      rw [strokes_cons_of_not_isText]
      · simp
      · intro isText
        exact next node rfl ⟨rfl, isText⟩

theorem strokes_text_ne (separate : AreSeparate (text content :: rest)) (other : ¬node.isText)
    (more : List Node) : strokes (text content :: rest) ≠ strokes (node :: more) := by
  intro same
  have taken := takeWhile_strokes separate
  rw [same, strokes_cons_of_not_isText other] at taken
  apply (areSeparate_cons_iff.1 separate).1
  rw [← String.ofList_toList (s := content)]
  simp_all

/-- Separate nodes are told by what they spell. -/
theorem AreSeparate.eq_of_strokes {others : List Node} (separate : AreSeparate nodes)
    (separateOthers : AreSeparate others) (same : strokes nodes = strokes others) : nodes = others := by
  induction nodes generalizing others with
  | nil => exact ((strokes_eq_nil_iff separateOthers).1 same.symm).symm
  | cons node rest ih =>
      cases others with
      | nil => exact (strokes_eq_nil_iff separate).1 same
      | cons other more =>
          have behind := (areSeparate_cons_iff.1 separate).2.2
          have behindOther := (areSeparate_cons_iff.1 separateOthers).2.2
          cases kind : node.isText <;> cases kindOther : other.isText
          · rw [strokes_cons_of_not_isText (by simp [kind]),
              strokes_cons_of_not_isText (by simp [kindOther]), List.cons.injEq] at same
            rw [Sum.inr.inj same.1, ih behind behindOther same.2]
          · obtain ⟨content, rfl⟩ := isText_iff.1 kindOther
            exact absurd same.symm (strokes_text_ne separateOthers (by simp [kind]) rest)
          · obtain ⟨content, rfl⟩ := isText_iff.1 kind
            exact absurd same (strokes_text_ne separate (by simp [kindOther]) more)
          · obtain ⟨content, rfl⟩ := isText_iff.1 kind
            obtain ⟨contentOther, rfl⟩ := isText_iff.1 kindOther
            have chars : content.toList.map (.inl : Char → Char ⊕ Node) =
                contentOther.toList.map .inl := by
              rw [← takeWhile_strokes separate, ← takeWhile_strokes separateOthers, same]
            have equal : content = contentOther := by
              apply String.toList_injective
              exact (List.map_inj_right fun _ _ => Sum.inl.inj).1 chars
            subst equal
            rw [strokes_text, strokes_text, List.append_cancel_left_eq] at same
            rw [ih behind behindOther same]

theorem AreSeparate.joined_eq (separate : AreSeparate nodes) : joined nodes = nodes :=
  (areSeparate_joined nodes).eq_of_strokes separate (strokes_joined nodes)

end SqlMapper.Node
