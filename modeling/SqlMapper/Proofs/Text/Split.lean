import SqlMapper.Text.Split
import Mathlib

/-!
# Splitting and joining

A text split at a character is its pieces with this character between, and no piece holds it.  Joining
any other pieces that are free of the character and splitting again gives them back, so the pieces are
the only ones that write the text.
-/

namespace SqlMapper.Text

theorem split_append_of_none {separates : Char → Bool} {piece : List Char} {separator : Char}
    (free : ∀ c ∈ piece, separates c = false) (isSeparator : separates separator) (rest : List Char) :
    split separates (piece ++ separator :: rest) = piece :: split separates rest := by
  induction piece with
  | nil => simp [split, isSeparator]
  | cons c more ih =>
      rw [List.forall_mem_cons] at free
      simp [split, free.1, ih free.2]

/-- A separator keeps the pieces on both sides apart. -/
theorem split_append {separates : Char → Bool} {separator : Char} (isSeparator : separates separator)
    (first rest : List Char) :
    split separates (first ++ separator :: rest) = split separates first ++ split separates rest := by
  induction first with
  | nil => simp [split, isSeparator]
  | cons c more ih =>
      obtain ⟨piece, pieces, cut⟩ := List.exists_cons_of_ne_nil (split_ne_nil separates more)
      rw [cut] at ih
      cases ends : separates c <;> simp [split, ends, ih, cut]

/-- Pieces without separators are what their text with separators between is split into. -/
theorem split_intercalate {separator : Char} {pieces : List (List Char)} (some_piece : pieces ≠ [])
    (free : ∀ piece ∈ pieces, separator ∉ piece) :
    split (· == separator) ([separator].intercalate pieces) = pieces := by
  induction pieces with
  | nil => exact absurd rfl some_piece
  | cons first rest ih =>
      rw [List.forall_mem_cons] at free
      have none : ∀ c ∈ first, (c == separator) = false := fun c member =>
        beq_false_of_ne fun same => free.1 (same ▸ member)
      cases rest with
      | nil => rw [List.intercalate_singleton, split_of_none none]
      | cons second others =>
          rw [List.intercalate_cons_cons, List.append_assoc, List.singleton_append,
            split_append_of_none none (beq_self_eq_true separator), ih (List.cons_ne_nil _ _) free.2]

theorem forall_mem_intercalate {holds : Char → Bool} {separator : List Char} {pieces : List (List Char)}
    (between : ∀ c ∈ separator, holds c) (within : ∀ piece ∈ pieces, ∀ c ∈ piece, holds c) :
    ∀ c ∈ separator.intercalate pieces, holds c := by
  induction pieces with
  | nil => exact List.forall_mem_nil _
  | cons first rest ih =>
      rw [List.forall_mem_cons] at within
      cases rest with
      | nil => rw [List.intercalate_singleton]; exact within.1
      | cons second others =>
          rw [List.intercalate_cons_cons, List.forall_mem_append, List.forall_mem_append]
          exact ⟨⟨within.1, between⟩, ih within.2⟩

/-- Joining undoes splitting, whatever the text is. -/
theorem intercalate_split (separator : Char) (text : List Char) :
    [separator].intercalate (split (· == separator) text) = text := by
  induction text with
  | nil => rfl
  | cons c rest ih =>
      obtain ⟨piece, pieces, cut⟩ := List.exists_cons_of_ne_nil (split_ne_nil (· == separator) rest)
      rw [cut] at ih
      by_cases isSeparator : c = separator
      · simp [split, isSeparator, cut, List.intercalate_cons_cons, ih]
      · have other : (c == separator) = false := beq_false_of_ne isSeparator
        simp only [split, other, Bool.false_eq_true, if_false, cut]
        rw [← ih]
        cases pieces with
        | nil => simp
        | cons second others => simp [List.intercalate_cons_cons]

theorem mem_of_mem_split {separates : Char → Bool} {text piece : List Char} {c : Char}
    (isPiece : piece ∈ split separates text) (member : c ∈ piece) :
    c ∈ text ∧ separates c = false := by
  induction text generalizing piece with
  | nil =>
      cases List.mem_singleton.1 isPiece
      cases member
  | cons d rest ih =>
      obtain ⟨first, others, cut⟩ := List.exists_cons_of_ne_nil (split_ne_nil separates rest)
      rw [cut] at ih
      rw [split, cut] at isPiece
      split at isPiece
      · rcases List.mem_cons.1 isPiece with rfl | later
        · cases member
        · obtain ⟨inside, plain⟩ := ih later member
          exact ⟨List.mem_cons_of_mem _ inside, plain⟩
      · rename_i other
        rcases List.mem_cons.1 isPiece with rfl | later
        · rcases List.mem_cons.1 member with rfl | inFirst
          · exact ⟨List.mem_cons_self, by simpa using other⟩
          · obtain ⟨inside, plain⟩ := ih List.mem_cons_self inFirst
            exact ⟨List.mem_cons_of_mem _ inside, plain⟩
        · obtain ⟨inside, plain⟩ := ih (List.mem_cons_of_mem _ later) member
          exact ⟨List.mem_cons_of_mem _ inside, plain⟩

end SqlMapper.Text
