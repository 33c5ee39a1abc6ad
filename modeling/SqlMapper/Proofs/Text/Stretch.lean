import SqlMapper.Proofs.Text.Bytes
import Mathlib

/-!
# Stretches of a text

Places in a text are counted in bytes.  A stretch from one place to another holds what stands between
them, and its bytes are those of the text from the first place up to the second.
-/

namespace SqlMapper.Text

/-- Whether a text stands between two places of another one. -/
def Occupies (whole : List Char) (start stop : Nat) (inside : List Char) : Prop :=
  ∃ before, before ++ inside <+: whole ∧ utf8Length before = start ∧ utf8Length (before ++ inside) = stop

/-- Whether the text in front of a place ends with a character. -/
def EndsWith (whole : List Char) (stop : Nat) (last : Char) : Prop :=
  ∃ before, before ++ [last] <+: whole ∧ utf8Length (before ++ [last]) = stop

variable {whole inside : List Char} {start middle stop : Nat} {last : Char}

theorem utf8Length_le_of_isPrefix {front : List Char} (isPrefix : front <+: whole) :
    utf8Length front ≤ utf8Length whole := by
  obtain ⟨after, rfl⟩ := isPrefix
  simp

/-- The one of two beginnings of a text that has fewer bytes is the beginning of the other. -/
theorem isPrefix_of_utf8Length_le {front longer : List Char} (isPrefix : front <+: whole)
    (also : longer <+: whole) (shorter : utf8Length front ≤ utf8Length longer) : front <+: longer := by
  rcases List.prefix_or_prefix_of_prefix isPrefix also with before | ⟨more, rfl⟩
  · exact before
  · rw [utf8Length_append] at shorter
    have none : more = [] := by
      by_contra some
      have := utf8Length_pos some
      omega
    rw [none, List.append_nil]

namespace Occupies

theorem start_le (occupies : Occupies whole start stop inside) : start ≤ stop := by
  obtain ⟨before, -, rfl, rfl⟩ := occupies
  simp

theorem start_lt (occupies : Occupies whole start stop inside) (nonempty : inside ≠ []) :
    start < stop := by
  obtain ⟨before, -, rfl, rfl⟩ := occupies
  have := utf8Length_pos nonempty
  rw [utf8Length_append]
  omega

theorem stop_le (occupies : Occupies whole start stop inside) : stop ≤ utf8Length whole := by
  obtain ⟨before, isPrefix, -, rfl⟩ := occupies
  exact utf8Length_le_of_isPrefix isPrefix

theorem endsWith (occupies : Occupies whole start stop inside) (ends : [last] <:+ inside) :
    EndsWith whole stop last := by
  obtain ⟨before, isPrefix, -, rfl⟩ := occupies
  obtain ⟨front, rfl⟩ := ends
  rw [← List.append_assoc] at isPrefix ⊢
  exact ⟨before ++ front, isPrefix, rfl⟩

/-- A stretch goes on up to any later place. -/
theorem extend (occupies : Occupies whole start middle inside) (nonempty : inside ≠ [])
    (later : middle ≤ stop) (ends : EndsWith whole stop last) :
    ∃ more, Occupies whole start stop (inside ++ more) ∧ [last] <:+ inside ++ more := by
  obtain ⟨before, isPrefix, rfl, rfl⟩ := occupies
  obtain ⟨front, also, rfl⟩ := ends
  obtain ⟨more, joined⟩ := isPrefix_of_utf8Length_le isPrefix also later
  rw [List.append_assoc] at joined
  refine ⟨more, ⟨before, joined ▸ also, rfl, congrArg utf8Length joined⟩, ?_⟩
  have suffix : [last] <:+ before ++ (inside ++ more) := joined ▸ List.suffix_append front [last]
  apply List.suffix_of_suffix_length_le suffix (List.suffix_append before _)
  rw [List.length_append]
  exact Nat.le_add_right_of_le (List.length_pos_iff.2 nonempty)

/-- The bytes of a text between the places are those of the stretch. -/
theorem bytes_eq (occupies : Occupies whole start stop inside) :
    ((whole.flatMap String.utf8EncodeChar).drop start).take (stop - start) =
      inside.flatMap String.utf8EncodeChar := by
  obtain ⟨before, ⟨after, rfl⟩, rfl, rfl⟩ := occupies
  have length := length_flatMap_utf8EncodeChar
  rw [List.append_assoc, List.flatMap_append, List.drop_left' (length before), List.flatMap_append,
    utf8Length_append, Nat.add_sub_cancel_left, List.take_left' (length inside)]

end Occupies

/-! ### Boundaries of characters -/

theorem isValid_utf8Length {source : String} {front : List Char} (isPrefix : front <+: source.toList) :
    String.Pos.Raw.IsValid source ⟨utf8Length front⟩ := by
  obtain ⟨after, whole⟩ := isPrefix
  refine String.Pos.Raw.isValid_iff_exists_append.2 ⟨.ofList front, .ofList after, ?_, ?_⟩
  · rw [← String.ofList_append, whole, String.ofList_toList]
  · rw [String.rawEndPos, ← utf8Length_toList, String.toList_ofList]

/-- A stretch begins and ends between two characters. -/
theorem Occupies.isValid {source : String} (occupies : Occupies source.toList start stop inside) :
    String.Pos.Raw.IsValid source ⟨start⟩ ∧ String.Pos.Raw.IsValid source ⟨stop⟩ := by
  obtain ⟨before, isPrefix, rfl, rfl⟩ := occupies
  exact ⟨isValid_utf8Length ((List.prefix_append _ _).trans isPrefix), isValid_utf8Length isPrefix⟩

end SqlMapper.Text
