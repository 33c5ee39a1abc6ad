import SqlMapper.Text.Utf8
import Mathlib

/-!
# Bytes and their order

The UTF-8 form of a text has the bytes of its characters one after the other.  Texts are in the order of
their code points, and their bytes are in the same order: of two characters the greater one has the greater
byte where their bytes first differ, and that is before either of them ends.
-/

namespace SqlMapper.Text

/-- The bytes of the UTF-8 form. -/
def bytes (text : String) : List UInt8 :=
  text.toUTF8.data.toList

theorem bytes_eq_flatMap (text : String) : bytes text = text.toList.flatMap String.utf8EncodeChar := by
  have whole : bytes (String.ofList text.toList) = text.toList.flatMap String.utf8EncodeChar := by
    rw [bytes, String.toUTF8, String.toByteArray_ofList, List.utf8Encode, List.data_toByteArray]
  rwa [String.ofList_toList] at whole

theorem length_flatMap_utf8EncodeChar (text : List Char) :
    (text.flatMap String.utf8EncodeChar).length = utf8Length text := by
  induction text with
  | nil => rfl
  | cons c rest ih =>
      rw [List.flatMap_cons, List.length_append, String.length_utf8EncodeChar, ih, utf8Length_cons]

theorem length_bytes (text : String) : (bytes text).length = text.utf8ByteSize := by
  rw [bytes, Array.length_toList]
  rfl

theorem utf8Length_toList (text : String) : utf8Length text.toList = text.utf8ByteSize := by
  rw [← length_flatMap_utf8EncodeChar, ← bytes_eq_flatMap, length_bytes]

/-- Bytes that differ somewhere before either list ends, the first ones being smaller there. -/
inductive Diverge : List UInt8 → List UInt8 → Prop where
  | here {first second : UInt8} (less : first < second) (rest others : List UInt8) :
      Diverge (first :: rest) (second :: others)
  | later (byte : UInt8) {rest others : List UInt8} (diverge : Diverge rest others) :
      Diverge (byte :: rest) (byte :: others)

namespace Diverge

theorem compare_append {left right : List UInt8} (diverge : Diverge left right)
    (more others : List UInt8) : compare (left ++ more) (right ++ others) = .lt := by
  induction diverge with
  | here less rest others =>
      rw [List.cons_append, List.cons_append, List.compare_cons_cons, Std.compare_eq_lt.2 less]
      rfl
  | later byte _ ih =>
      rw [List.cons_append, List.cons_append, List.compare_cons_cons, Std.compare_self]
      exact ih

theorem ofNat_cons {first second : Nat} {rest others : List UInt8} (isByte : second < 256)
    (le : first ≤ second) (later : first = second → Diverge rest others) :
    Diverge (UInt8.ofNat first :: rest) (UInt8.ofNat second :: others) := by
  rcases Nat.lt_or_eq_of_le le with less | rfl
  · refine .here ?_ rest others
    exact (UInt8.ofNat_lt_iff_lt (Nat.lt_trans less isByte) isByte).2 less
  · exact .later _ (later rfl)

theorem ofNat_of_lt {first second : Nat} (isByte : second < 256) (less : first < second)
    (rest others : List UInt8) :
    Diverge (UInt8.ofNat first :: rest) (UInt8.ofNat second :: others) :=
  ofNat_cons isByte (Nat.le_of_lt less) fun same => absurd same (Nat.ne_of_lt less)

/-- Bytes of different counts already differ in the first byte; bytes of one count are digits of the
code points. -/
theorem utf8EncodeChar {c d : Char} (less : c < d) :
    Diverge (String.utf8EncodeChar c) (String.utf8EncodeChar d) := by
  have below : c.val.toNat < d.val.toNat := less
  have bound : d.val.toNat < 0x110000 := by
    have valid := d.valid
    simp only [UInt32.isValidChar, Nat.isValidChar] at valid
    omega
  unfold String.utf8EncodeChar
  generalize c.val.toNat = m at below
  generalize d.val.toNat = n at below bound
  dsimp only
  split
  · split
    · exact ofNat_of_lt (by omega) (by omega) _ _
    · split
      · exact ofNat_of_lt (by omega) (by omega) _ _
      · split <;> exact ofNat_of_lt (by omega) (by omega) _ _
  · split
    · rw [if_neg (by omega)]
      split
      · refine ofNat_cons (by omega) (by omega) fun same => ?_
        exact ofNat_of_lt (by omega) (by omega) _ _
      · split <;> exact ofNat_of_lt (by omega) (by omega) _ _
    · rw [if_neg (show ¬n ≤ 127 by omega), if_neg (show ¬n ≤ 2047 by omega)]
      split
      · split
        · refine ofNat_cons (by omega) (by omega) fun first => ?_
          refine ofNat_cons (by omega) (by omega) fun second => ?_
          exact ofNat_of_lt (by omega) (by omega) _ _
        · exact ofNat_of_lt (by omega) (by omega) _ _
      · rw [if_neg (by omega)]
        refine ofNat_cons (by omega) (by omega) fun first => ?_
        refine ofNat_cons (by omega) (by omega) fun second => ?_
        refine ofNat_cons (by omega) (by omega) fun third => ?_
        exact ofNat_of_lt (by omega) (by omega) _ _

end Diverge

theorem compare_flatMap_of_lt {left right : List Char} (less : left < right) :
    compare (left.flatMap String.utf8EncodeChar) (right.flatMap String.utf8EncodeChar) = .lt := by
  induction less with
  | nil =>
      rename_i d rest
      have some_byte : String.utf8EncodeChar d ≠ [] := String.utf8EncodeChar_ne_nil
      rcases List.exists_cons_of_ne_nil some_byte with ⟨byte, bytes, encoded⟩
      rw [List.flatMap_nil, List.flatMap_cons, encoded]
      rfl
  | rel less =>
      rw [List.flatMap_cons, List.flatMap_cons]
      exact (Diverge.utf8EncodeChar less).compare_append _ _
  | cons _ ih =>
      rename_i c left right _
      rw [List.flatMap_cons, List.flatMap_cons]
      induction String.utf8EncodeChar c with
      | nil => exact ih
      | cons byte bytes again =>
          rw [List.cons_append, List.cons_append, List.compare_cons_cons, Std.compare_self]
          exact again

theorem compare_eq_lt_iff_lt (first second : List UInt8) :
    compare first second = .lt ↔ first < second := by
  induction first generalizing second with
  | nil => cases second <;> simp
  | cons byte rest ih =>
      cases second with
      | nil => simp
      | cons other others =>
          rw [List.compare_cons_cons, List.cons_lt_cons_iff, Ordering.then_eq_lt, Std.compare_eq_lt,
            Std.compare_eq_iff_eq, ih]

/-- The order of texts is the order of their bytes. -/
theorem compare_bytes (left right : String) : compare (bytes left) (bytes right) = compare left right := by
  have forward : ∀ {first second : String}, first < second →
      compare (bytes first) (bytes second) = .lt := by
    intro first second less
    rw [bytes_eq_flatMap, bytes_eq_flatMap]
    exact compare_flatMap_of_lt (String.lt_iff.1 less)
  change _ = compareOfLessAndEq left right
  unfold compareOfLessAndEq
  split
  · rename_i less
    exact forward less
  · split
    · rename_i same
      rw [same, Std.compare_self]
    · rename_i notLess different
      have greater : right < left := lt_of_le_of_ne (String.not_lt.1 notLess) (Ne.symm different)
      exact Std.OrientedCmp.gt_iff_lt.2 (forward greater)

end SqlMapper.Text
