import SqlMapper.Expression.Path
import SqlMapper.Expression.Token
import SqlMapper.Proofs.Text.Split
import Mathlib

/-!
# Written paths

The text of a path is read back as this path if its segments are nonempty runs of letters, digits and
underscores.  Such a text is one word.
-/

namespace SqlMapper

namespace Text

theorem inRanges_iff {ranges : List (Nat × Nat)} {point : Nat} :
    inRanges ranges point ↔ ∃ range ∈ ranges, range.1 ≤ point ∧ point ≤ range.2 := by
  simp [inRanges]

/-- Whether no code point lies in a range of both lists. -/
def areApart (ranges others : List (Nat × Nat)) : Bool :=
  ranges.all fun range => others.all fun other => range.2 < other.1 || other.2 < range.1

theorem not_inRanges_of_areApart {ranges others : List (Nat × Nat)} (apart : areApart ranges others)
    {point : Nat} (inside : inRanges ranges point) : inRanges others point = false := by
  rw [Bool.eq_false_iff]
  intro also
  rcases inRanges_iff.1 inside with ⟨range, member, lower, upper⟩
  rcases inRanges_iff.1 also with ⟨other, otherMember, otherLower, otherUpper⟩
  have disjoint := List.all_eq_true.1 (List.all_eq_true.1 apart range member) other otherMember
  simp only [Bool.or_eq_true, decide_eq_true_eq] at disjoint
  omega

/-- The code points of ASCII letters and digits. -/
def asciiRanges : List (Nat × Nat) := [(0x30, 0x39), (0x41, 0x5a), (0x61, 0x7a)]

theorem inRanges_of_isAlphanum {c : Char} (letter : c.isAlphanum) : inRanges asciiRanges c.toNat := by
  simp only [Char.isAlphanum, Char.isAlpha, Char.isUpper, Char.isLower, Char.isDigit, Bool.or_eq_true,
    Bool.and_eq_true, decide_eq_true_eq, ge_iff_le, UInt32.le_iff_toNat_le] at letter
  change ((65 ≤ c.toNat ∧ c.toNat ≤ 90) ∨ 97 ≤ c.toNat ∧ c.toNat ≤ 122) ∨
    48 ≤ c.toNat ∧ c.toNat ≤ 57 at letter
  rw [inRanges_iff]
  rcases letter with (upper | lower) | digit
  · exact ⟨(0x41, 0x5a), by decide, upper⟩
  · exact ⟨(0x61, 0x7a), by decide, lower⟩
  · exact ⟨(0x30, 0x39), by decide, digit⟩

theorem isBlank_of_isAlphanumeric {c : Char} (letter : isAlphanumeric c) : isBlank c = false := by
  rcases Bool.or_eq_true_iff.1 letter with ascii | other
  · exact not_inRanges_of_areApart (by decide) (inRanges_of_isAlphanum ascii)
  · exact not_inRanges_of_areApart (by decide +kernel) other

end Text

namespace Path

/-- A path as tests and bind values write it. -/
def IsPlain (path : Path) : Prop :=
  ∀ segment ∈ path.segments, segment ≠ "" ∧ ∀ c ∈ segment.toList, isSegmentChar c

instance (path : Path) : Decidable path.IsPlain :=
  decidable_of_iff (path.segments.all fun segment => segment ≠ "" && segment.toList.all isSegmentChar)
    (by simp [IsPlain])

/-- The characters with a meaning of their own in expressions, and the one between segments. -/
def marks : List Char := ['!', '=', '<', '>', '+', '"', '\x27', '.']

theorem not_mem_marks_of_isSegmentChar {c : Char} (letter : isSegmentChar c) : c ∉ marks := by
  have others : marks.all fun mark => !isSegmentChar mark := by decide +kernel
  intro member
  have other := List.all_eq_true.1 others c member
  rw [letter] at other
  cases other

theorem isWordChar_of_isSegmentChar {c : Char} (letter : isSegmentChar c) : Token.isWordChar c := by
  have noMark := not_mem_marks_of_isSegmentChar letter
  have solid : Text.isBlank c = false := by
    rcases Bool.or_eq_true_iff.1 letter with alphanumeric | underscore
    · exact Text.isBlank_of_isAlphanumeric alphanumeric
    · rw [eq_of_beq underscore]
      decide
  simp only [marks, List.mem_cons, List.not_mem_nil, or_false, not_or] at noMark
  simp [Token.isWordChar, solid, noMark]

theorem toList_toText (path : Path) :
    path.toText.toList = ['.'].intercalate (path.segments.map String.toList) :=
  String.toList_intercalate

theorem split_toText {path : Path} (plain : path.IsPlain) :
    Text.split (· == '.') path.toText.toList = path.segments.map String.toList := by
  rw [toList_toText]
  apply Text.split_intercalate (by simp [segments])
  intro piece isPiece dot
  rcases List.exists_of_mem_map isPiece with ⟨segment, isSegment, rfl⟩
  exact not_mem_marks_of_isSegmentChar ((plain segment isSegment).2 '.' dot) (by decide)

theorem parse?_toText {path : Path} (plain : path.IsPlain) : parse? path.toText.toList = some path := by
  have valid : (path.segments.map String.toList).all fun segment =>
      !segment.isEmpty && segment.all isSegmentChar := by
    rw [List.all_map, List.all_eq_true]
    intro segment isSegment
    rcases plain segment isSegment with ⟨nonempty, chars⟩
    simpa [nonempty] using chars
  have restored : (path.segments.map String.toList).map String.ofList = path.segments := by simp
  simp only [parse?, split_toText plain, valid, if_true, restored]
  rfl

theorem isWordChar_of_mem_toText {path : Path} (plain : path.IsPlain) :
    ∀ c ∈ path.toText.toList, Token.isWordChar c := by
  rw [toList_toText]
  apply Text.forall_mem_intercalate (List.forall_mem_singleton.2 (by decide))
  intro piece isPiece c member
  rcases List.exists_of_mem_map isPiece with ⟨segment, isSegment, rfl⟩
  exact isWordChar_of_isSegmentChar ((plain segment isSegment).2 c member)

theorem toList_toText_ne_nil {path : Path} (plain : path.IsPlain) : path.toText.toList ≠ [] := by
  intro empty
  have read := parse?_toText plain
  rw [empty] at read
  cases read

end Path

end SqlMapper
