import SqlMapper.Decimal.Reading
import SqlMapper.Text.Blank
import Mathlib

/-!
# Whole numbers in text

The text of a whole number is read back as this number.  Whatever is read as a whole number of 64 bits is
also read as a decimal number, of the same value and without places.
-/

namespace SqlMapper

namespace Text

theorem readDigits?_eq_some {text : List Char} (digits : ∀ c ∈ text, c.isDigit) (seen : Nat) :
    readDigits? seen text = some (Nat.ofDigitChars 10 text seen) := by
  induction text generalizing seen with
  | nil => rfl
  | cons c rest ih =>
      rw [List.forall_mem_cons] at digits
      rw [readDigits?, if_pos digits.1, ih digits.2, Nat.ofDigitChars_cons, Nat.mul_comm]
      rfl

theorem le_of_readDigits? {text : List Char} {seen number : Nat}
    (read : readDigits? seen text = some number) : seen ≤ number := by
  induction text generalizing seen with
  | nil => exact Nat.le_of_eq (Option.some.inj read)
  | cons c rest ih =>
      rw [readDigits?] at read
      split at read
      · have := ih read
        omega
      · cases read

/-- The text of a number without a sign begins with a digit. -/
theorem toString_eq_cons (number : Nat) :
    ∃ digit rest, (toString number).toList = digit :: rest ∧ digit.isDigit := by
  have some_digit : (toString number).toList ≠ [] := by
    rw [Nat.toString_eq_repr, Nat.toList_repr]
    exact Nat.toDigits_ne_nil
  rcases List.exists_cons_of_ne_nil some_digit with ⟨digit, rest, characters⟩
  refine ⟨digit, rest, characters, isDigit_of_mem_toString number digit ?_⟩
  rw [characters]
  exact List.mem_cons_self

theorem readUnsigned?_toString (number : Nat) :
    readUnsigned? (toString number).toList = some number := by
  have read := readDigits?_eq_some (isDigit_of_mem_toString number) 0
  have value : Nat.ofDigitChars 10 (toString number).toList 0 = number := by
    rw [Nat.toString_eq_repr, Nat.toList_repr]
    exact Nat.ofDigitChars_ten_toDigits
  rcases toString_eq_cons number with ⟨digit, rest, characters, _⟩
  rw [value] at read
  rw [characters] at read ⊢
  exact read

theorem toList_toString_negSucc (n : Nat) :
    (toString (Int.negSucc n)).toList = '-' :: (toString (n + 1)).toList := by
  change ("-" ++ (n + 1).repr).toList = _
  rw [String.toList_append]
  rfl

theorem trim_toString (number : Int) :
    trim (toString number).toList = (toString number).toList := by
  have solid : ∀ c ∈ (toString number).toList, isBlank c = false := by
    cases number with
    | ofNat n => exact fun c member => isBlank_of_isDigit (isDigit_of_mem_toString n c member)
    | negSucc n =>
        rw [toList_toString_negSucc, List.forall_mem_cons]
        refine ⟨by decide, ?_⟩
        exact fun c member => isBlank_of_isDigit (isDigit_of_mem_toString (n + 1) c member)
  apply trim_eq_self
  · exact fun c first => solid c (List.mem_of_mem_head? first)
  · exact fun c last => solid c (List.mem_of_mem_getLast? last)

theorem readInt?_toString (number : Int) : readInt? (toString number).toList = some number := by
  cases number with
  | ofNat n =>
      have read := readUnsigned?_toString n
      change readInt? (toString n).toList = _
      rcases toString_eq_cons n with ⟨digit, rest, characters, isDigit⟩
      rw [characters] at read ⊢
      unfold readInt?
      split
      · rename_i same
        cases same
        cases isDigit
      · rename_i same
        cases same
        cases isDigit
      · rw [read]
        rfl
  | negSucc n =>
      rw [toList_toString_negSucc]
      change (readUnsigned? (toString (n + 1)).toList).map _ = _
      rw [readUnsigned?_toString]
      rfl

theorem readInt64?_eq_some_iff {text : List Char} {whole : Int64} :
    readInt64? text = some whole ↔ readInt? text = some whole.toInt := by
  have lower := Int64.le_toInt whole
  have upper := Int64.toInt_lt whole
  simp only [readInt64?, Option.bind_eq_some_iff, Bool.and_eq_true, decide_eq_true_eq,
    Int64.toInt_minValue, Int64.toInt_maxValue, Option.ite_none_right_eq_some, Option.some.injEq]
  constructor
  · rintro ⟨number, read, bounds, rfl⟩
    rwa [Int64.toInt_ofInt_of_le bounds.1 (by omega)]
  · intro read
    exact ⟨whole.toInt, read, ⟨by omega, by omega⟩, Int64.ofInt_toInt whole⟩

theorem readInt64?_toString (whole : Int64) :
    readInt64? (toString whole.toInt).toList = some whole :=
  readInt64?_eq_some_iff.2 (readInt?_toString whole.toInt)

end Text

namespace Decimal

theorem readPlaces?_of_readDigits? {text : List Char} {seen number : Nat} {digits : Bool}
    (read : Text.readDigits? seen text = some number) (fits : number < limit)
    (some_digit : digits = true ∨ text ≠ []) :
    readPlaces? seen 0 false digits text = some (number, 0) := by
  induction text generalizing seen digits with
  | nil =>
      have present : digits = true := some_digit.resolve_right (absurd rfl)
      cases read
      rw [readPlaces?, if_pos present]
  | cons c rest ih =>
      rw [Text.readDigits?] at read
      split at read
      · rename_i digit
        have small : seen * 10 + (c.toNat - 48) < limit :=
          Nat.lt_of_le_of_lt (Text.le_of_readDigits? read) fits
        rw [readPlaces?]
        simp only [Bool.false_and, Bool.false_eq_true, if_false, digit, if_true, small]
        exact ih read (.inl rfl)
      · cases read

theorem readPlaces?_of_readUnsigned? {text : List Char} {number : Nat}
    (read : Text.readUnsigned? text = some number) (fits : number < limit) :
    readPlaces? 0 0 false false text = some (number, 0) := by
  cases text with
  | nil => cases read
  | cons c rest => exact readPlaces?_of_readDigits? read fits (.inr (List.cons_ne_nil c rest))

theorem read?_of_readPlain? {text : List Char} {negative : Bool} {count : Nat}
    (fits : count < limit)
    (plain : readPlain? text = ofParts? (negative && count != 0) count 0) :
    ∃ number, read? text = some number ∧ number.units = (if negative then -(count : Int) else count) ∧
      number.scale = 0 := by
  rw [ofParts?, dif_pos fits, dif_pos (Nat.zero_le _)] at plain
  refine ⟨_, by rw [read?, plain]; rfl, ?_, rfl⟩
  by_cases zero : count = 0 <;> simp [units, zero]

/-- What is read as a whole number of 64 bits is read as the same decimal number. -/
theorem read?_of_readInt64? {text : List Char} {whole : Int64}
    (read : Text.readInt64? text = some whole) :
    ∃ number, read? text = some number ∧ number.units = whole.toInt ∧ number.scale = 0 := by
  have lower := Int64.le_toInt whole
  have upper := Int64.toInt_lt whole
  rw [Text.readInt64?_eq_some_iff] at read
  unfold Text.readInt? at read
  split at read
  · rename_i digits
    rcases Option.map_eq_some_iff.1 read with ⟨count, readCount, value⟩
    have fits : count < limit := by grind
    have plain : readPlain? ('+' :: digits) = ofParts? (false && count != 0) count 0 := by
      simp [readPlain?, readPlaces?_of_readUnsigned? readCount fits]
    rw [← value]
    exact read?_of_readPlain? fits plain
  · rename_i digits
    rcases Option.map_eq_some_iff.1 read with ⟨count, readCount, value⟩
    have fits : count < limit := by grind
    have plain : readPlain? ('-' :: digits) = ofParts? (true && count != 0) count 0 := by
      simp [readPlain?, readPlaces?_of_readUnsigned? readCount fits]
    rw [← value]
    exact read?_of_readPlain? fits plain
  · rename_i notPlus notMinus
    rcases Option.map_eq_some_iff.1 read with ⟨count, readCount, value⟩
    have fits : count < limit := by grind
    have plain : readPlain? text = ofParts? (false && count != 0) count 0 := by
      simp [readPlain?, readPlaces?_of_readUnsigned? readCount fits]
    rw [← value]
    exact read?_of_readPlain? fits plain

end Decimal

end SqlMapper
