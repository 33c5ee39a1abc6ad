/-!
# Whole numbers in text

A whole number is a run of decimal digits, with a sign in front if it likes.  Nothing else may
stand in the text: no white space, no grouping.
-/

namespace SqlMapper.Text

/-- Value of a run of decimal digits that follows digits of value `seen`. -/
def readDigits? (seen : Nat) : List Char → Option Nat
  | [] => some seen
  | c :: rest => if c.isDigit then readDigits? (seen * 10 + (c.toNat - 48)) rest else none

/-- Value of a nonempty run of decimal digits. -/
def readUnsigned? : List Char → Option Nat
  | [] => none
  | digits => readDigits? 0 digits

/-- A number without a minus sign that is below a limit. -/
def readNat? (limit : Nat) (text : List Char) : Option Nat :=
  let digits := match text with
    | '+' :: rest => rest
    | _ => text
  (readUnsigned? digits).filter (· < limit)

/-- A number of either sign. -/
def readInt? (text : List Char) : Option Int :=
  match text with
  | '+' :: rest => (readUnsigned? rest).map Int.ofNat
  | '-' :: rest => (readUnsigned? rest).map fun n => -Int.ofNat n
  | _ => (readUnsigned? text).map Int.ofNat

/-- A number of 64 bits with a sign. -/
def readInt64? (text : List Char) : Option Int64 :=
  (readInt? text).bind fun n =>
    if Int64.minValue.toInt ≤ n && n ≤ Int64.maxValue.toInt then some (Int64.ofInt n) else none

theorem isDigit_of_mem_toString (number : Nat) : ∀ c ∈ (toString number).toList, c.isDigit := by
  intro c member
  rw [Nat.toString_eq_repr, Nat.toList_repr] at member
  exact Nat.isDigit_of_mem_toDigits (by decide) (by decide) member

/-- A number ends with a digit. -/
theorem toString_eq_concat (number : Nat) :
    ∃ start digit, (toString number).toList = start ++ [digit] ∧ digit.isDigit := by
  rcases List.eq_nil_or_concat (toString number).toList with empty | ⟨start, digit, split⟩
  · rw [Nat.toString_eq_repr, Nat.toList_repr] at empty
    exact absurd empty Nat.toDigits_ne_nil
  · rw [List.concat_eq_append] at split
    have member : digit ∈ (toString number).toList := by
      rw [split]
      exact List.mem_append_right start List.mem_cons_self
    exact ⟨start, digit, split, isDigit_of_mem_toString number digit member⟩

theorem toList_toString_inj {first second : Nat}
    (same : (toString first).toList = (toString second).toList) : first = second := by
  simp only [Nat.toString_eq_repr, Nat.toList_repr] at same
  have value : Nat.ofDigitChars 10 (Nat.toDigits 10 first) 0 = first :=
    Nat.ofDigitChars_ten_toDigits
  rw [same] at value
  exact value.symm.trans Nat.ofDigitChars_ten_toDigits

end SqlMapper.Text
