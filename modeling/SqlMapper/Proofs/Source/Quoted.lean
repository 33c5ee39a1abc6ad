import SqlMapper.Proofs.Generated.Quoted
import SqlMapper.Proofs.Source.Scan

/-!
# Scanning strings

A string in source ends at the first quote that follows no backslash.  What was quoted is what its string
is read as.
-/

namespace SqlMapper.Generated.Scan

/-- Where in a string a scan is. -/
inductive StringPlace where
  | plain
  /-- Behind a backslash. -/
  | escape
  /-- In front of the number of a character. -/
  | brace
  /-- In the number of a character. -/
  | digits (value : Nat)

/-- What the letters behind a backslash mean. -/
def escapes : List (Char × Char) :=
  [('n', '\n'), ('r', '\r'), ('t', '\t'), ('0', '\x00'), ('\\', '\\'), ('"', '"')]

def hexDigit? (c : Char) : Option Nat :=
  (List.range 16).find? (Nat.digitChar · == c)

/-- A character in front of what else is taken. -/
def push (c : Char) : Option (List Char × List Char) → Option (List Char × List Char) :=
  Option.map fun (taken, rest) => (c :: taken, rest)

/-- Takes the rest of a string and the quote at its end. -/
def stringRest : StringPlace → Scan (List Char)
  | _, [] => none
  | .plain, c :: rest =>
    if c == '"' then some ([], rest)
    else if c == '\\' then stringRest .escape rest
    else push c (stringRest .plain rest)
  | .escape, c :: rest =>
    if c == 'u' then stringRest .brace rest
    else
      match escapes.lookup c with
      | some meant => push meant (stringRest .plain rest)
      | none => none
  | .brace, c :: rest => if c == '\x7b' then stringRest (.digits 0) rest else none
  | .digits value, c :: rest =>
    if c == '\x7d' then push (Char.ofNat value) (stringRest .plain rest)
    else
      match hexDigit? c with
      | some digit => stringRest (.digits (16 * value + digit)) rest
      | none => none

/-- Takes a string. -/
def quoted : Scan String := do
  expect "\""
  let characters ← stringRest .plain
  pure (String.ofList characters)

/-! ### Quoted text -/

theorem hexDigit?_digitChar {digit : Nat} (small : digit < 16) :
    hexDigit? (Nat.digitChar digit) = some digit := by
  have each : ∀ digit < 16, hexDigit? (Nat.digitChar digit) = some digit := by decide +kernel
  exact each digit small

theorem digitChar_ne_brace {digit : Nat} (small : digit < 16) : Nat.digitChar digit ≠ '\x7d' := by
  have each : ∀ digit < 16, Nat.digitChar digit ≠ '\x7d' := by decide +kernel
  exact each digit small

theorem stringRest_digit {digit : Nat} (small : digit < 16) (value : Nat) (rest : List Char) :
    stringRest (.digits value) (Nat.digitChar digit :: rest) =
      stringRest (.digits (16 * value + digit)) rest := by
  have inside : (Nat.digitChar digit == '\x7d') = false :=
    beq_eq_false_iff_ne.2 (digitChar_ne_brace small)
  simp only [stringRest, inside, hexDigit?_digitChar small, Bool.false_eq_true, if_false]

/-- The digits of a number are read as that number. -/
theorem stringRest_toDigits (value : Nat) (rest : List Char) :
    stringRest (.digits 0) (Nat.toDigits 16 value ++ rest) = stringRest (.digits value) rest := by
  induction value using Nat.strongRecOn generalizing rest with
  | ind value ih =>
      rw [Nat.toDigits_eq_if (by decide)]
      split
      · rename_i small
        rw [List.singleton_append, stringRest_digit small, Nat.mul_zero, Nat.zero_add]
      · rename_i large
        have last : value % 16 < 16 := Nat.mod_lt value (by decide)
        rw [List.append_assoc, ih (value / 16) (by omega), List.singleton_append,
          stringRest_digit last, Nat.div_add_mod]

/-- The spelling of a character is read as the character. -/
theorem stringRest_escape (c : Char) (rest : List Char) :
    stringRest .plain (Text.Quoted.escape '"' c ++ rest) = push c (stringRest .plain rest) := by
  unfold Text.Quoted.escape
  split
  · rename_i special
    rw [Bool.or_eq_true, beq_iff_eq, beq_iff_eq] at special
    rcases special with rfl | rfl <;> rfl
  rename_i own
  split
  · rename_i same
    rw [eq_of_beq same]
    rfl
  split
  · rename_i same
    rw [eq_of_beq same]
    rfl
  split
  · rename_i same
    rw [eq_of_beq same]
    rfl
  split
  · rename_i same
    rw [eq_of_beq same]
    rfl
  split
  · have closed : stringRest (.digits c.toNat) ('\x7d' :: rest) = push c (stringRest .plain rest) := by
      simp [stringRest]
    have opened (text : List Char) :
        stringRest .plain ("\\u\x7b".toList ++ text) = stringRest (.digits 0) text := rfl
    rw [List.append_assoc, List.append_assoc, opened, stringRest_toDigits]
    exact closed
  · have plain : (c == '"') = false ∧ (c == '\\') = false := by simpa using own
    simp [stringRest, plain]

theorem takes_quoted (text : String) : Takes quoted (Text.quoted text) text := by
  have inside (characters rest : List Char) :
      stringRest .plain (characters.flatMap (Text.Quoted.escape '"') ++ '"' :: rest) =
        some (characters, rest) := by
    induction characters with
    | nil => rfl
    | cons c others ih =>
        rw [List.flatMap_cons, List.append_assoc, stringRest_escape, ih]
        rfl
  have taken : Takes (stringRest .plain)
      (String.ofList (text.toList.flatMap (Text.Quoted.escape '"') ++ ['"'])) text.toList := by
    intro rest
    rw [String.toList_ofList, List.append_assoc]
    exact inside text.toList rest
  have split : Text.quoted text =
      "\"" ++ String.ofList (text.toList.flatMap (Text.Quoted.escape '"') ++ ['"']) := by
    simp only [← String.toList_inj, String.toList_append, Text.quoted, String.toList_ofList]
    rfl
  rw [split]
  have whole : Takes quoted _ (String.ofList text.toList) := (takes_expect "\"").bind taken.last
  rwa [String.ofList_toList] at whole

end SqlMapper.Generated.Scan
