/-!
# Decimal numbers

A decimal number is a coefficient below 2^96 with a sign and at most 28 places after the point.
The places are part of the number, so `1.5` and `1.50` differ as written, but order and equality
in value see only the quotient of the coefficient and its power of ten.
-/

namespace SqlMapper

/-- A number with a fixed count of places after the point. -/
structure Decimal where
  /-- Whether a minus sign is written.  Zero may carry one. -/
  negative : Bool
  /-- The digits without the point. -/
  coefficient : Nat
  /-- Number of digits after the point. -/
  scale : Nat
  coefficient_lt : coefficient < 0x1000000000000000000000000 := by omega
  scale_le : scale ≤ 28 := by omega
deriving DecidableEq

namespace Decimal

/-- Bound of coefficients: they have 96 bits. -/
abbrev limit : Nat := 0x1000000000000000000000000

abbrev maxScale : Nat := 28

/-- The number with the given parts, if they are in range. -/
def ofParts? (negative : Bool) (coefficient scale : Nat) : Option Decimal :=
  if coefficient_lt : coefficient < limit then
    if scale_le : scale ≤ maxScale then
      some { negative, coefficient, scale, coefficient_lt, scale_le }
    else none
  else none

/-- The coefficient with its sign. -/
def units (number : Decimal) : Int :=
  if number.negative then -(number.coefficient : Int) else number.coefficient

/-- A whole number of 64 bits with a sign. -/
def ofInt64 (n : Int64) : Decimal where
  negative := n.toInt < 0
  coefficient := n.toInt.natAbs
  scale := 0
  coefficient_lt := by
    have lower := n.le_toInt
    have upper := n.toInt_lt
    omega
  scale_le := by omega

/-- A whole number of 64 bits without a sign. -/
def ofUInt64 (n : UInt64) : Decimal where
  negative := false
  coefficient := n.toNat
  scale := 0
  coefficient_lt := by
    have := n.toNat_lt
    omega
  scale_le := by omega

/-- Order of two numbers by value. -/
def order (left right : Decimal) : Ordering :=
  compare (left.units * Nat.pow 10 right.scale) (right.units * Nat.pow 10 left.scale)

/-- Equality in value. -/
def equal (left right : Decimal) : Bool :=
  left.units * Nat.pow 10 right.scale == right.units * Nat.pow 10 left.scale

/-- Drops zeros at the end of a coefficient, at most as many as there are places. -/
def stripZeros (coefficient : Nat) : Nat → Nat × Nat
  | 0 => (coefficient, 0)
  | scale + 1 =>
    if coefficient % 10 == 0 then stripZeros (coefficient / 10) scale
    else (coefficient, scale + 1)

theorem stripZeros_le (coefficient scale : Nat) :
    (stripZeros coefficient scale).1 ≤ coefficient ∧ (stripZeros coefficient scale).2 ≤ scale := by
  induction scale generalizing coefficient with
  | zero => simp [stripZeros]
  | succ scale ih =>
    unfold stripZeros
    split
    · have := ih (coefficient / 10)
      omega
    · simp

/-- The same value with the fewest places.  Zero loses its sign. -/
def normalize (number : Decimal) : Decimal where
  negative := number.negative && number.coefficient != 0
  coefficient := (stripZeros number.coefficient number.scale).1
  scale := (stripZeros number.coefficient number.scale).2
  coefficient_lt := by
    have := (stripZeros_le number.coefficient number.scale).1
    have := number.coefficient_lt
    omega
  scale_le := by
    have := (stripZeros_le number.coefficient number.scale).2
    have := number.scale_le
    omega

/-- Whether nothing but zeros follows the point. -/
def isWhole (number : Decimal) : Bool :=
  number.coefficient % Nat.pow 10 number.scale == 0

/-- The part before the point as a number of 64 bits with a sign, if it is one. -/
def toInt64? (number : Decimal) : Option Int64 :=
  let whole : Int := number.coefficient / Nat.pow 10 number.scale
  let signed := if number.negative then -whole else whole
  if Int64.minValue.toInt ≤ signed && signed ≤ Int64.maxValue.toInt then
    some (Int64.ofInt signed)
  else none

/-- The digits with a point before the last `scale` of them and a minus sign if there is one. -/
def toText (number : Decimal) : String :=
  let digits := Nat.toDigits 10 number.coefficient
  let padded := List.replicate (number.scale + 1 - digits.length) '0' ++ digits
  let whole := padded.take (padded.length - number.scale)
  let places := padded.drop (padded.length - number.scale)
  let sign := if number.negative then ['-'] else []
  String.ofList (sign ++ whole ++ if places.isEmpty then [] else '.' :: places)

end Decimal

end SqlMapper
