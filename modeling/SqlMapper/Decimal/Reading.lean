import SqlMapper.Decimal.Basic
import SqlMapper.Text.Integer

/-!
# Decimal numbers in text

A decimal number is written with an optional sign, digits and at most one point; underscores may
stand after the first digit.  Digits that no longer fit behind the point are rounded by the first
of them, half up; the others count for nothing, but nothing else may stand among them.  A text that is no such number may still be one with a power of ten behind the
letter `e`.
-/

namespace SqlMapper.Decimal

/-- Whether nothing but digits and underscores remains. -/
def areDigits (text : List Char) : Bool :=
  text.all fun c => c.isDigit || c == '_'

/-- The coefficient rounded half up by the digit that follows it.  One that grows too large loses
its last place, if it has any. -/
def roundBy? (coefficient scale digit : Nat) : Option (Nat × Nat) :=
  if digit < 5 then some (coefficient, scale)
  else if coefficient + 1 < limit then some (coefficient + 1, scale)
  else if scale == 0 then none
  else some ((coefficient + 5) / 10, scale - 1)

/-- Ends a coefficient in front of digits that do not fit behind the point. -/
def roundAt? (coefficient scale : Nat) (excess : List Char) : Option (Nat × Nat) :=
  if areDigits excess then
    match excess.find? Char.isDigit with
    | some c => roundBy? coefficient scale (c.toNat - 48)
    | none => some (coefficient, scale)
  else none

/-- Coefficient and scale of the digits of a number.  `point` says whether the point has been
read and `digits` whether any digit has. -/
def readPlaces? (coefficient scale : Nat) (point digits : Bool) : List Char → Option (Nat × Nat)
  | [] => if digits then some (coefficient, scale) else none
  | c :: rest =>
    if point && scale ≥ maxScale then roundAt? coefficient scale (c :: rest)
    else if c.isDigit then
      let longer := coefficient * 10 + (c.toNat - 48)
      if longer < limit then readPlaces? longer (scale + point.toNat) point true rest
      else if point then roundAt? coefficient scale (c :: rest)
      else none
    else if c == '.' && !point then readPlaces? coefficient scale true digits rest
    else if c == '_' && digits then readPlaces? coefficient scale point digits rest
    else none

/-- A number without a power of ten.  Zero has no sign. -/
def readPlain? (text : List Char) : Option Decimal := do
  let (negative, unsigned) := match text with
    | '-' :: rest => (true, rest)
    | '+' :: rest => (false, rest)
    | _ => (false, text)
  let (coefficient, scale) ← readPlaces? 0 0 false false unsigned
  ofParts? (negative && coefficient != 0) coefficient scale

/-- The coefficient with `count` of its last digits dropped, rounded by the last of them. -/
def dropPlaces (coefficient : Nat) : Nat → Nat
  | 0 => coefficient
  | count + 1 => (coefficient / Nat.pow 10 count + 5) / 10

/-- The number times ten to the power of `exponent`. -/
def shiftLeft? (number : Decimal) (exponent : Nat) : Option Decimal :=
  if exponent ≤ number.scale then
    ofParts? number.negative number.coefficient (number.scale - exponent)
  else if exponent ≤ maxScale then
    let whole := number.coefficient * Nat.pow 10 (exponent - number.scale)
    ofParts? (number.negative && whole != 0) whole 0
  else none

/-- The number divided by ten to the power of `exponent`, rounded to the places there are. -/
def shiftRight? (number : Decimal) (exponent : Nat) : Option Decimal :=
  if exponent > maxScale then none
  else if number.scale + exponent ≤ maxScale then
    ofParts? number.negative number.coefficient (number.scale + exponent)
  else
    let excess := number.scale + exponent - maxScale
    ofParts? number.negative (dropPlaces number.coefficient excess) maxScale

/-- A number followed by `e` and a power of ten. -/
def readScientific? (text : List Char) : Option Decimal := do
  let isExponentMark (c : Char) : Bool := c == 'e' || c == 'E'
  let base ← readPlain? (text.takeWhile (!isExponentMark ·))
  match text.dropWhile (!isExponentMark ·) with
  | [] => none
  | _ :: '-' :: exponent => base.shiftRight? (← Text.readNat? UInt32.size exponent)
  | _ :: exponent => base.shiftLeft? (← Text.readNat? UInt32.size exponent)

/-- The number that a text writes. -/
def read? (text : List Char) : Option Decimal :=
  readPlain? text <|> readScientific? text

end SqlMapper.Decimal
