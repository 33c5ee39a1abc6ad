import SqlMapper.Decimal.Basic

/-!
# Decimal numbers from binary ones

A binary floating point number becomes a decimal one with the digits that it can vouch for.  Its
power of two is traded for a power of ten within 96 bits, the coefficient is brought below 2^52 by
rounding places away, and zeros at the end are dropped.  Whole numbers keep their exact value.
-/

namespace SqlMapper.Decimal.Binary

/-- Trades a factor 2^-n for powers of ten.  An even coefficient is halved against a factor of
five, an odd one is multiplied by five; where that no longer fits it loses its last bit. -/
def tradeHalves (coefficient : Nat) (exponent : Int) : Nat → Nat × Int
  | 0 => (coefficient, exponent)
  | n + 1 =>
    if coefficient % 2 == 0 || coefficient * 5 ≥ limit then
      tradeHalves (coefficient / 2) (exponent + 1) n
    else tradeHalves (coefficient * 5) exponent n

/-- The coefficient without its last digit, rounded half up. -/
def dropDigit (coefficient : Nat) : Nat :=
  coefficient / 10 + if coefficient % 10 ≥ 5 then 1 else 0

/-- Drops places beyond the largest scale.  A coefficient that runs out becomes zero. -/
def fitScale (coefficient scale : Nat) : Nat → Nat × Nat
  | 0 => (coefficient, scale)
  | n + 1 =>
    if coefficient < 10 then (0, 0)
    else fitScale (dropDigit coefficient) (scale - 1) n

/-- Drops places until the coefficient has no more than 52 bits. -/
def fitPrecision (coefficient : Nat) : Nat → Nat × Nat
  | 0 => (coefficient, 0)
  | scale + 1 =>
    if coefficient >>> 52 == 0 then (coefficient, scale + 1)
    else fitPrecision (dropDigit coefficient) scale

end Binary

/-- The decimal form of a binary number; none for infinities, what is no number, and what is too
large. -/
def ofFloat? (number : Float) : Option Decimal := do
  let bits := number.toBits.toNat
  let negative := bits >>> 63 == 1
  let biased := (bits >>> 52) % 2048
  let fraction := bits % (1 <<< 52)
  if biased == 2047 then none
  else if biased == 0 && fraction == 0 then ofParts? negative 0 0
  else
    let significand := if biased == 0 then fraction else fraction + (1 <<< 52)
    let exponent : Int := (max biased 1 : Nat) - 1075
    if exponent ≥ 0 then ofParts? negative (significand <<< min exponent.toNat 96) 0
    else
      let (coefficient, exponent) := Binary.tradeHalves significand exponent exponent.natAbs
      let scale := (-exponent).toNat
      let (coefficient, scale) := Binary.fitScale coefficient scale (scale - maxScale)
      let (coefficient, scale) := Binary.fitPrecision coefficient scale
      let (coefficient, scale) := stripZeros coefficient scale
      ofParts? negative coefficient scale

end SqlMapper.Decimal
