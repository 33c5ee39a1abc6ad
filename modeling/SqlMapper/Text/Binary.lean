import SqlMapper.Text.Integer

/-!
# Binary numbers in text

The binary floating point number nearest to what decimal digits spell.  Two bits more than needed
are computed exactly, the last of them collecting whatever is left, so that a single rounding gives
the nearest number.
-/

namespace SqlMapper.Text

namespace Binary

/-- The binary number nearest to a natural number. -/
def ofNat (n : Nat) : Float :=
  let shift := n.log2 - 63
  let kept := n >>> shift
  let sticky := if kept <<< shift == n then kept else kept ||| 1
  sticky.toUInt64.toFloat.scaleB shift

/-- The binary number nearest to a quotient. -/
def ofRatio (above below : Nat) : Float :=
  let shift := 66 + below.log2 - above.log2
  let scaled := above <<< shift
  let quotient := 2 * (scaled / below) + if scaled % below == 0 then 0 else 1
  (ofNat quotient).scaleB (-(shift : Int) - 1)

/-- The binary number nearest to digits with a power of ten. -/
def ofDigits (digits : Nat) (exponent : Int) : Float :=
  let size := exponent + (digits.log2 / 3 : Nat)
  if digits == 0 || size < -400 then 0
  else if exponent > 400 then 1 / 0
  else if exponent ≥ 0 then ofNat (digits * Nat.pow 10 exponent.toNat)
  else ofRatio digits (Nat.pow 10 exponent.natAbs)

/-- A number without its sign: digits with at most one point, and perhaps an exponent. -/
def readUnsigned? (text : List Char) : Option Float := do
  let whole := text.takeWhile Char.isDigit
  let rest := text.dropWhile Char.isDigit
  let (fraction, rest) := match rest with
    | '.' :: rest => (rest.takeWhile Char.isDigit, rest.dropWhile Char.isDigit)
    | _ => ([], rest)
  let digits ← Text.readUnsigned? (whole ++ fraction)
  let power ← match rest with
    | [] => some 0
    | 'e' :: rest | 'E' :: rest => readInt? rest
    | _ => none
  some (ofDigits digits (power - fraction.length))

end Binary

/-- The binary number that a text spells, infinities and what is no number included. -/
def readBinary? (text : List Char) : Option Float :=
  let negative := text.head? == some '-'
  let digits := if negative || text.head? == some '+' then text.tail else text
  let word := String.ofList (digits.map Char.toLower)
  let size :=
    if word == "nan" then some (0 / 0)
    else if word == "inf" || word == "infinity" then some (1 / 0)
    else Binary.readUnsigned? digits
  size.map fun value => if negative then -value else value

end SqlMapper.Text
