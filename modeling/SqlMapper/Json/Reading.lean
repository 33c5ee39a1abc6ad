import SqlMapper.Json
import SqlMapper.Text.Binary

/-!
# Reading JSON

A document is read from its text with its entries in order.  A whole number within 64 bits stays
whole.  Any other number becomes a binary one: as many digits as 64 bits hold are scaled by powers
of ten, which may miss the nearest number by a little.  Every step takes something off the text, so
its length bounds the number of steps.
-/

namespace SqlMapper.Json

/-- The text behind white space. -/
def skip (text : List Char) : List Char :=
  text.dropWhile fun c => c == ' ' || c == '\n' || c == '\r' || c == '\t'

namespace Number

/-- Takes digits up as long as 64 bits hold them, and gives the digits that remain. -/
def takeUp (seen : Nat) : List Char → Nat × List Char
  | [] => (seen, [])
  | c :: rest =>
    let next := seen * 10 + (c.toNat - 48)
    if next < UInt64.size then takeUp next rest else (seen, c :: rest)

/-- Multiplies a binary number by a power of ten, a small one in several steps; none if the product
is too large. -/
def scale? (value : Float) (exponent : Int) : Nat → Option Float
  | 0 => some value
  | steps + 1 =>
    if value == 0 then some value
    else if exponent > 308 then none
    else if exponent ≥ 0 then
      some (value * Text.Binary.ofNat (Nat.pow 10 exponent.toNat)) |>.filter (!·.isInf)
    else if exponent ≥ -308 then
      some (value / Text.Binary.ofNat (Nat.pow 10 exponent.natAbs))
    else scale? (value / Text.Binary.ofNat (Nat.pow 10 308)) (exponent + 308) steps

/-- The binary number with the given digits before and behind the point.  Digits that 64 bits do
not hold count as zeros. -/
def nearest? (front fraction : List Char) (exponent : Int) : Option Float :=
  let (first, cut) := takeUp 0 front
  let (significand, unused) := takeUp first fraction
  let places : Int := cut.length + unused.length - fraction.length
  scale? significand.toUInt64.toFloat (places + exponent) 8

/-- The digits at the beginning of a text, and what follows them. -/
def digits (text : List Char) : List Char × List Char :=
  (text.takeWhile Char.isDigit, text.dropWhile Char.isDigit)

/-- An exponent at the beginning of a text. -/
def exponent? : List Char → Option (Int × List Char)
  | 'e' :: rest | 'E' :: rest =>
    let negative := rest.head? == some '-'
    let (size, rest) :=
      digits (if negative || rest.head? == some '+' then rest.tail else rest)
    (Text.readUnsigned? size).map fun size =>
      (if negative then -(size : Int) else size, rest)
  | _ => none

/-- A number at the beginning of a text. -/
def read? (text : List Char) : Option (Json × List Char) := do
  let negative := text.head? == some '-'
  let (front, rest) := digits (if negative then text.tail else text)
  let size ← Text.readUnsigned? front
  let (fraction, rest) := match rest with
    | '.' :: rest => digits rest
    | _ => ([], rest)
  let power := exponent? rest
  let fits := if negative then 0 < size && size ≤ Int64.minValue.toInt.natAbs else size < UInt64.size
  if fraction.isEmpty && power.isNone && fits then
    some (.whole (if negative then -(size : Int) else size), rest)
  else
    let (power, rest) := power.getD (0, rest)
    let value ← nearest? front fraction power
    some (.binary (if negative then -value else value), rest)

end Number

/-- The number that four hexadecimal digits spell. -/
def hexValue (digits : List Char) : Nat :=
  digits.foldl (fun seen c =>
    16 * seen + if c.isDigit then c.toNat - 48 else c.toLower.toNat - 87) 0

/-- The character that a letter behind a backslash stands for. -/
def unescape : Char → Char
  | 'n' => '\n'
  | 't' => '\t'
  | 'r' => '\r'
  | 'b' => '\x08'
  | 'f' => '\x0c'
  | other => other

/-- The character of a pair of surrogates. -/
def joinSurrogates (high low : Nat) : Char :=
  Char.ofNat (0x10000 + (high - 0xd800) * 0x400 + (low - 0xdc00))

/-- The rest of a string, added to a text that is kept backwards. -/
def readString? (built : List Char) : Nat → List Char → Option (String × List Char)
  | 0, _ => none
  | _ + 1, [] => none
  | _ + 1, '"' :: rest => some (String.ofList built.reverse, rest)
  | steps + 1, '\\' :: 'u' :: a :: b :: c :: d :: rest =>
    let code := hexValue [a, b, c, d]
    match rest with
    | '\\' :: 'u' :: e :: f :: g :: h :: after =>
      if 0xd800 ≤ code && code < 0xdc00 then
        readString? (joinSurrogates code (hexValue [e, f, g, h]) :: built) steps after
      else readString? (Char.ofNat code :: built) steps rest
    | _ => readString? (Char.ofNat code :: built) steps rest
  | steps + 1, '\\' :: c :: rest => readString? (unescape c :: built) steps rest
  | steps + 1, c :: rest => readString? (c :: built) steps rest

mutual

/-- A document at the beginning of a text. -/
def readValue? : Nat → List Char → Option (Json × List Char)
  | 0, _ => none
  | steps + 1, text =>
    match skip text with
    | 'n' :: 'u' :: 'l' :: 'l' :: rest => some (.null, rest)
    | 't' :: 'r' :: 'u' :: 'e' :: rest => some (.bool true, rest)
    | 'f' :: 'a' :: 'l' :: 's' :: 'e' :: rest => some (.bool false, rest)
    | '"' :: rest => (readString? [] (rest.length + 1) rest).map fun (text, rest) =>
      (.string text, rest)
    | '[' :: rest =>
      match skip rest with
      | ']' :: rest => some (.array [], rest)
      | rest => readItems? [] steps rest
    | '\x7b' :: rest =>
      match skip rest with
      | '\x7d' :: rest => some (.object [], rest)
      | rest => readEntries? [] steps rest
    | rest => Number.read? rest

/-- The rest of an array, added to items that are kept backwards. -/
def readItems? (built : List Json) : Nat → List Char → Option (Json × List Char)
  | 0, _ => none
  | steps + 1, text => do
    let (item, rest) ← readValue? steps text
    match skip rest with
    | ',' :: rest => readItems? (item :: built) steps rest
    | ']' :: rest => some (.array (item :: built).reverse, rest)
    | _ => none

/-- The rest of an object, added to entries that are kept backwards. -/
def readEntries? (built : List (String × Json)) : Nat → List Char → Option (Json × List Char)
  | 0, _ => none
  | steps + 1, text =>
    match skip text with
    | '"' :: rest => do
      let (key, rest) ← readString? [] (rest.length + 1) rest
      match skip rest with
      | ':' :: rest =>
        let (value, rest) ← readValue? steps rest
        match skip rest with
        | ',' :: rest => readEntries? ((key, value) :: built) steps rest
        | '\x7d' :: rest => some (.object ((key, value) :: built).reverse, rest)
        | _ => none
      | _ => none
    | _ => none

end

/-- The document that a text spells, with white space around it. -/
def read? (text : String) : Option Json := do
  let (value, rest) ← readValue? (text.length + 1) text.toList
  if (skip rest).isEmpty then some value else none

end SqlMapper.Json
