import SqlMapper.Text.Utf8
import SqlMapper.Xml.Fault

/-!
# Entities

In text and in attribute values an ampersand begins a reference to one of the five named characters
or to a character by number.
-/

namespace SqlMapper.Xml.Entity

def named? : List Char → Option Char
  | ['l', 't'] => some '<'
  | ['g', 't'] => some '>'
  | ['a', 'm', 'p'] => some '&'
  | ['a', 'p', 'o', 's'] => some '\x27'
  | ['q', 'u', 'o', 't'] => some '"'
  | _ => none

/-- The value of a digit in a base of at most sixteen. -/
def digit? (base : Nat) (c : Char) : Option Nat :=
  let value :=
    if c.isDigit then some (c.toNat - '0'.toNat)
    else if 'a' ≤ c && c ≤ 'f' then some (c.toNat - 'a'.toNat + 10)
    else if 'A' ≤ c && c ≤ 'F' then some (c.toNat - 'A'.toNat + 10)
    else none
  value.filter (· < base)

/-- Reads digits of a number below 2^32 behind digits of value `seen`. -/
def readDigits (base seen : Nat) : List Char → Except NumberFault Nat
  | [] => .ok seen
  | c :: rest =>
    match digit? base c with
    | none => .error .invalidDigit
    | some value =>
      let longer := seen * base + value
      if longer < UInt32.size then readDigits base longer rest else .error .tooLarge

/-- Reads a number below 2^32 without a sign. -/
def readNumber (base : Nat) : List Char → Except Fault Nat
  | [] => .error (.unreadableReference .empty)
  | '+' :: _ | '-' :: _ => .error .signedReference
  | digits => (readDigits base 0 digits).mapError .unreadableReference

def ofNumber (point : Nat) : Except Fault Char :=
  if point == 0 then .error (.illegalCharacter point)
  else if point.isValidChar then .ok (Char.ofNat point)
  else .error (.invalidCodePoint point)

/-- The character that a reference names, `start` being the place of the name. -/
def resolve (start : Nat) (name : List Char) : Except Fault Char :=
  match name with
  | '#' :: 'x' :: digits => readNumber 16 digits >>= ofNumber
  | '#' :: digits => readNumber 10 digits >>= ofNumber
  | _ =>
    match named? name with
    | some c => .ok c
    | none =>
      .error (.unknownEntity start (start + Text.utf8Length name) (String.ofList name))

/-- Whether a character ends the name of a reference, rightly or not. -/
def endsName (c : Char) : Bool :=
  c == '&' || c == ';'

/-- The text with its references resolved, `position` being the place of its beginning. -/
def decodeFrom (position : Nat) (text : List Char) : Except Fault (List Char) :=
  match text with
  | [] => .ok []
  | '&' :: rest =>
    match _ : rest.dropWhile (!endsName ·) with
    | ';' :: after => do
      let name := rest.takeWhile (!endsName ·)
      let c ← resolve (position + 1) name
      let decoded ← decodeFrom (position + 2 + Text.utf8Length name) after
      return c :: decoded
    | _ => .error (.unterminatedEntity position (position + Text.utf8Length text))
  | c :: rest => do
    let decoded ← decodeFrom (position + c.utf8Size) rest
    return c :: decoded
termination_by text.length
decreasing_by
  · rename_i opened
    have := (List.dropWhile_suffix (!endsName ·) (l := rest)).length_le
    rw [opened] at this
    simp only [List.length_cons] at this ⊢
    omega
  · simp

/-- The text with its references resolved. -/
def decode (text : List Char) : Except Fault String :=
  (decodeFrom 0 text).map String.ofList

end SqlMapper.Xml.Entity
