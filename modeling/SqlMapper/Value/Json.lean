import SqlMapper.Json
import SqlMapper.Value.Basic

/-!
# Values and JSON

Every value has a JSON form, in which identifiers are strings, decimals are strings of their digits
and objects lose their shape.  Reading JSON gives numbers of 64 bits where they fit and decimals
elsewhere.
-/

namespace SqlMapper.Value

mutual

/-- The JSON form of a value. -/
def toJson : Value → Json
  | .null => .null
  | .bool value => .bool value
  | .int value => .whole value.toInt
  | .decimal value => .string value.toText
  | .string text => .string text
  | .identifier name => .string name.text
  | .list items => .array (itemsToJson items)
  | .object _ fields => .object (fieldsToJson fields)

def itemsToJson : List Value → List Json
  | [] => []
  | item :: rest => toJson item :: itemsToJson rest

def fieldsToJson : List (String × Value) → List (String × Json)
  | [] => []
  | (name, value) :: rest => (name, toJson value) :: fieldsToJson rest

end

/-- The value of a binary number: the decimal that stands for it, if there is one. -/
def ofFloat (number : Float) : Value :=
  match Decimal.ofFloat? number with
  | some digits => .decimal digits
  | none => .null

/-- The value of a whole number: one of 64 bits if it fits, a decimal if it fits without its sign,
else what the nearest binary number gives. -/
def ofInt (n : Int) : Value :=
  if Int64.minValue.toInt ≤ n && n ≤ Int64.maxValue.toInt then .int (Int64.ofInt n)
  else if 0 ≤ n && n.toNat < UInt64.size then .ofUInt64 (UInt64.ofNat n.toNat)
  else .ofFloat (Float.ofInt n)

mutual

/-- The value that a JSON document stands for.  Of entries with one name the last counts, in the
place of the first. -/
def ofJson : Json → Value
  | .null => .null
  | .bool value => .bool value
  | .whole value => .ofInt value
  | .binary value => .ofFloat value
  | .string text => .string text
  | .array items => .list (itemsOfJson items)
  | .object entries => (Record.insertAll {} (fieldsOfJson entries)).toValue

def itemsOfJson : List Json → List Value
  | [] => []
  | item :: rest => ofJson item :: itemsOfJson rest

/-- The fields for the entries of an object, repeated names included. -/
def fieldsOfJson : List (String × Json) → List (String × Value)
  | [] => []
  | (key, value) :: rest => (key, ofJson value) :: fieldsOfJson rest

end

end SqlMapper.Value
