import SqlMapper.Decimal.Basic
import SqlMapper.Identifier

/-!
# Parameter values

The values that templates are rendered with.  An object keeps its fields in order and may name its
shape; all objects of one shape are taken to have the same members.
-/

namespace SqlMapper

inductive Value where
  | null
  | bool (value : Bool)
  | int (value : Int64)
  | decimal (value : Decimal)
  | string (text : String)
  /-- A checked identifier, the only value that raw substitution trusts. -/
  | identifier (name : SafeIdentifier)
  | list (items : List Value)
  | object (shape : Option String) (fields : List (String × Value))

namespace Value

instance : Inhabited Value := ⟨.null⟩

inductive Kind where
  | null
  | bool
  | int
  | decimal
  | string
  | identifier
  | list
  | object
deriving DecidableEq

def kind : Value → Kind
  | .null => .null
  | .bool _ => .bool
  | .int _ => .int
  | .decimal _ => .decimal
  | .string _ => .string
  | .identifier _ => .identifier
  | .list _ => .list
  | .object _ _ => .object

def Kind.name : Kind → String
  | .null => "null"
  | .bool => "bool"
  | .int => "int"
  | .decimal => "decimal"
  | .string => "string"
  | .identifier => "identifier"
  | .list => "list"
  | .object => "object"

/-- Whether the value is absent. -/
def isNull (value : Value) : Bool :=
  value.kind == .null

def isNumeric (value : Value) : Bool :=
  value.kind == .int || value.kind == .decimal

def text? : Value → Option String
  | .string text => some text
  | .identifier name => some name.text
  | _ => none

def items? : Value → Option (List Value)
  | .list items => some items
  | _ => none

/-- The number that a numeric value stands for. -/
def decimal? : Value → Option Decimal
  | .int value => some (.ofInt64 value)
  | .decimal value => some value
  | _ => none

/-- A whole number without a sign: a number of 64 bits if it fits, else a decimal one. -/
def ofUInt64 (n : UInt64) : Value :=
  if n.toNat ≤ Int64.maxValue.toInt.toNat then .int (Int64.ofNat n.toNat)
  else .decimal (.ofUInt64 n)

/-- A count of things. -/
def ofNat (n : Nat) : Value :=
  .ofUInt64 (UInt64.ofNat n)

end Value

/-- Ordered fields with an optional shape, no two of one name. -/
structure Record where
  /-- Name of the shape, if the record has one. -/
  shape : Option String := none
  /-- The fields in the order of their first insertion. -/
  fields : List (String × Value) := []

namespace Record

/-- Replaces the value of the first field of a name, or adds a field behind the others. -/
def insertField (name : String) (value : Value) :
    List (String × Value) → List (String × Value)
  | [] => [(name, value)]
  | (other, old) :: rest =>
    if other == name then (other, value) :: rest
    else (other, old) :: insertField name value rest

/-- Sets a field: the value of a field of this exact name is replaced in its place. -/
def insert (record : Record) (name : String) (value : Value) : Record :=
  { record with fields := insertField name value record.fields }

def insertAll (record : Record) (fields : List (String × Value)) : Record :=
  fields.foldl (fun built field => built.insert field.1 field.2) record

/-- The field of an exact name. -/
def get? (record : Record) (name : String) : Option Value :=
  record.fields.lookup name

/-- Number of fields. -/
def size (record : Record) : Nat :=
  record.fields.length

def toValue (record : Record) : Value :=
  .object record.shape record.fields

end Record

def Value.record? : Value → Option Record
  | .object shape fields => some { shape, fields }
  | _ => none

end SqlMapper
