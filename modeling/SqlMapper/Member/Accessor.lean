import SqlMapper.Value.Basic

/-!
# Readable members

What a template may read from a parameter object: the names it declares, the value under a declared
name, a shape that tells objects with equal members, and a count if the object is a collection.
-/

namespace SqlMapper

/-- The readable side of a parameter object. -/
structure Accessor where
  /-- Name of the shape.  Objects without one are looked into directly. -/
  shape : Option String := none
  /-- Declared names in order. -/
  names : List String
  /-- The value under a declared name. -/
  member? : String → Option Value
  /-- Number of elements of a collection. -/
  count : Option Nat := none

namespace Accessor

/-- An accessor over named values: of two values with one name the first is read. -/
def ofPairs (pairs : List (String × Value)) : Accessor where
  names := pairs.map (·.1)
  member? name := pairs.lookup name

def ofRecord (record : Record) : Accessor where
  shape := record.shape
  names := record.fields.map (·.1)
  member? := record.get?

end Accessor

/-- The readable side of a value: the fields of an object, the count of lists and of texts. -/
def Value.accessor : Value → Accessor
  | .object shape fields => .ofRecord { shape, fields }
  | .list items => { names := [], member? := fun _ => none, count := some items.length }
  | .string text => { names := [], member? := fun _ => none, count := some text.length }
  | .identifier name => { names := [], member? := fun _ => none, count := some name.text.length }
  | _ => { names := [], member? := fun _ => none }

/-- An object with a copy of every declared member, absent ones as null. -/
def Accessor.snapshot (source : Accessor) : Value :=
  let fields := source.names.map fun name => (name, (source.member? name).getD .null)
  (Record.insertAll { shape := source.shape } fields).toValue

end SqlMapper
