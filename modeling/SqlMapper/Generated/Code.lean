import SqlMapper.Clause
import SqlMapper.Generated.Expression

/-!
# Generated functions

A statement becomes a function that builds its SQL step by step.  The steps are data: they can be
executed and they can be printed as source.  Variables carry numbers, so no two declarations share a
name.
-/

namespace SqlMapper.Generated

/-- What a variable is for. -/
inductive Role where
  | bind
  /-- What a loop runs over. -/
  | collection
  | items
  /-- The number of the current item. -/
  | counter
  | item
  /-- The number of the current item as a value. -/
  | index
  /-- The body of a clause. -/
  | clause (kind : Clause)
deriving DecidableEq

structure Variable where
  role : Role
  number : Nat
deriving DecidableEq

/-- Where text is written. -/
inductive Buffer where
  /-- The SQL of the statement. -/
  | output
  | side (body : Variable)
deriving DecidableEq

/-- A step of a function.  A list of steps inside a step is a block: what is declared in it is
forgotten at its end. -/
inductive Code where
  /-- Writes fixed text. -/
  | push (buffer : Buffer) (text : String)
  /-- Binds a value to the next mark and writes the mark. -/
  | pushMark (buffer : Buffer) (value : ValueCode Variable)
  /-- Writes the text of a value that is trusted. -/
  | pushTrusted (buffer : Buffer) (value : ValueCode Variable)
  /-- Writes a checked identifier and refuses any other value. -/
  | pushGuarded (buffer : Buffer) (parameter : String) (value : ValueCode Variable)
  /-- Writes what remains of the body of a clause. -/
  | pushBody (buffer : Buffer) (body : Variable)
  | define (target : Variable) (value : BindCode Variable)
  /-- Declares the number of the current item as a value. -/
  | defineIndex (target counter : Variable)
  /-- Declares an empty body of a clause. -/
  | openBody (body : Variable)
  /-- Declares what remains of the body of a clause, under the same name. -/
  | trimBody (kind : Clause) (body : Variable)
  | block (inner : List Code)
  /-- The block of the first test that holds, or else the fallback. -/
  | branch (branches : List (TestCode Variable × List Code)) (fallback : Option (List Code))
  /-- A block for a body of a clause of which something remains. -/
  | ifNonempty (body : Variable) (inner : List Code)
  /-- A block for a value that is a list, in which its items are declared. -/
  | ifList (items collection : Variable) (inner : List Code)
  /-- A block for each item, in which its number and the item are declared. -/
  | forEach (counter item items : Variable) (inner : List Code)
  /-- A block for every item but the first. -/
  | ifLater (counter : Variable) (inner : List Code)
  /-- A remark on a reference that was never resolved. -/
  | remark (fragment : String)

structure Function where
  name : String
  /-- Qualified id of the statement. -/
  statement : String
  body : List Code

/-- The functions for the statements of a mapper. -/
structure Module where
  name : String
  /-- The namespace of the mapper. -/
  nameSpace : String
  functions : List Function

/-- The first function of a name. -/
def Module.function? (code : Module) (name : String) : Option Function :=
  code.functions.find? (·.name == name)

end SqlMapper.Generated
