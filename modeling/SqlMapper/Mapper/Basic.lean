import SqlMapper.Template.Event

/-!
# Mappers

A mapper declares the statements of one namespace, and fragments that their templates share.
-/

namespace SqlMapper

/-- A range of bytes in the source of a mapper. -/
structure Span where
  start : Nat
  stop : Nat
deriving DecidableEq

instance : Inhabited Span := ⟨⟨0, 0⟩⟩

inductive StatementKind where
  | select
  | insert
  | update
  | delete
deriving DecidableEq

namespace StatementKind

/-- The element that declares a statement. -/
def tag : StatementKind → String
  | .select => "select"
  | .insert => "insert"
  | .update => "update"
  | .delete => "delete"

def all : List StatementKind := [.select, .insert, .update, .delete]

def ofTag? (tag : String) : Option StatementKind :=
  all.find? (·.tag == tag)

def title : StatementKind → String
  | .select => "Select"
  | .insert => "Insert"
  | .update => "Update"
  | .delete => "Delete"

end StatementKind

structure Statement where
  id : String
  kind : StatementKind := .select
  root : Node
  /-- Name of the result mapping or of the result type. -/
  result : Option String := none
  parameterType : Option String := none
  /-- Time limit in seconds. -/
  timeout : Option Nat := none
  /-- The declaring element. -/
  span : Span := default

/-- A declared fragment. -/
structure Fragment where
  id : String
  root : Node
  /-- The declaring element. -/
  span : Span := default

/-- The declarations of a namespace. -/
structure Mapper where
  nameSpace : String
  statements : List Statement := []
  fragments : List Fragment := []

namespace Mapper

instance : Inhabited Mapper := ⟨{ nameSpace := "" }⟩

/-- The first statement with an id. -/
def statement? (mapper : Mapper) (id : String) : Option Statement :=
  mapper.statements.find? (·.id == id)

/-- The first fragment with an id. -/
def fragment? (mapper : Mapper) (id : String) : Option Fragment :=
  mapper.fragments.find? (·.id == id)

/-- An id with its namespace in front, if that has a name. -/
def qualifyIn (nameSpace id : String) : String :=
  if nameSpace.isEmpty then id else nameSpace ++ "." ++ id

def qualify (mapper : Mapper) (id : String) : String :=
  qualifyIn mapper.nameSpace id

end Mapper

end SqlMapper
