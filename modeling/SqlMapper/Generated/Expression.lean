import SqlMapper.Expression.Bind
import SqlMapper.Expression.Scope
import SqlMapper.Expression.Test
import SqlMapper.Member.Cache

/-!
# Expressions of generated functions

Tests, bind values and paths of a template become expressions over the parameter and over variables.
Names that the template has bound are looked up once and for all: in the expression there is a
variable, and whatever else a path begins with is a member of the parameter.
-/

namespace SqlMapper.Generated

/-- One step of a path. -/
structure Access where
  name : String
  /-- Whether an element count is read if there is one. -/
  counts : Bool
deriving DecidableEq

/-- Where a path begins, given the type of variables. -/
inductive Origin (α : Type) where
  | parameter (member : Access)
  | variable (target : α)
deriving DecidableEq

inductive ValueCode (α : Type) where
  | constant (literal : Literal)
  /-- Members of members of the origin, null where one is missing. -/
  | read (origin : Origin α) (path : List Access)
deriving DecidableEq

/-- An expression for what is bound to a name. -/
inductive BindCode (α : Type) where
  | value (code : ValueCode α)
  /-- The joined texts of values. -/
  | concat (parts : List (ValueCode α))
  | null
deriving DecidableEq

inductive ConditionCode (α : Type) where
  | truthy (value : ValueCode α)
  | compare (value : ValueCode α) (op : CompareOp) (literal : Literal)
  | never
deriving DecidableEq

structure TestCode (α : Type) where
  junction : Junction
  conditions : List (ConditionCode α)
deriving DecidableEq

variable {α : Type}

/-- The first step of a path; only the last one may count elements. -/
def access (name : String) (rest : List String) : Access where
  name
  counts := rest.isEmpty && MemberCache.isCountAlias name

/-- The steps of a path. -/
def accesses : List String → List Access
  | [] => []
  | name :: rest => access name rest :: accesses rest

def ofPath (locals : Scope α) (path : Path) : ValueCode α :=
  match locals.lookup? path.head with
  | some target => .read (.variable target) (accesses path.rest)
  | none => .read (.parameter (access path.head path.rest)) (accesses path.rest)

def ofAtom (locals : Scope α) : Atom → ConditionCode α
  | .truthy path => .truthy (ofPath locals path)
  | .compare path op literal => .compare (ofPath locals path) op literal
  | .invalid _ => .never

def ofTest (locals : Scope α) (test : Test) : TestCode α where
  junction := test.junction
  conditions := test.atoms.map (ofAtom locals)

def ofPart (locals : Scope α) : BindPart → ValueCode α
  | .literal constant => .constant constant
  | .path property => ofPath locals property

/-- The expression for a bind value. -/
def ofBind (locals : Scope α) : Bind → BindCode α
  | .single part => .value (ofPart locals part)
  | .concat parts => .concat (parts.map (ofPart locals))
  | .invalid _ => .null

end SqlMapper.Generated
