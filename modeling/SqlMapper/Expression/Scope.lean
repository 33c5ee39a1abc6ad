import SqlMapper.Text.AsciiCase

/-!
# Scopes

The names that a template binds while it is rendered, innermost first.  An exact name anywhere in
scope wins over one that differs in ASCII case only, the rule that members of parameters follow.
-/

namespace SqlMapper

/-- Named things, the newest in front. -/
structure Scope (α : Type) where
  entries : List (String × α) := []

namespace Scope

variable {α : Type}

/-- A scope of the given entries, the oldest first. -/
def ofList (entries : List (String × α)) : Scope α where
  entries := entries.reverse

/-- Binds a name, hiding older bindings of it. -/
def push (scope : Scope α) (name : String) (thing : α) : Scope α where
  entries := (name, thing) :: scope.entries

/-- Number of bindings, hidden ones included. -/
def size (scope : Scope α) : Nat :=
  scope.entries.length

/-- The scope as it was when it had `size` bindings. -/
def truncate (scope : Scope α) (size : Nat) : Scope α where
  entries := scope.entries.drop (scope.size - size)

/-- The newest thing under a name. -/
def lookup? (scope : Scope α) (name : String) : Option α :=
  let found := scope.entries.find? (·.1 == name) <|>
    scope.entries.find? (Text.sameIgnoringCase ·.1 name)
  found.map (·.2)

end Scope

end SqlMapper
