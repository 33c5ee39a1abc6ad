import SqlMapper.Text.AsciiCase

/-!
# Member tables

A requested name stands for the declared name that equals it, or else for the first declared name
that equals it up to ASCII case.  A table answers this without looking through the declared names
again.
-/

namespace SqlMapper

/-- The declared name that a request stands for, looked up in the names themselves. -/
def resolveName? (names : List String) (request : String) : Option String :=
  names.find? (· == request) <|> names.find? (Text.sameIgnoringCase · request)

/-- The declared names of a shape, prepared for requests. -/
structure MemberTable where
  /-- The different names in the order of their first declaration. -/
  declared : List String := []
  /-- The first declared name for every name in lower case. -/
  folded : List (String × String) := []

namespace MemberTable

/-- Takes up one more declared name. -/
def insert (table : MemberTable) (name : String) : MemberTable where
  declared := if name ∈ table.declared then table.declared else table.declared ++ [name]
  folded :=
    if (table.folded.lookup (Text.foldCase name)).isSome then table.folded
    else table.folded ++ [(Text.foldCase name, name)]

def build (names : List String) : MemberTable :=
  names.foldl insert {}

/-- The declared name that a request stands for. -/
def resolve? (table : MemberTable) (request : String) : Option String :=
  if request ∈ table.declared then some request
  else table.folded.lookup (Text.foldCase request)

/-- Number of different names. -/
def size (table : MemberTable) : Nat :=
  table.declared.length

end MemberTable

end SqlMapper
