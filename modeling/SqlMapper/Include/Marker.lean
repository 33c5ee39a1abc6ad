/-!
# Markers for includes

An include that cannot be resolved leaves a comment in the SQL.  No id can close that comment: the
two characters that would are set apart.
-/

namespace SqlMapper.Include

/-- The text with a space inside every comment end. -/
def commentSafe : List Char → List Char
  | '*' :: '/' :: rest => '*' :: ' ' :: '/' :: commentSafe rest
  | c :: rest => c :: commentSafe rest
  | [] => []

/-- A comment with a text after its kind. -/
def comment (kind text : String) : String :=
  "/* " ++ kind ++ ": " ++ String.ofList (commentSafe text.toList) ++ " */"

/-- A chain of fragments that include each other. -/
def chainText (chain : List String) : String :=
  " -> ".intercalate chain

/-- What stands for a fragment that is not declared. -/
def unresolvedMarker (id : String) : String :=
  comment "unresolved include" id

/-- What stands for a fragment that would be inside itself. -/
def circularMarker (chain : List String) : String :=
  comment "circular include" (chainText chain)

end SqlMapper.Include
