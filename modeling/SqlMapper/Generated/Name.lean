/-!
# Names in generated source

Ids of statements and namespaces become names in lower case with underscores.  Within a module every
function gets a name of its own.
-/

namespace SqlMapper.Generated

/-- Reserved words that may be used as names with a mark in front. -/
def keywords : List String :=
  ["abstract", "as", "async", "await", "become", "box", "break", "const", "continue", "do", "dyn",
    "else", "enum", "extern", "false", "final", "fn", "for", "gen", "if", "impl", "in", "let",
    "loop", "macro", "match", "mod", "move", "mut", "override", "priv", "pub", "ref", "return",
    "static", "struct", "trait", "true", "try", "type", "typeof", "unsafe", "unsized", "use",
    "virtual", "where", "while", "yield"]

/-- Reserved words that no mark makes usable. -/
def pathKeywords : List String := ["crate", "self", "super", "_"]

namespace SnakeCase

/-- Ends a word of a name that is written backwards. -/
def separate : List Char → List Char
  | [] => []
  | '_' :: built => '_' :: built
  | built => '_' :: built

def beginsWord (previous next : Option Char) : Bool :=
  match previous with
  | none => false
  | some c => c.isLower || c.isDigit || (c.isUpper && next.any Char.isLower)

/-- Writes a name backwards, given the character before and what is written so far. -/
def build (previous : Option Char) (built : List Char) : List Char → List Char
  | [] => built
  | c :: rest =>
    if !c.isAlphanum then build (some c) (separate built) rest
    else
      let split := c.isUpper && beginsWord previous rest.head?
      build (some c) (c.toLower :: if split then separate built else built) rest

end SnakeCase

/-- The name for an id: words in lower case with underscores between.  Capitals in a row are one
word, and whatever cannot stand in a name separates words. -/
def snakeCase (id : String) : String :=
  match ((SnakeCase.build none [] id.toList).dropWhile (· == '_')).reverse with
  | [] => "_unnamed"
  | c :: rest => if c.isDigit then String.ofList ('_' :: c :: rest) else String.ofList (c :: rest)

/-- A name that is no reserved word. -/
def asIdentifier (name : String) : String :=
  if name ∈ keywords then "r#" ++ name
  else if name ∈ pathKeywords then name ++ "_"
  else name

/-- The names taken in a module. -/
structure NameTable where
  used : List String := []

namespace NameTable

/-- The first of the names with a number behind, counted from two, that is not taken. -/
def numbered (table : NameTable) (base : String) : String :=
  let candidates := (List.range (table.used.length + 1)).map fun n => s!"{base}_{n + 2}"
  (candidates.find? (· ∉ table.used)).getD base

/-- A name for an id that no other id has been given. -/
def unique (table : NameTable) (id : String) : String × NameTable :=
  let base := snakeCase id
  if base ∈ table.used then
    let name := table.numbered base
    (name, { used := name :: table.used })
  else (asIdentifier base, { used := base :: table.used })

/-- Names for ids in turn. -/
def uniqueAll (table : NameTable) : List String → List String
  | [] => []
  | id :: rest =>
    let (name, table) := table.unique id
    name :: table.uniqueAll rest

end NameTable

end SqlMapper.Generated
