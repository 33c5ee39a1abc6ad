import SqlMapper.Value.Basic

/-!
# Markers of bound parameters

Bound parameters are named `p0`, `p1` and so on.  The mark that stands for one in the SQL text
depends on the database.
-/

namespace SqlMapper

/-- How a bound parameter is marked in SQL text. -/
inductive MarkerStyle where
  /-- A question mark for each parameter. -/
  | question
  /-- An at sign and the name. -/
  | atNamed
  /-- A dollar sign and the number, counted from one. -/
  | dollar
  /-- A colon and the name. -/
  | colonNamed
deriving DecidableEq

instance : Inhabited MarkerStyle := ⟨.question⟩

/-- A value bound to its name. -/
structure BoundParameter where
  name : String
  value : Value

/-- The name of the parameter with the given index. -/
def BoundParameter.nameOf (index : Nat) : String :=
  s!"p{index}"

namespace MarkerStyle

/-- The mark for the parameter with the given index. -/
def marker (style : MarkerStyle) (index : Nat) : String :=
  match style with
  | .question => "?"
  | .atNamed => s!"@p{index}"
  | .dollar => s!"${index + 1}"
  | .colonNamed => s!":p{index}"

/-- The name of a style in configurations. -/
def name : MarkerStyle → String
  | .question => "question"
  | .atNamed => "at_named"
  | .dollar => "dollar"
  | .colonNamed => "colon_named"

/-- The style of a name. -/
def ofName? (name : String) : Option MarkerStyle :=
  [question, atNamed, dollar, colonNamed].find? (·.name == name)

end MarkerStyle

/-- SQL text with the values bound to its marks, in order. -/
structure RenderedSql where
  sql : String
  parameters : List BoundParameter

/-- Binds a value as the next parameter and gives its mark. -/
def bindNext (style : MarkerStyle) (parameters : List BoundParameter) (value : Value) :
    String × List BoundParameter :=
  let index := parameters.length
  (style.marker index, parameters ++ [{ name := BoundParameter.nameOf index, value }])

end SqlMapper
