import SqlMapper.Clause

/-!
# Template trees

A template is text with placeholders and directives: conditions, choices, clauses, loops, bindings
and references to fragments.
-/

namespace SqlMapper

/-- What a loop runs over and what it writes around its items. -/
structure Loop where
  /-- Path of the list. -/
  collection : String
  /-- Name of the current item. -/
  item : String
  /-- Name of the current index. -/
  index : Option String := none
  /-- Text in front of the items. -/
  opening : Option String := none
  /-- Text behind the items. -/
  closing : Option String := none
  /-- Text between the items. -/
  separator : Option String := none
deriving DecidableEq

/-- A template tree. -/
inductive Node where
  | text (content : String)
  /-- A placeholder; a raw one is spliced into the SQL, any other is bound. -/
  | parameter (name : String) (raw : Bool)
  /-- Children that are kept if a test holds. -/
  | condition (test : String) (children : List Node)
  /-- The children of the first test that holds, or else the fallback. -/
  | choice (branches : List (String × List Node)) (fallback : Option (List Node))
  | clause (kind : Clause) (children : List Node)
  | loop (header : Loop) (children : List Node)
  /-- A name for a value, seen by what follows in the same scope. -/
  | bind (name value : String)
  /-- A reference to a fragment. -/
  | reference (fragment : String)
  /-- A plain sequence. -/
  | mixed (children : List Node)

namespace Node

instance : Inhabited Node := ⟨.text ""⟩

/-- One node for a list of children: a single child stands for itself and none for empty text. -/
def sequence : List Node → Node
  | [] => .text ""
  | [child] => child
  | children => .mixed children

/-- The lists of direct children, those of branches first. -/
def childLists : Node → List (List Node)
  | .condition _ children | .clause _ children | .loop _ children | .mixed children => [children]
  | .choice branches fallback => branches.map (·.2) ++ fallback.toList
  | .text _ | .parameter _ _ | .bind _ _ | .reference _ => []

mutual

/-- Whether any reference to a fragment remains in the tree. -/
def hasReferences : Node → Bool
  | .reference _ => true
  | .text _ | .parameter _ _ | .bind _ _ => false
  | .condition _ children | .clause _ children | .loop _ children | .mixed children =>
    anyHasReferences children
  | .choice branches none => anyBranchHasReferences branches
  | .choice branches (some children) => anyBranchHasReferences branches || anyHasReferences children

/-- Whether any reference remains in one of the trees. -/
def anyHasReferences : List Node → Bool
  | [] => false
  | node :: rest => node.hasReferences || anyHasReferences rest

/-- Whether any reference remains in one of the branches. -/
def anyBranchHasReferences : List (String × List Node) → Bool
  | [] => false
  | (_, children) :: rest => anyHasReferences children || anyBranchHasReferences rest

end

end Node

end SqlMapper
