import SqlMapper.Template.Node

/-!
# What occurs in a template

The expressions, placeholders, bindings and references of a tree in the order of its source.
Analyses look at this list and need not know the directives.
-/

namespace SqlMapper.Node

/-- Something that occurs in a template. -/
inductive Event where
  | parameter (name : String) (raw : Bool)
  | test (source : String)
  | bind (name value : String)
  | reference (fragment : String)
deriving DecidableEq

mutual

/-- Everything that occurs in a tree. -/
def events : Node → List Event
  | .text _ => []
  | .parameter name raw => [.parameter name raw]
  | .condition test children => .test test :: eventsOfAll children
  | .choice branches none => eventsOfBranches branches
  | .choice branches (some children) => eventsOfBranches branches ++ eventsOfAll children
  | .clause _ children | .loop _ children | .mixed children => eventsOfAll children
  | .bind name value => [.bind name value]
  | .reference fragment => [.reference fragment]

/-- Everything that occurs in trees one after the other. -/
def eventsOfAll : List Node → List Event
  | [] => []
  | node :: rest => node.events ++ eventsOfAll rest

/-- Everything that occurs in branches, each test before its children. -/
def eventsOfBranches : List (String × List Node) → List Event
  | [] => []
  | (test, children) :: rest => .test test :: eventsOfAll children ++ eventsOfBranches rest

end

mutual

/-- The loops that stand in no other loop, each with its number of children. -/
def outerLoops : Node → List (Loop × Nat)
  | .loop header children => [(header, children.length)]
  | .condition _ children | .clause _ children | .mixed children => outerLoopsOfAll children
  | .choice branches none => outerLoopsOfBranches branches
  | .choice branches (some children) => outerLoopsOfBranches branches ++ outerLoopsOfAll children
  | .text _ | .parameter _ _ | .bind _ _ | .reference _ => []

/-- The outer loops of trees one after the other. -/
def outerLoopsOfAll : List Node → List (Loop × Nat)
  | [] => []
  | node :: rest => node.outerLoops ++ outerLoopsOfAll rest

def outerLoopsOfBranches : List (String × List Node) → List (Loop × Nat)
  | [] => []
  | (_, children) :: rest => outerLoopsOfAll children ++ outerLoopsOfBranches rest

end

/-- The fragments that a tree refers to, in order and as often as it does. -/
def references (node : Node) : List String :=
  node.events.filterMap fun
    | .reference fragment => some fragment
    | _ => none

end SqlMapper.Node
