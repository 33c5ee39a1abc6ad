import SqlMapper.Template.Event

/-!
# Replacing references

The tree with something in the place of every reference to a fragment, and the references in the
order in which they are replaced.
-/

namespace SqlMapper.Node

mutual

/-- The tree with every reference replaced. -/
def replaceReferences (replacement : String → Node) : Node → Node
  | .reference fragment => replacement fragment
  | .text content => .text content
  | .parameter name raw => .parameter name raw
  | .bind name value => .bind name value
  | .condition test children => .condition test (replaceInAll replacement children)
  | .choice branches none => .choice (replaceInBranches replacement branches) none
  | .choice branches (some children) =>
    .choice (replaceInBranches replacement branches) (some (replaceInAll replacement children))
  | .clause kind children => .clause kind (replaceInAll replacement children)
  | .loop header children => .loop header (replaceInAll replacement children)
  | .mixed children => .mixed (replaceInAll replacement children)

/-- The trees with every reference replaced. -/
def replaceInAll (replacement : String → Node) : List Node → List Node
  | [] => []
  | node :: rest => node.replaceReferences replacement :: replaceInAll replacement rest

def replaceInBranches (replacement : String → Node) :
    List (String × List Node) → List (String × List Node)
  | [] => []
  | (test, children) :: rest =>
    (test, replaceInAll replacement children) :: replaceInBranches replacement rest

end

end SqlMapper.Node
