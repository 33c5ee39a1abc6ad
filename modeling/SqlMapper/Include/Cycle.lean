import SqlMapper.Diagnostic.Basic
import SqlMapper.Include.Component

/-!
# Circles of includes

A component with an include inside it is a circle.  Each circle is shown once, as a closed chain
that begins with the fragment declared first and goes back to it through the component.
-/

namespace SqlMapper.Mapper

/-- What a search for a way comes to that has visited some fragments before. -/
inductive WayOutcome (visited : List String) where
  /-- A way, its last fragment first. -/
  | found (way : List String)
  /-- There is no way through the fragments that have been visited now. -/
  | exhausted (later : List String) (grown : visited ⊆ later)

/-- The outcome of a search that had visited fewer fragments before. -/
def WayOutcome.since {visited between : List String} (grown : visited ⊆ between) :
    WayOutcome between → WayOutcome visited
  | .found way => .found way
  | .exhausted later more => .exhausted later (List.Subset.trans grown more)

mutual

/-- Looks depth first for a way from a fragment to `start` inside a component.  The path leads to
the fragment, its last fragment first. -/
def wayFrom (mapper : Mapper) (start : String) (component visited path : List String) (id : String)
    (_declared : id ∈ mapper.fragmentIds) (_fresh : id ∉ visited) : WayOutcome visited :=
  let targets := (mapper.includes id).filter (· ∈ component)
  if start ∈ targets then .found (id :: path)
  else
    have declaredTargets : targets ⊆ mapper.fragmentIds :=
      fun _ member => mapper.includes_subset id (List.mem_filter.1 member).1
    (mapper.wayThrough start component (id :: visited) (id :: path) targets declaredTargets).since
      (List.subset_cons_self _ _)
termination_by (mapper.unvisited visited, 0)
decreasing_by exact Prod.Lex.left _ _ (unvisited_cons_lt _declared _fresh)

/-- Looks for a way through one fragment after the other, at the end of a path. -/
def wayThrough (mapper : Mapper) (start : String) (component visited path : List String) :
    (targets : List String) → targets ⊆ mapper.fragmentIds → WayOutcome visited
  | [], _ => .exhausted visited (List.Subset.refl _)
  | target :: rest, declared =>
    have declaredRest := (List.cons_subset.1 declared).2
    if fresh : target ∉ visited then
      have declaredTarget := (List.cons_subset.1 declared).1
      match mapper.wayFrom start component visited path target declaredTarget fresh with
      | .found way => .found way
      | .exhausted later grown =>
        (mapper.wayThrough start component later path rest declaredRest).since grown
    else mapper.wayThrough start component visited path rest declaredRest
termination_by targets => (mapper.unvisited visited, targets.length)
decreasing_by
  · exact Prod.Lex.right _ (Nat.zero_lt_succ _)
  · exact unvisited_lex grown (Nat.lt_succ_self _)
  · exact Prod.Lex.right _ (Nat.lt_succ_self _)

end

section Equations

variable {mapper : Mapper} {start target : String} {component visited path rest : List String}

theorem wayThrough_of_visited (declared : target :: rest ⊆ mapper.fragmentIds)
    (met : target ∈ visited) :
    mapper.wayThrough start component visited path (target :: rest) declared =
      mapper.wayThrough start component visited path rest (List.cons_subset.1 declared).2 := by
  rw [wayThrough, dif_neg (not_not_intro met)]

theorem wayThrough_of_found {way : List String} (declared : target :: rest ⊆ mapper.fragmentIds)
    (fresh : target ∉ visited)
    (outcome : mapper.wayFrom start component visited path target (List.cons_subset.1 declared).1
      fresh = .found way) :
    mapper.wayThrough start component visited path (target :: rest) declared = .found way := by
  rw [wayThrough, dif_pos fresh]
  simp only [outcome]

theorem wayThrough_of_exhausted {later : List String} {grown : visited ⊆ later}
    (declared : target :: rest ⊆ mapper.fragmentIds) (fresh : target ∉ visited)
    (outcome : mapper.wayFrom start component visited path target (List.cons_subset.1 declared).1
      fresh = .exhausted later grown) :
    mapper.wayThrough start component visited path (target :: rest) declared =
      (mapper.wayThrough start component later path rest (List.cons_subset.1 declared).2).since
        grown := by
  rw [wayThrough, dif_pos fresh]
  simp only [outcome]

end Equations

/-- A closed chain of includes from a fragment through its component. -/
def chainFrom? (mapper : Mapper) (component : List String) (start : String) :
    Option (List String) :=
  if declared : start ∈ mapper.fragmentIds then
    match mapper.wayFrom start component [] [] start declared List.not_mem_nil with
    | .found way => some (way.reverse ++ [start])
    | .exhausted _ _ => none
  else none

/-- Whether a component has an include inside it. -/
def isCircular (mapper : Mapper) : List String → Bool
  | [single] => single ∈ mapper.includes single
  | component => !component.isEmpty

/-- The chain of a component with the place of the fragment that it begins with. -/
def circle? (mapper : Mapper) (component : List String) : Option (Nat × List String) := do
  let start ← component.minOn? mapper.order
  let chain ← mapper.chainFrom? component start
  return (mapper.order start, chain)

/-- The circles in the order in which their components are found. -/
def circles (mapper : Mapper) : List (Nat × List String) :=
  (mapper.components.filter mapper.isCircular).filterMap mapper.circle?

/-- One closed chain for each circle, in the order of their first fragments. -/
def fragmentCycles (mapper : Mapper) : List (List String) :=
  (mapper.circles.mergeSort fun left right => left.1 ≤ right.1).map (·.2)

end SqlMapper.Mapper
