import SqlMapper.Include.Graph

/-!
# Components of the graph of includes

Fragments that lead to each other form a component.  One depth first search finds all components.
It numbers the fragments as it meets them and keeps those on a stack whose component is not
complete.  For each fragment it finds the lowest number on the stack that the fragment leads back
to.  If that is the number of the fragment itself, then the fragment and all above it on the stack
are a component.  The search ends because each visit takes its fragment out of those not met yet.
-/

namespace SqlMapper

/-- The state of a search for components. -/
structure ComponentSearch where
  /-- Number of the next fragment that is met. -/
  next : Nat := 0
  /-- The numbers of the fragments met so far. -/
  indices : List (String × Nat) := []
  /-- The lowest numbers found so far, the newest entry of a fragment being the one that counts. -/
  lowlinks : List (String × Nat) := []
  /-- The fragments whose components are not complete, the newest on top. -/
  stack : List String := []
  components : List (List String) := []

namespace ComponentSearch

/-- The fragments met so far. -/
def visited (search : ComponentSearch) : List String :=
  search.indices.map (·.1)

def index (search : ComponentSearch) (id : String) : Nat :=
  (search.indices.lookup id).getD 0

def lowlink (search : ComponentSearch) (id : String) : Nat :=
  (search.lowlinks.lookup id).getD 0

/-- Meets a fragment for the first time. -/
def meet (search : ComponentSearch) (id : String) : ComponentSearch where
  next := search.next + 1
  indices := (id, search.next) :: search.indices
  lowlinks := (id, search.next) :: search.lowlinks
  stack := id :: search.stack
  components := search.components

/-- Notes that a fragment leads back to a number. -/
def lower (search : ComponentSearch) (id : String) (candidate : Nat) : ComponentSearch :=
  { search with lowlinks := (id, min (search.lowlink id) candidate) :: search.lowlinks }

/-- What stands on a stack down to a fragment, and what stands below. -/
def popThrough (id : String) : List String → List String × List String
  | [] => ([], [])
  | top :: rest =>
    if top = id then ([top], rest)
    else
      let (popped, below) := popThrough id rest
      (top :: popped, below)

/-- Takes the component of a fragment off the stack if the fragment leads back no further than to
itself. -/
def finish (search : ComponentSearch) (id : String) : ComponentSearch :=
  if search.lowlink id = search.index id then
    let (component, stack) := popThrough id search.stack
    { search with stack, components := search.components ++ [component] }
  else search

/-- The later states of a search, in which no fragment is forgotten. -/
abbrev Later (search : ComponentSearch) : Type :=
  {later : ComponentSearch // search.visited ⊆ later.visited}

variable {search : ComponentSearch} {id other : String}

@[simp]
theorem visited_meet : (search.meet id).visited = id :: search.visited := rfl

@[simp]
theorem visited_lower {candidate : Nat} :
    (search.lower id candidate).visited = search.visited := rfl

@[simp]
theorem visited_finish : (search.finish id).visited = search.visited := by
  unfold finish
  split <;> rfl

end ComponentSearch

namespace Mapper

mutual

/-- Visits a fragment and all that it leads to. -/
def connect (mapper : Mapper) (search : ComponentSearch) (id : String)
    (_declared : id ∈ mapper.fragmentIds) (_fresh : id ∉ search.visited) : search.Later :=
  let scanned := mapper.scan id (search.meet id) (mapper.includes id) (mapper.includes_subset id)
  ⟨scanned.val.finish id, by
    have grown := scanned.property
    simp only [ComponentSearch.visited_meet, List.cons_subset] at grown
    simpa using grown.2⟩
termination_by (mapper.unvisited search.visited, 0)
decreasing_by exact Prod.Lex.left _ _ (unvisited_cons_lt _declared _fresh)

/-- Follows the includes of a fragment. -/
def scan (mapper : Mapper) (source : String) (search : ComponentSearch) :
    (targets : List String) → targets ⊆ mapper.fragmentIds → search.Later
  | [], _ => ⟨search, List.Subset.refl _⟩
  | target :: rest, declared =>
    have declaredRest := (List.cons_subset.1 declared).2
    if fresh : target ∉ search.visited then
      let inner := mapper.connect search target (List.cons_subset.1 declared).1 fresh
      let lowered := inner.val.lower source (inner.val.lowlink target)
      let later := mapper.scan source lowered rest declaredRest
      ⟨later.val, List.Subset.trans inner.property later.property⟩
    else if target ∈ search.stack then
      let later := mapper.scan source (search.lower source (search.index target)) rest declaredRest
      ⟨later.val, later.property⟩
    else mapper.scan source search rest declaredRest
termination_by targets => (mapper.unvisited search.visited, targets.length)
decreasing_by
  · exact Prod.Lex.right _ (Nat.zero_lt_succ _)
  · exact unvisited_lex inner.property (Nat.lt_succ_self _)
  · exact Prod.Lex.right _ (Nat.lt_succ_self _)
  · exact Prod.Lex.right _ (Nat.lt_succ_self _)

end

section Equations

variable {mapper : Mapper} {search : ComponentSearch} {source target : String}
  {rest : List String}

theorem scan_of_fresh (declared : target :: rest ⊆ mapper.fragmentIds)
    (fresh : target ∉ search.visited) :
    let inner := mapper.connect search target (List.cons_subset.1 declared).1 fresh
    (mapper.scan source search (target :: rest) declared).val =
      (mapper.scan source (inner.val.lower source (inner.val.lowlink target)) rest
        (List.cons_subset.1 declared).2).val := by
  rw [scan, dif_pos fresh]

theorem scan_of_stacked (declared : target :: rest ⊆ mapper.fragmentIds)
    (met : target ∈ search.visited) (waiting : target ∈ search.stack) :
    (mapper.scan source search (target :: rest) declared).val =
      (mapper.scan source (search.lower source (search.index target)) rest
        (List.cons_subset.1 declared).2).val := by
  rw [scan, dif_neg (not_not_intro met), if_pos waiting]

theorem scan_of_finished (declared : target :: rest ⊆ mapper.fragmentIds)
    (met : target ∈ search.visited) (finished : target ∉ search.stack) :
    mapper.scan source search (target :: rest) declared =
      mapper.scan source search rest (List.cons_subset.1 declared).2 := by
  rw [scan, dif_neg (not_not_intro met), if_neg finished]

end Equations

/-- Visits those of the given fragments that have not been met. -/
def connectAll (mapper : Mapper) (search : ComponentSearch) :
    (ids : List String) → ids ⊆ mapper.fragmentIds → ComponentSearch
  | [], _ => search
  | id :: rest, declared =>
    have declaredRest := (List.cons_subset.1 declared).2
    if fresh : id ∉ search.visited then
      let later := mapper.connect search id (List.cons_subset.1 declared).1 fresh
      mapper.connectAll later.val rest declaredRest
    else mapper.connectAll search rest declaredRest

/-- The components of the fragments. -/
def components (mapper : Mapper) : List (List String) :=
  (mapper.connectAll {} mapper.fragmentIds (List.Subset.refl _)).components

end Mapper

end SqlMapper
