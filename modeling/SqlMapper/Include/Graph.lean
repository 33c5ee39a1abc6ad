import SqlMapper.Mapper.Basic

/-!
# The graph of includes

Fragments and the includes between them form a graph.  Of several declarations with one id the first
one counts, and includes of fragments that are not declared are no part of the graph.
-/

namespace SqlMapper.Mapper

/-- The ids of the declared fragments, each once, in order. -/
def fragmentIds (mapper : Mapper) : List String :=
  (mapper.fragments.map (·.id)).eraseDups

theorem mem_fragmentIds {mapper : Mapper} {id : String} :
    id ∈ mapper.fragmentIds ↔ ∃ fragment ∈ mapper.fragments, fragment.id = id := by
  simp [fragmentIds, List.mem_eraseDups]

theorem mem_fragmentIds_iff_declared {mapper : Mapper} {id : String} :
    id ∈ mapper.fragmentIds ↔ ∃ fragment, mapper.fragment? id = some fragment := by
  rw [mem_fragmentIds]
  constructor
  · rintro ⟨fragment, member, same⟩
    cases found : mapper.fragment? id with
    | none =>
        have missing := List.find?_eq_none.1 found fragment member
        simp [same] at missing
    | some first => exact ⟨first, rfl⟩
  · rintro ⟨fragment, found⟩
    have same := List.find?_some found
    exact ⟨fragment, List.mem_of_find?_eq_some found, by simpa using same⟩

/-- The place of a fragment among the declared ones. -/
def order (mapper : Mapper) (id : String) : Nat :=
  mapper.fragmentIds.idxOf id

/-- The declared fragments that a fragment includes, each once, in the order of its source. -/
def includes (mapper : Mapper) (id : String) : List String :=
  match mapper.fragment? id with
  | none => []
  | some fragment => fragment.root.references.eraseDups.filter (· ∈ mapper.fragmentIds)

theorem includes_subset (mapper : Mapper) (id : String) :
    mapper.includes id ⊆ mapper.fragmentIds := by
  intro target member
  unfold includes at member
  split at member
  · cases member
  · simpa using (List.mem_filter.1 member).2

/-- How many declared fragments have not been visited. -/
def unvisited (mapper : Mapper) (visited : List String) : Nat :=
  (mapper.fragmentIds.filter (· ∉ visited)).length

theorem unvisited_cons_lt {mapper : Mapper} {visited : List String} {id : String}
    (declared : id ∈ mapper.fragmentIds) (fresh : id ∉ visited) :
    mapper.unvisited (id :: visited) < mapper.unvisited visited := by
  have narrower : mapper.fragmentIds.filter (· ∉ id :: visited) =
      (mapper.fragmentIds.filter (· ∉ visited)).filter (· ≠ id) := by
    rw [List.filter_filter]
    congr 1
    funext other
    by_cases same : other = id <;> simp [same]
  have member : id ∈ mapper.fragmentIds.filter (· ∉ visited) := by simp [declared, fresh]
  unfold unvisited
  rw [narrower]
  exact List.length_filter_lt_length_iff_exists.2 ⟨id, member, by simp⟩

theorem unvisited_le {mapper : Mapper} {visited later : List String} (grown : visited ⊆ later) :
    mapper.unvisited later ≤ mapper.unvisited visited := by
  simp only [unvisited, ← List.countP_eq_length_filter]
  apply List.countP_mono_left
  intro id _ fresh
  simp only [decide_eq_true_eq] at fresh ⊢
  exact fun known => fresh (grown known)

/-- What visits no fewer fragments and has fewer left to look at is nearer to its end. -/
theorem unvisited_lex {mapper : Mapper} {visited later : List String} {left right : Nat}
    (grown : visited ⊆ later) (less : left < right) :
    Prod.Lex (· < ·) (· < ·) (mapper.unvisited later, left) (mapper.unvisited visited, right) := by
  have bound : mapper.unvisited later ≤ mapper.unvisited visited := unvisited_le grown
  rcases Nat.lt_or_eq_of_le bound with fewer | same
  · exact Prod.Lex.left _ _ fewer
  · rw [same]
    exact Prod.Lex.right _ less

end SqlMapper.Mapper
