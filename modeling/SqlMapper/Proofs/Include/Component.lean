import SqlMapper.Include.Component
import SqlMapper.Proofs.Template.Occurrence
import Mathlib.Data.List.Nodup
import Mathlib.Logic.Relation

/-!
# The search finds the components

While fragments are being visited they form a trail.  Every fragment on the stack leads back to one
of the trail and is led to by those of the trail that were met before it, so nothing on the stack
has a complete component before the fragment of the trail at which its component was entered is
finished.  What is finished then is closed, because any include that leaves it would have lowered
the number that its first fragment leads back to.
-/

namespace SqlMapper

namespace Mapper

variable {mapper : Mapper} {id target : String}

/-- Whether the first declaration of a fragment includes a declared fragment. -/
def Refers (mapper : Mapper) (id target : String) : Prop :=
  (∃ fragment, mapper.fragment? id = some fragment ∧ fragment.root.RefersTo target) ∧
    ∃ fragment, mapper.fragment? target = some fragment

/-- Whether a fragment includes another directly or through others, or is the same. -/
def LeadsTo (mapper : Mapper) : String → String → Prop :=
  Relation.ReflTransGen mapper.Refers

/-- Whether two fragments lead to each other. -/
def SameComponent (mapper : Mapper) (id other : String) : Prop :=
  mapper.LeadsTo id other ∧ mapper.LeadsTo other id

/-- Whether a list has all fragments of a component, each once. -/
structure IsComponent (mapper : Mapper) (component : List String) : Prop where
  nonempty : component ≠ []
  nodup : component.Nodup
  complete : ∀ id ∈ component, ∀ other, other ∈ component ↔ mapper.SameComponent id other

theorem Refers.declared (refers : mapper.Refers id target) : id ∈ mapper.fragmentIds := by
  rcases refers.1 with ⟨fragment, found, _⟩
  exact mem_fragmentIds_iff_declared.2 ⟨fragment, found⟩

theorem mem_includes : target ∈ mapper.includes id ↔ mapper.Refers id target := by
  unfold includes Refers
  rw [← mem_fragmentIds_iff_declared]
  cases mapper.fragment? id with
  | none => simp
  | some fragment => simp [List.mem_eraseDups, Node.mem_references]

theorem SameComponent.symm {other : String} (same : mapper.SameComponent id other) :
    mapper.SameComponent other id :=
  ⟨same.2, same.1⟩

theorem SameComponent.trans {other third : String} (first : mapper.SameComponent id other)
    (second : mapper.SameComponent other third) : mapper.SameComponent id third :=
  ⟨first.1.trans second.1, second.2.trans first.2⟩

end Mapper

namespace ComponentSearch

variable {mapper : Mapper} {trail targets : List String} {earlier search later : ComponentSearch}
  {id other source : String}

theorem index_meet_self : (search.meet id).index id = search.next := by
  simp [index, meet]

theorem index_meet_of_ne (different : other ≠ id) :
    (search.meet id).index other = search.index other := by
  have unequal : (other == id) = false := by simpa using different
  simp [index, meet, List.lookup_cons, unequal]

theorem lowlink_meet_self : (search.meet id).lowlink id = search.next := by
  simp [lowlink, meet]

theorem lowlink_meet_of_ne (different : other ≠ id) :
    (search.meet id).lowlink other = search.lowlink other := by
  have unequal : (other == id) = false := by simpa using different
  simp [lowlink, meet, List.lookup_cons, unequal]

theorem lowlink_lower_self {candidate : Nat} :
    (search.lower id candidate).lowlink id = min (search.lowlink id) candidate := by
  simp [lowlink, lower]

theorem lowlink_lower_of_ne {candidate : Nat} (different : other ≠ id) :
    (search.lower id candidate).lowlink other = search.lowlink other := by
  have unequal : (other == id) = false := by simpa using different
  simp [lowlink, lower, List.lookup_cons, unequal]

theorem popThrough_append {above below : List String} (absent : id ∉ above) :
    popThrough id (above ++ id :: below) = (above ++ [id], below) := by
  induction above with
  | nil => simp [popThrough]
  | cons top rest ih =>
      rw [List.mem_cons, not_or] at absent
      rcases absent with ⟨different, absentRest⟩
      simp [popThrough, Ne.symm different, ih absentRest]

/-- What holds between two visits, while the fragments of a trail are being visited. -/
structure Invariant (mapper : Mapper) (trail : List String) (search : ComponentSearch) : Prop where
  index_lt : ∀ id ∈ search.visited, search.index id < search.next
  stack_visited : search.stack ⊆ search.visited
  stack_sorted :
    search.stack.Pairwise fun newer older => search.index older < search.index newer
  trail_stacked : trail.Sublist search.stack
  closed : ∀ id ∈ search.visited, id ∉ trail → ∀ target, mapper.Refers id target →
    target ∈ search.visited
  back : ∀ id ∈ search.stack, ∃ origin ∈ trail,
    search.index origin ≤ search.index id ∧ mapper.LeadsTo id origin
  forth : ∀ origin ∈ trail, ∀ id ∈ search.stack, search.index origin ≤ search.index id →
    mapper.LeadsTo origin id
  complete : ∀ component ∈ search.components, mapper.IsComponent component
  covered : ∀ id, id ∈ search.visited ↔
    id ∈ search.stack ∨ ∃ component ∈ search.components, id ∈ component
  apart : ∀ component ∈ search.components, ∀ id ∈ component, id ∉ search.stack
  disjoint : search.components.Pairwise List.Disjoint

/-- Whether a later state has only added to an earlier one. -/
structure Extends (earlier later : ComponentSearch) : Prop where
  visited : earlier.visited ⊆ later.visited
  index : ∀ id ∈ earlier.visited, later.index id = earlier.index id
  next_le : earlier.next ≤ later.next
  fresh_index : ∀ id ∈ later.visited, id ∉ earlier.visited → earlier.next ≤ later.index id
  stack : ∃ above, later.stack = above ++ earlier.stack ∧ ∀ id ∈ above, id ∉ earlier.visited

namespace Extends

theorem refl (search : ComponentSearch) : Extends search search :=
  ⟨List.Subset.refl _, fun _ _ => rfl, Nat.le_refl _, fun _ known fresh => absurd known fresh,
    [], rfl, List.forall_mem_nil _⟩

theorem trans (first : Extends earlier search) (second : Extends search later) :
    Extends earlier later := by
  refine ⟨List.Subset.trans first.visited second.visited, ?_,
    Nat.le_trans first.next_le second.next_le, ?_, ?_⟩
  · intro id known
    rw [second.index id (first.visited known), first.index id known]
  · intro id known fresh
    by_cases between : id ∈ search.visited
    · rw [second.index id between]
      exact first.fresh_index id between fresh
    · exact Nat.le_trans first.next_le (second.fresh_index id known between)
  · rcases first.stack with ⟨above, stacked, fresh⟩
    rcases second.stack with ⟨more, stackedMore, freshMore⟩
    refine ⟨more ++ above, by rw [stackedMore, stacked, List.append_assoc], ?_⟩
    intro id member
    rcases List.mem_append.1 member with top | lower
    · exact fun known => freshMore id top (first.visited known)
    · exact fresh id lower

theorem stack_subset (grown : Extends earlier later) : earlier.stack ⊆ later.stack := by
  rcases grown.stack with ⟨above, stacked, _⟩
  rw [stacked]
  exact List.subset_append_right _ _

theorem mem_stack (grown : Extends earlier later) (known : id ∈ earlier.visited)
    (member : id ∈ later.stack) : id ∈ earlier.stack := by
  rcases grown.stack with ⟨above, stacked, fresh⟩
  rw [stacked, List.mem_append] at member
  rcases member with top | old
  · exact absurd known (fresh id top)
  · exact old

end Extends

/-- What has become known of a fragment whose includes are being followed: what its lowest number
stands for, and that nothing leads lower but what is still to be followed. -/
structure Scanning (mapper : Mapper) (source : String) (targets : List String)
    (search : ComponentSearch) : Prop where
  low_le : search.lowlink source ≤ search.index source
  attained : ∃ id ∈ search.stack,
    mapper.LeadsTo source id ∧ search.index id = search.lowlink source
  low_le_above : ∀ id ∈ search.stack, search.index source < search.index id →
    ∀ target ∈ search.stack, search.index target < search.index source → mapper.Refers id target →
      search.lowlink source ≤ search.index target
  examined : ∀ target, mapper.Refers source target → target ∈ targets ∨
    target ∈ search.visited ∧ (target ∈ search.stack → search.lowlink source ≤ search.index target)

/-- What a complete visit of a fragment leaves behind. -/
structure Connected (mapper : Mapper) (trail : List String) (id : String)
    (earlier later : ComponentSearch) : Prop where
  invariant : Invariant mapper trail later
  grown : Extends earlier later
  met : id ∈ later.visited
  lowlink : ∀ other ∈ earlier.visited, later.lowlink other = earlier.lowlink other
  attained : later.lowlink id = later.index id ∨
    ∃ other ∈ later.stack, mapper.LeadsTo id other ∧ later.index other = later.lowlink id
  low_le : ∀ other ∈ later.stack, other ∉ earlier.visited → ∀ target ∈ earlier.stack,
    mapper.Refers other target → later.lowlink id ≤ later.index target

/-- What following the includes of a fragment leaves behind. -/
structure Scanned (mapper : Mapper) (trail : List String) (source : String)
    (earlier later : ComponentSearch) : Prop where
  invariant : Invariant mapper trail later
  scanning : Scanning mapper source [] later
  grown : Extends earlier later
  lowlink : ∀ other ∈ earlier.visited, other ≠ source →
    later.lowlink other = earlier.lowlink other

theorem Invariant.lower (invariant : Invariant mapper trail search) (candidate : Nat) :
    Invariant mapper trail (search.lower source candidate) :=
  ⟨invariant.index_lt, invariant.stack_visited, invariant.stack_sorted, invariant.trail_stacked,
    invariant.closed, invariant.back, invariant.forth, invariant.complete, invariant.covered,
    invariant.apart, invariant.disjoint⟩

theorem Invariant.stack_nodup (invariant : Invariant mapper trail search) : search.stack.Nodup := by
  apply invariant.stack_sorted.imp
  rintro newer older less rfl
  exact Nat.lt_irrefl _ less

/-- The whole trail leads to what its newest fragment includes. -/
theorem Invariant.leadsTo_of_refers (invariant : Invariant mapper (source :: trail) search)
    (refers : mapper.Refers source id) :
    ∀ origin ∈ source :: trail, mapper.LeadsTo origin id := by
  intro origin onTrail
  have stacked := invariant.trail_stacked.subset List.mem_cons_self
  have sorted := invariant.stack_sorted.sublist invariant.trail_stacked
  refine .tail ?_ refers
  rcases List.mem_cons.1 onTrail with rfl | older
  · exact .refl
  · have less := (List.pairwise_cons.1 sorted).1 origin older
    exact invariant.forth origin onTrail source stacked (Nat.le_of_lt less)

theorem Invariant.index_meet (invariant : Invariant mapper trail search)
    (fresh : id ∉ search.visited) (known : other ∈ search.visited) :
    (search.meet id).index other = search.index other ∧
      (search.meet id).index other < search.next := by
  have different : other ≠ id := fun same => fresh (same ▸ known)
  rw [index_meet_of_ne different]
  exact ⟨rfl, invariant.index_lt other known⟩

theorem Invariant.extends_meet (invariant : Invariant mapper trail search)
    (fresh : id ∉ search.visited) : Extends search (search.meet id) := by
  refine ⟨List.subset_cons_self _ _, ?_, Nat.le_succ _, ?_, [id], rfl, by simpa using fresh⟩
  · intro other known
    exact (invariant.index_meet fresh known).1
  · intro other known unknown
    rcases List.mem_cons.1 known with rfl | old
    · exact Nat.le_of_eq index_meet_self.symm
    · exact absurd old unknown

/-! What an invariant says of the stack is said of numbers that no later state changes. -/

theorem Invariant.index_later (invariant : Invariant mapper trail search)
    (grown : Extends search later) (member : id ∈ search.stack) :
    later.index id = search.index id :=
  grown.index id (invariant.stack_visited member)

theorem Invariant.stack_sorted_later (invariant : Invariant mapper trail search)
    (grown : Extends search later) :
    search.stack.Pairwise fun newer older => later.index older < later.index newer := by
  apply invariant.stack_sorted.imp_of_mem
  intro newer older memberNewer memberOlder less
  rw [invariant.index_later grown memberNewer, invariant.index_later grown memberOlder]
  exact less

theorem Invariant.back_later (invariant : Invariant mapper trail search)
    (grown : Extends search later) (member : id ∈ search.stack) :
    ∃ origin ∈ trail, later.index origin ≤ later.index id ∧ mapper.LeadsTo id origin := by
  rcases invariant.back id member with ⟨origin, onTrail, less, leads⟩
  refine ⟨origin, onTrail, ?_, leads⟩
  rw [invariant.index_later grown member,
    invariant.index_later grown (invariant.trail_stacked.subset onTrail)]
  exact less

theorem Invariant.forth_later (invariant : Invariant mapper trail search)
    (grown : Extends search later) (onTrail : source ∈ trail) (member : id ∈ search.stack)
    (less : later.index source ≤ later.index id) : mapper.LeadsTo source id := by
  rw [invariant.index_later grown member,
    invariant.index_later grown (invariant.trail_stacked.subset onTrail)] at less
  exact invariant.forth source onTrail id member less

/-- Meeting a fragment that the whole trail leads to makes the trail longer. -/
theorem Invariant.meet (invariant : Invariant mapper trail search) (fresh : id ∉ search.visited)
    (reached : ∀ origin ∈ trail, mapper.LeadsTo origin id) :
    Invariant mapper (id :: trail) (search.meet id) := by
  have grown := invariant.extends_meet fresh
  have below {other : String} (member : other ∈ search.stack) :=
    (invariant.index_meet fresh (invariant.stack_visited member)).2
  refine
    { index_lt := ?_, stack_visited := ?_, stack_sorted := ?_, trail_stacked := ?_, closed := ?_
      back := ?_, forth := ?_, complete := invariant.complete, covered := ?_, apart := ?_
      disjoint := invariant.disjoint }
  · intro other known
    rcases List.mem_cons.1 known with rfl | old
    · rw [index_meet_self]
      exact Nat.lt_succ_self _
    · exact Nat.lt_succ_of_lt (invariant.index_meet fresh old).2
  · exact List.cons_subset_cons id invariant.stack_visited
  · refine List.pairwise_cons.2 ⟨?_, invariant.stack_sorted_later grown⟩
    intro other member
    rw [index_meet_self]
    exact below member
  · exact invariant.trail_stacked.cons_cons id
  · intro other known outside target refers
    rw [List.mem_cons, not_or] at outside
    rcases List.mem_cons.1 known with same | old
    · exact absurd same outside.1
    · exact List.mem_cons_of_mem _ (invariant.closed other old outside.2 target refers)
  · intro other member
    rcases List.mem_cons.1 member with rfl | old
    · exact ⟨other, List.mem_cons_self, Nat.le_refl _, .refl⟩
    · rcases invariant.back_later grown old with ⟨origin, onTrail, less, leads⟩
      exact ⟨origin, List.mem_cons_of_mem _ onTrail, less, leads⟩
  · intro origin onTrail other member less
    rcases List.mem_cons.1 onTrail with rfl | oldOrigin <;>
      rcases List.mem_cons.1 member with rfl | old
    · exact .refl
    · rw [index_meet_self] at less
      exact absurd less (Nat.not_le.2 (below old))
    · exact reached origin oldOrigin
    · exact invariant.forth_later grown oldOrigin old less
  · intro other
    rw [visited_meet, List.mem_cons, invariant.covered other]
    simp only [ComponentSearch.meet, List.mem_cons, or_assoc]
  · intro component member other inside
    have known := (invariant.covered other).2 (.inr ⟨component, member, inside⟩)
    simp only [ComponentSearch.meet, List.mem_cons, not_or]
    exact ⟨fun same => fresh (same ▸ known), invariant.apart component member other inside⟩

theorem Invariant.scanning_meet (invariant : Invariant mapper trail search)
    (fresh : id ∉ search.visited) :
    Scanning mapper id (mapper.includes id) (search.meet id) := by
  have equal : (search.meet id).lowlink id = (search.meet id).index id := by
    rw [lowlink_meet_self, index_meet_self]
  refine ⟨Nat.le_of_eq equal, ⟨id, List.mem_cons_self, .refl, equal.symm⟩, ?_, ?_⟩
  · intro other member above
    rw [index_meet_self] at above
    rcases List.mem_cons.1 member with rfl | old
    · rw [index_meet_self] at above
      omega
    · have := (invariant.index_meet fresh (invariant.stack_visited old)).2
      omega
  · intro target refers
    exact .inl (Mapper.mem_includes.2 refers)

theorem Extends.lower (grown : Extends earlier later) (candidate : Nat) :
    Extends earlier (later.lower source candidate) :=
  ⟨grown.visited, grown.index, grown.next_le, grown.fresh_index, grown.stack⟩

/-- One more include has been followed.  The lowest number may have become lower meanwhile, and has
done so if something new on the stack leads lower. -/
theorem Scanning.advance (scanning : Scanning mapper source (id :: targets) search)
    (invariant : Invariant mapper trail search) (invariantLater : Invariant mapper trail later)
    (stacked : source ∈ search.stack) (grown : Extends search later)
    (low_le : later.lowlink source ≤ search.lowlink source)
    (attained : later.lowlink source = search.lowlink source ∨
      ∃ other ∈ later.stack,
        mapper.LeadsTo source other ∧ later.index other = later.lowlink source)
    (met : id ∈ later.visited)
    (low_le_met : id ∈ later.stack → later.lowlink source ≤ later.index id)
    (low_le_fresh : ∀ other ∈ later.stack, other ∉ search.visited →
      ∀ target ∈ search.stack, mapper.Refers other target →
        later.lowlink source ≤ later.index target) :
    Scanning mapper source targets later := by
  have known {other : String} (member : other ∈ search.stack) :=
    grown.index other (invariant.stack_visited member)
  have indexSource := known stacked
  have sourceBound := invariant.index_lt source (invariant.stack_visited stacked)
  refine ⟨?_, ?_, ?_, ?_⟩
  · rw [indexSource]
    exact Nat.le_trans low_le scanning.low_le
  · rcases attained with same | lower
    · rcases scanning.attained with ⟨other, member, leads, equal⟩
      refine ⟨other, grown.stack_subset member, leads, ?_⟩
      rw [known member, equal, same]
    · exact lower
  · intro other member above target memberTarget below refers
    have oldTarget : target ∈ search.stack := by
      by_cases old : target ∈ search.visited
      · exact grown.mem_stack old memberTarget
      · have visited := invariantLater.stack_visited memberTarget
        have := grown.fresh_index target visited old
        omega
    by_cases old : other ∈ search.visited
    · have oldOther := grown.mem_stack old member
      rw [known oldTarget]
      rw [known oldOther, indexSource] at above
      rw [known oldTarget, indexSource] at below
      have := scanning.low_le_above other oldOther above target oldTarget below refers
      exact Nat.le_trans low_le this
    · exact low_le_fresh other member old target oldTarget refers
  · intro target refers
    rcases scanning.examined target refers with pending | ⟨visited, bounded⟩
    · rcases List.mem_cons.1 pending with rfl | rest
      · exact .inr ⟨met, low_le_met⟩
      · exact .inl rest
    · refine .inr ⟨grown.visited visited, ?_⟩
      intro member
      have old := grown.mem_stack visited member
      rw [known old]
      exact Nat.le_trans low_le (bounded old)

theorem Scanning.advance_fresh
    (scanning : Scanning mapper source (id :: targets) search)
    (invariant : Invariant mapper trail search) (stacked : source ∈ search.stack)
    (fresh : id ∉ search.visited) (refers : mapper.Refers source id)
    (connected : Connected mapper trail id search later) :
    Scanning mapper source targets (later.lower source (later.lowlink id)) := by
  have visitedSource := invariant.stack_visited stacked
  have sameLow := connected.lowlink source visitedSource
  have bound := invariant.index_lt source visitedSource
  have newIndex := connected.grown.fresh_index id connected.met fresh
  have lowSource := scanning.low_le
  have lowest : (later.lower source (later.lowlink id)).lowlink source =
      min (search.lowlink source) (later.lowlink id) := by
    rw [lowlink_lower_self, sameLow]
  apply scanning.advance invariant (connected.invariant.lower _) stacked (connected.grown.lower _)
  · rw [lowest]
    exact Nat.min_le_left _ _
  · rw [lowest]
    by_cases lower : later.lowlink id < search.lowlink source
    · right
      rcases connected.attained with same | ⟨other, member, leads, equal⟩
      · omega
      · refine ⟨other, member, .head refers leads, ?_⟩
        rw [Nat.min_eq_right (Nat.le_of_lt lower)]
        exact equal
    · left
      exact Nat.min_eq_left (Nat.le_of_not_lt lower)
  · exact connected.met
  · intro _
    rw [lowest]
    change _ ≤ later.index id
    omega
  · intro other member new target oldTarget refersTarget
    rw [lowest]
    exact Nat.le_trans (Nat.min_le_right _ _)
      (connected.low_le other member new target oldTarget refersTarget)

theorem Scanning.advance_stacked (scanning : Scanning mapper source (id :: targets) search)
    (invariant : Invariant mapper trail search) (stacked : source ∈ search.stack)
    (member : id ∈ search.stack) (refers : mapper.Refers source id) :
    Scanning mapper source targets (search.lower source (search.index id)) := by
  apply scanning.advance invariant (invariant.lower _) stacked ((Extends.refl search).lower _)
  · rw [lowlink_lower_self]
    exact Nat.min_le_left _ _
  · rw [lowlink_lower_self]
    by_cases lower : search.index id < search.lowlink source
    · right
      refine ⟨id, member, .single refers, ?_⟩
      rw [Nat.min_eq_right (Nat.le_of_lt lower)]
      rfl
    · left
      exact Nat.min_eq_left (Nat.le_of_not_lt lower)
  · exact invariant.stack_visited member
  · intro _
    rw [lowlink_lower_self]
    exact Nat.min_le_right _ _
  · intro other old new
    exact absurd (invariant.stack_visited old) new

theorem Scanning.advance_finished (scanning : Scanning mapper source (id :: targets) search)
    (invariant : Invariant mapper trail search) (stacked : source ∈ search.stack)
    (visited : id ∈ search.visited) (unstacked : id ∉ search.stack) :
    Scanning mapper source targets search := by
  apply scanning.advance invariant invariant stacked (Extends.refl search) (Nat.le_refl _)
    (.inl rfl) visited
  · intro member
    exact absurd member unstacked
  · intro other old new
    exact absurd (invariant.stack_visited old) new

section Finish

variable {above : List String}

theorem Scanned.index_below (scanned : Scanned mapper (id :: trail) id (search.meet id) later)
    (stacked : later.stack = above ++ id :: search.stack) (member : other ∈ search.stack) :
    later.index other < later.index id := by
  have sorted := scanned.invariant.stack_sorted
  rw [stacked, List.pairwise_append, List.pairwise_cons] at sorted
  exact sorted.2.1.1 other member

theorem Scanned.index_popped (scanned : Scanned mapper (id :: trail) id (search.meet id) later)
    (stacked : later.stack = above ++ id :: search.stack) (member : other ∈ above ++ [id]) :
    later.index id ≤ later.index other := by
  have sorted := scanned.invariant.stack_sorted
  rw [stacked, List.pairwise_append] at sorted
  rcases List.mem_append.1 member with top | last
  · exact Nat.le_of_lt (sorted.2.2 other top id List.mem_cons_self)
  · exact Nat.le_of_eq (congrArg later.index (List.mem_singleton.1 last).symm)

theorem Scanned.mem_stack_iff (stacked : later.stack = above ++ id :: search.stack) :
    other ∈ later.stack ↔ other ∈ above ++ [id] ∨ other ∈ search.stack := by
  rw [stacked]
  simp only [List.mem_append, List.mem_cons, List.not_mem_nil, or_false, or_assoc]

/-- All that is popped with a fragment belongs to its component. -/
theorem Scanned.sameComponent (scanned : Scanned mapper (id :: trail) id (search.meet id) later)
    (invariant : Invariant mapper trail search)
    (stacked : later.stack = above ++ id :: search.stack) (member : other ∈ above ++ [id]) :
    mapper.SameComponent id other := by
  have inStack := (Scanned.mem_stack_iff stacked).2 (.inl member)
  have idInStack : id ∈ later.stack := by simp [stacked]
  constructor
  · exact scanned.invariant.forth id List.mem_cons_self other inStack
      (scanned.index_popped stacked member)
  · rcases scanned.invariant.back other inStack with ⟨origin, onTrail, _, leads⟩
    rcases List.mem_cons.1 onTrail with rfl | older
    · exact leads
    · have less := scanned.index_below stacked (invariant.trail_stacked.subset older)
      exact leads.trans
        (scanned.invariant.forth origin onTrail id idInStack (Nat.le_of_lt less))

/-- All includes of the fragment itself have been followed. -/
theorem Scanned.met_of_refers (scanned : Scanned mapper trail source search later) {target : String}
    (refers : mapper.Refers source target) :
    target ∈ later.visited ∧
      (target ∈ later.stack → later.lowlink source ≤ later.index target) := by
  rcases scanned.scanning.examined target refers with pending | met
  · cases pending
  · exact met

/-- Without the fragment on the trail there is one more whose includes are all met. -/
theorem Scanned.closed (scanned : Scanned mapper (id :: trail) id search later)
    (known : other ∈ later.visited) (outside : other ∉ trail) {target : String}
    (refers : mapper.Refers other target) : target ∈ later.visited := by
  by_cases same : other = id
  · rw [same] at refers
    exact (scanned.met_of_refers refers).1
  · exact scanned.invariant.closed other known (by simp [same, outside]) target refers

/-- If a fragment leads back no further than to itself, then no include leaves what is popped with
it except into components that are complete. -/
theorem Scanned.refers_within (scanned : Scanned mapper (id :: trail) id (search.meet id) later)
    (invariant : Invariant mapper trail search)
    (stacked : later.stack = above ++ id :: search.stack)
    (root : later.lowlink id = later.index id) (member : other ∈ above ++ [id]) {target : String}
    (refers : mapper.Refers other target) :
    target ∈ above ++ [id] ∨ ∃ component ∈ later.components, target ∈ component := by
  have bounded : target ∈ later.visited ∧
      (target ∈ search.stack → later.lowlink id ≤ later.index target) := by
    rcases List.mem_append.1 member with top | last
    · have inStack := (Scanned.mem_stack_iff stacked).2 (.inl member)
      have sorted := scanned.invariant.stack_sorted
      rw [stacked, List.pairwise_append] at sorted
      have higher := sorted.2.2 other top
      have outside : other ∉ id :: trail := by
        intro onTrail
        have below : other ∈ id :: search.stack :=
          List.cons_subset_cons id invariant.trail_stacked.subset onTrail
        exact Nat.lt_irrefl _ (higher other below)
      refine ⟨?_, ?_⟩
      · exact scanned.invariant.closed other (scanned.invariant.stack_visited inStack) outside
          target refers
      · intro below
        exact scanned.scanning.low_le_above other inStack (higher id List.mem_cons_self) target
          ((Scanned.mem_stack_iff stacked).2 (.inr below)) (scanned.index_below stacked below)
          refers
    · rw [List.mem_singleton.1 last] at refers
      rcases scanned.met_of_refers refers with ⟨visited, low⟩
      exact ⟨visited, fun below => low ((Scanned.mem_stack_iff stacked).2 (.inr below))⟩
  rcases (scanned.invariant.covered target).1 bounded.1 with waiting | finished
  · rcases (Scanned.mem_stack_iff stacked).1 waiting with popped | below
    · exact .inl popped
    · have low := bounded.2 below
      have less := scanned.index_below stacked below
      omega
  · exact .inr finished

theorem Scanned.isComponent (scanned : Scanned mapper (id :: trail) id (search.meet id) later)
    (invariant : Invariant mapper trail search)
    (stacked : later.stack = above ++ id :: search.stack)
    (root : later.lowlink id = later.index id) : mapper.IsComponent (above ++ [id]) := by
  have idInStack : id ∈ later.stack := by simp [stacked]
  have reached : ∀ other, mapper.LeadsTo id other → mapper.LeadsTo other id →
      other ∈ above ++ [id] := by
    intro other leads
    induction leads with
    | refl => simp
    | @tail middle other _ refers ih =>
        intro back
        have member := ih (.head refers back)
        rcases scanned.refers_within invariant stacked root member refers
          with inside | ⟨component, finished, inside⟩
        · exact inside
        · -- A complete component would hold the fragment too, but that is still on the stack.
          have same := (scanned.sameComponent invariant stacked member).1
          have complete := scanned.invariant.complete component finished
          have idInside : id ∈ component :=
            (complete.complete other inside id).2 ⟨back, same.tail refers⟩
          exact absurd idInStack (scanned.invariant.apart component finished id idInside)
  refine ⟨by simp, ?_, ?_⟩
  · have nodup := scanned.invariant.stack_nodup
    rw [stacked, List.append_cons] at nodup
    exact (List.nodup_append.1 nodup).1
  · intro other member third
    have same := scanned.sameComponent invariant stacked member
    constructor
    · intro inside
      exact same.symm.trans (scanned.sameComponent invariant stacked inside)
    · intro joined
      have leads := same.trans joined
      exact reached third leads.1 leads.2

theorem Scanned.lowlink_old (scanned : Scanned mapper (id :: trail) id (search.meet id) later)
    (fresh : id ∉ search.visited) (known : other ∈ search.visited) :
    later.lowlink other = search.lowlink other := by
  have different : other ≠ id := fun same => fresh (same ▸ known)
  rw [scanned.lowlink other (List.mem_cons_of_mem _ known) different, lowlink_meet_of_ne different]

/-- A fragment that leads back to one below it stays on the stack. -/
theorem Scanned.connected_of_waiting
    (scanned : Scanned mapper (id :: trail) id (search.meet id) later)
    (invariant : Invariant mapper trail search) (fresh : id ∉ search.visited)
    (low : later.lowlink id < later.index id) : Connected mapper trail id search later := by
  have grown := (invariant.extends_meet fresh).trans scanned.grown
  have inner := scanned.invariant
  rcases scanned.scanning.attained with ⟨lowest, lowestStacked, leadsLowest, indexLowest⟩
  rcases scanned.grown.stack with ⟨above, stacked, unmet⟩
  have met : id ∈ later.visited := scanned.grown.visited List.mem_cons_self
  refine
    { grown, met, attained := .inr ⟨lowest, lowestStacked, leadsLowest, indexLowest⟩
      lowlink := fun other known => scanned.lowlink_old fresh known
      invariant := { inner with trail_stacked := ?_, closed := ?_, back := ?_, forth := ?_ }
      low_le := ?_ }
  · exact (List.sublist_cons_self id trail).trans inner.trail_stacked
  · intro other known outside target refers
    exact scanned.closed known outside refers
  · intro other member
    rcases inner.back other member with ⟨origin, onTrail, less, leads⟩
    rcases List.mem_cons.1 onTrail with rfl | older
    · -- The fragment leads further back, and so does what leads back to it.
      rcases inner.back lowest lowestStacked
        with ⟨further, onTrailFurther, lessFurther, leadsFurther⟩
      rcases List.mem_cons.1 onTrailFurther with rfl | olderFurther
      · omega
      · refine ⟨further, olderFurther, by omega, ?_⟩
        exact (leads.trans leadsLowest).trans leadsFurther
    · exact ⟨origin, older, less, leads⟩
  · intro origin onTrail
    exact inner.forth origin (List.mem_cons_of_mem _ onTrail)
  · intro other member new target below refers
    have inStack : target ∈ later.stack := grown.stack_subset below
    by_cases same : other = id
    · rw [same] at refers
      exact (scanned.met_of_refers refers).2 inStack
    · have top : other ∈ above := by
        rw [stacked, List.mem_append] at member
        rcases member with top | bottom
        · exact top
        · rcases List.mem_cons.1 bottom with equal | old
          · exact absurd equal same
          · exact absurd (invariant.stack_visited old) new
      have sorted := inner.stack_sorted
      rw [stacked, List.pairwise_append] at sorted
      exact scanned.scanning.low_le_above other member (sorted.2.2 other top id List.mem_cons_self)
        target inStack (scanned.index_below stacked below) refers

/-! What is popped off the stack is one more component. -/

section Pop

variable {popped below : List String}

theorem Extends.pop (grown : Extends earlier later) (components : List (List String)) :
    Extends earlier { later with stack := earlier.stack, components := components } :=
  ⟨grown.visited, grown.index, grown.next_le, grown.fresh_index, [], rfl, List.forall_mem_nil _⟩

theorem Invariant.covered_pop (invariant : Invariant mapper trail later)
    (stacked : later.stack = popped ++ below) : other ∈ later.visited ↔
      other ∈ below ∨ ∃ component ∈ later.components ++ [popped], other ∈ component := by
  rw [invariant.covered other, stacked]
  simp only [List.mem_append, List.mem_singleton, or_and_right, exists_or, exists_eq_left]
  grind

theorem Invariant.apart_pop (invariant : Invariant mapper trail later)
    (stacked : later.stack = popped ++ below) :
    ∀ component ∈ later.components ++ [popped], ∀ id ∈ component, id ∉ below := by
  have nodup := invariant.stack_nodup
  rw [stacked] at nodup
  refine List.forall_mem_append.2 ⟨?_, List.forall_mem_singleton.2 ?_⟩
  · intro component finished id inside underneath
    refine invariant.apart component finished id inside ?_
    rw [stacked]
    exact List.mem_append_right _ underneath
  · intro id inside
    exact List.disjoint_of_nodup_append nodup inside

theorem Invariant.disjoint_pop (invariant : Invariant mapper trail later)
    (stacked : later.stack = popped ++ below) :
    (later.components ++ [popped]).Pairwise List.Disjoint := by
  refine List.pairwise_append.2 ⟨invariant.disjoint, List.pairwise_singleton _ _, ?_⟩
  intro component finished new single id inside insideNew
  rw [List.mem_singleton.1 single] at insideNew
  refine invariant.apart component finished id inside ?_
  rw [stacked]
  exact List.mem_append_left _ insideNew

end Pop

/-- A fragment that leads back no further than to itself is popped with its component. -/
theorem Scanned.connected_of_root
    (scanned : Scanned mapper (id :: trail) id (search.meet id) later)
    (invariant : Invariant mapper trail search) (fresh : id ∉ search.visited)
    (stacked : later.stack = above ++ id :: search.stack)
    (root : later.lowlink id = later.index id) :
    Connected mapper trail id search
      { later with stack := search.stack, components := later.components ++ [above ++ [id]] } := by
  have grown := ((invariant.extends_meet fresh).trans scanned.grown).pop
    (later.components ++ [above ++ [id]])
  have inner := scanned.invariant
  have met : id ∈ later.visited := scanned.grown.visited List.mem_cons_self
  have component := scanned.isComponent invariant stacked root
  have apart : later.stack = (above ++ [id]) ++ search.stack := by
    rw [stacked, List.append_cons]
  exact
    { grown, met, attained := .inl root
      lowlink := fun other old => scanned.lowlink_old fresh old
      low_le := fun other member new => absurd (invariant.stack_visited member) new
      invariant :=
        { index_lt := inner.index_lt, trail_stacked := invariant.trail_stacked
          stack_visited := fun _ member => grown.visited (invariant.stack_visited member)
          stack_sorted := invariant.stack_sorted_later grown
          closed := fun _ visited outside _ refers => scanned.closed visited outside refers
          back := fun _ member => invariant.back_later grown member
          forth := fun _ onTrail _ member less => invariant.forth_later grown onTrail member less
          complete := List.forall_mem_append.2
            ⟨inner.complete, List.forall_mem_singleton.2 component⟩
          covered := fun _ => inner.covered_pop apart
          apart := inner.apart_pop apart
          disjoint := inner.disjoint_pop apart } }

theorem Scanned.connected (scanned : Scanned mapper (id :: trail) id (search.meet id) later)
    (invariant : Invariant mapper trail search) (fresh : id ∉ search.visited) :
    Connected mapper trail id search (later.finish id) := by
  rcases scanned.grown.stack with ⟨above, stacked, unmet⟩
  have absent : id ∉ above := fun member => unmet id member List.mem_cons_self
  have low := scanned.scanning.low_le
  unfold finish
  split
  · rename_i root
    have stacked : later.stack = above ++ id :: search.stack := stacked
    rw [stacked, popThrough_append absent]
    exact scanned.connected_of_root invariant fresh stacked root
  · rename_i different
    exact scanned.connected_of_waiting invariant fresh (by omega)

end Finish

/-- Lowering the number of the fragment whose includes are followed counts as following them. -/
theorem Scanned.of_lower {candidate : Nat}
    (scanned : Scanned mapper trail source (search.lower source candidate) later) :
    Scanned mapper trail source search later := by
  have grown : Extends search (search.lower source candidate) :=
    (Extends.refl search).lower candidate
  refine ⟨scanned.invariant, scanned.scanning, grown.trans scanned.grown, ?_⟩
  intro other known different
  rw [scanned.lowlink other known different, lowlink_lower_of_ne different]

theorem Scanned.after_connected (scanned : Scanned mapper trail source search later)
    (connected : Connected mapper trail id earlier search) :
    Scanned mapper trail source earlier later := by
  refine ⟨scanned.invariant, scanned.scanning, connected.grown.trans scanned.grown, ?_⟩
  intro other known different
  rw [scanned.lowlink other (connected.grown.visited known) different,
    connected.lowlink other known]

end ComponentSearch

namespace Mapper

open ComponentSearch

variable {mapper : Mapper}

-- Both functions recurse into each other, so both statements are proved by one induction on their
-- measure.  A visit needs that the whole trail leads to its fragment, which the scan provides.
mutual

theorem connected_connect {trail : List String} {search : ComponentSearch} (id : String)
    (declared : id ∈ mapper.fragmentIds) (fresh : id ∉ search.visited)
    (invariant : Invariant mapper trail search)
    (reached : ∀ origin ∈ trail, mapper.LeadsTo origin id) :
    Connected mapper trail id search (mapper.connect search id declared fresh).val := by
  have scanned := scanned_scan (mapper.includes id) (mapper.includes_subset id)
    (invariant.meet fresh reached) (invariant.scanning_meet fresh)
    (fun _ member => mem_includes.1 member)
  rw [connect]
  exact scanned.connected invariant fresh
termination_by (mapper.unvisited search.visited, 0)
decreasing_by exact Prod.Lex.left _ _ (unvisited_cons_lt declared fresh)

theorem scanned_scan {trail : List String} {search : ComponentSearch} {source : String} :
    (targets : List String) → (declared : targets ⊆ mapper.fragmentIds) →
    Invariant mapper (source :: trail) search → Scanning mapper source targets search →
    (∀ target ∈ targets, mapper.Refers source target) →
    Scanned mapper (source :: trail) source search
      (mapper.scan source search targets declared).val
  | [], declared, invariant, scanning, _ => by
      rw [scan]
      exact ⟨invariant, scanning, .refl search, fun _ _ _ => rfl⟩
  | target :: rest, declared, invariant, scanning, refers => by
      have stacked := invariant.trail_stacked.subset List.mem_cons_self
      rcases List.forall_mem_cons.1 refers with ⟨refersTarget, refersRest⟩
      rcases List.cons_subset.1 declared with ⟨declaredTarget, declaredRest⟩
      by_cases met : target ∈ search.visited
      · by_cases waiting : target ∈ search.stack
        · have advanced := scanning.advance_stacked invariant stacked waiting refersTarget
          have later := scanned_scan rest declaredRest (invariant.lower _) advanced refersRest
          rw [scan_of_stacked declared met waiting]
          exact later.of_lower
        · have advanced := scanning.advance_finished invariant stacked met waiting
          rw [scan_of_finished declared met waiting]
          exact scanned_scan rest declaredRest invariant advanced refersRest
      · have reached := invariant.leadsTo_of_refers refersTarget
        have connected := connected_connect target declaredTarget met invariant reached
        have advanced := scanning.advance_fresh invariant stacked met refersTarget connected
        have later :=
          scanned_scan rest declaredRest (connected.invariant.lower _) advanced refersRest
        rw [scan_of_fresh declared met]
        exact later.of_lower.after_connected connected
termination_by targets => (mapper.unvisited search.visited, targets.length)
decreasing_by
  · exact Prod.Lex.right _ (Nat.lt_succ_self _)
  · exact Prod.Lex.right _ (Nat.lt_succ_self _)
  · exact Prod.Lex.right _ (Nat.zero_lt_succ _)
  · exact unvisited_lex connected.grown.visited (Nat.lt_succ_self _)

end

theorem invariant_connectAll {search : ComponentSearch} (ids : List String)
    (declared : ids ⊆ mapper.fragmentIds) (invariant : Invariant mapper [] search) :
    Invariant mapper [] (mapper.connectAll search ids declared) ∧
      search.visited ⊆ (mapper.connectAll search ids declared).visited ∧
      ids ⊆ (mapper.connectAll search ids declared).visited := by
  induction ids generalizing search with
  | nil => exact ⟨invariant, List.Subset.refl _, List.nil_subset _⟩
  | cons id rest ih =>
      rcases List.cons_subset.1 declared with ⟨declaredId, declaredRest⟩
      simp only [connectAll]
      split
      · rename_i fresh
        have connected := connected_connect id declaredId fresh invariant (List.forall_mem_nil _)
        rcases ih declaredRest connected.invariant with ⟨later, kept, covered⟩
        exact ⟨later, List.Subset.trans connected.grown.visited kept,
          List.cons_subset.2 ⟨kept connected.met, covered⟩⟩
      · rename_i met
        rcases ih declaredRest invariant with ⟨later, kept, covered⟩
        exact ⟨later, kept, List.cons_subset.2 ⟨kept (not_not.1 met), covered⟩⟩

theorem invariant_start : Invariant mapper [] {} where
  index_lt := List.forall_mem_nil _
  stack_visited := List.nil_subset _
  stack_sorted := .nil
  trail_stacked := .refl _
  closed := List.forall_mem_nil _
  back := List.forall_mem_nil _
  forth := List.forall_mem_nil _
  complete := List.forall_mem_nil _
  covered id := by simp [ComponentSearch.visited]
  apart := List.forall_mem_nil _
  disjoint := .nil

/-- The components that are found are those of the graph, no two of them share a fragment, and every
declared fragment is in one. -/
theorem components_partition (mapper : Mapper) :
    (∀ component ∈ mapper.components, mapper.IsComponent component) ∧
      mapper.components.Pairwise List.Disjoint ∧
      ∀ id ∈ mapper.fragmentIds, ∃ component ∈ mapper.components, id ∈ component := by
  rcases invariant_connectAll mapper.fragmentIds (List.Subset.refl _) invariant_start
    with ⟨invariant, _, visited⟩
  refine ⟨invariant.complete, invariant.disjoint, ?_⟩
  intro id declared
  rcases (invariant.covered id).1 (visited declared) with waiting | found
  · -- With the trail empty nothing waits on the stack.
    rcases invariant.back id waiting with ⟨_, onTrail, _⟩
    cases onTrail
  · exact found

end Mapper

end SqlMapper
