import SqlMapper.Include.Cycle
import SqlMapper.Proofs.Include.Component
import Mathlib.Data.List.Chain

/-!
# Circles are shown once

The search for a way back fails only if the fragments it has visited are closed under includes
inside the component and none of them includes the first one.  In a component with an include inside
it every fragment leads back to the first one, so the search does not fail.
-/

namespace SqlMapper.Mapper

variable {mapper : Mapper} {start id target : String}
  {component visited path targets way : List String}

/-- A way through a component that begins at a fragment and visits none twice, its last fragment
first. -/
structure IsWay (mapper : Mapper) (start : String) (component way : List String) : Prop where
  linked : way.IsChain fun later earlier => mapper.Refers earlier later
  nodup : way.Nodup
  inside : way ⊆ component
  begins : way.getLast? = some start

theorem IsWay.step (isWay : mapper.IsWay start component (id :: path))
    (refers : mapper.Refers id target) (inside : target ∈ component)
    (absent : target ∉ id :: path) : mapper.IsWay start component (target :: id :: path) := by
  refine ⟨List.isChain_cons_cons.2 ⟨refers, isWay.linked⟩, ?_, ?_, ?_⟩
  · exact List.nodup_cons.2 ⟨absent, isWay.nodup⟩
  · exact List.cons_subset.2 ⟨inside, isWay.inside⟩
  · rw [List.getLast?_cons_cons]
    exact isWay.begins

/-- Whether an outcome is right: a way leads back, and what is exhausted has no include that leads
back or out of what has been visited. -/
def WayOutcome.IsRight (mapper : Mapper) (start : String) (component goals : List String) :
    WayOutcome visited → Prop
  | .found way =>
    mapper.IsWay start component way ∧ ∃ last ∈ way.head?, mapper.Refers last start
  | .exhausted later _ =>
    goals ⊆ later ∧ ∀ id ∈ later, id ∉ visited →
      ∀ target ∈ component, mapper.Refers id target → target ≠ start ∧ target ∈ later

namespace WayOutcome

/-- A search that continues after an exhausted one. -/
theorem IsRight.since_exhausted {later : List String} {grown : visited ⊆ later}
    {outcome : WayOutcome later}
    (first : (exhausted later grown).IsRight mapper start component [target])
    (second : outcome.IsRight mapper start component targets) :
    (outcome.since grown).IsRight mapper start component (target :: targets) := by
  cases outcome with
  | found way => exact second
  | exhausted last more =>
      rcases first with ⟨met, closedFirst⟩
      rcases second with ⟨covered, closed⟩
      refine ⟨List.cons_subset.2 ⟨more (met List.mem_cons_self), covered⟩, ?_⟩
      intro id member new next inside refers
      by_cases between : id ∈ later
      · rcases closedFirst id between new next inside refers with ⟨different, visitedNext⟩
        exact ⟨different, more visitedNext⟩
      · exact closed id member between next inside refers

theorem IsRight.cons_visited {outcome : WayOutcome visited} (met : target ∈ visited)
    (right : outcome.IsRight mapper start component targets) :
    outcome.IsRight mapper start component (target :: targets) := by
  cases outcome with
  | found way => exact right
  | exhausted later grown => exact ⟨List.cons_subset.2 ⟨grown met, right.1⟩, right.2⟩

/-- A search through all that a fragment includes inside the component. -/
theorem IsRight.since_visit {outcome : WayOutcome (id :: visited)}
    (all : ∀ next ∈ component, mapper.Refers id next → next ≠ start ∧ next ∈ targets)
    (right : outcome.IsRight mapper start component targets) :
    (outcome.since (List.subset_cons_self id visited)).IsRight mapper start component [id] := by
  cases outcome with
  | found way => exact right
  | exhausted later grown =>
      rcases right with ⟨covered, closed⟩
      refine ⟨List.cons_subset.2 ⟨grown List.mem_cons_self, List.nil_subset _⟩, ?_⟩
      intro other member new next inside refers
      by_cases same : other = id
      · rw [same] at refers
        rcases all next inside refers with ⟨different, target⟩
        exact ⟨different, covered target⟩
      · exact closed other member (by simp [same, new]) next inside refers

end WayOutcome

mutual

theorem isRight_wayFrom {visited path : List String} (id : String)
    (declared : id ∈ mapper.fragmentIds) (fresh : id ∉ visited) (inside : start ∈ component)
    (isWay : mapper.IsWay start component (id :: path)) (known : path ⊆ visited) :
    (mapper.wayFrom start component visited path id declared fresh).IsRight mapper start component
      [id] := by
  have mem_targets (next : String) :
      next ∈ (mapper.includes id).filter (· ∈ component) ↔
        mapper.Refers id next ∧ next ∈ component := by
    rw [List.mem_filter, mem_includes, decide_eq_true_eq]
  rw [wayFrom]
  split
  · rename_i back
    exact ⟨isWay, id, rfl, ((mem_targets start).1 back).1⟩
  · rename_i forward
    apply WayOutcome.IsRight.since_visit
    · intro next insideNext refers
      have member := (mem_targets next).2 ⟨refers, insideNext⟩
      exact ⟨fun same => forward (same ▸ member), member⟩
    · apply isRight_wayThrough _ _ inside
      · intro next member absent
        rcases (mem_targets next).1 member with ⟨refers, insideNext⟩
        exact isWay.step refers insideNext absent
      · exact List.cons_subset_cons id known
termination_by (mapper.unvisited visited, 0)
decreasing_by exact Prod.Lex.left _ _ (unvisited_cons_lt declared fresh)

theorem isRight_wayThrough {visited path : List String} : (targets : List String) →
    (declared : targets ⊆ mapper.fragmentIds) → start ∈ component →
    (∀ target ∈ targets, target ∉ path → mapper.IsWay start component (target :: path)) →
    path ⊆ visited →
    (mapper.wayThrough start component visited path targets declared).IsRight mapper start component
      targets
  | [], declared, inside, ways, known => by
      rw [wayThrough]
      exact ⟨List.nil_subset _, fun _ member new => absurd member new⟩
  | target :: rest, declared, inside, ways, known => by
      rcases List.forall_mem_cons.1 ways with ⟨wayTarget, waysRest⟩
      rcases List.cons_subset.1 declared with ⟨declaredTarget, declaredRest⟩
      by_cases met : target ∈ visited
      · have right := isRight_wayThrough rest declaredRest inside waysRest known
        rw [wayThrough_of_visited declared met]
        exact right.cons_visited met
      · have isWay := wayTarget fun onPath => met (known onPath)
        have first := isRight_wayFrom target declaredTarget met inside isWay known
        cases outcome : mapper.wayFrom start component visited path target declaredTarget met with
        | found way =>
            rw [outcome] at first
            rw [wayThrough_of_found declared met outcome]
            exact first
        | exhausted later grown =>
            rw [outcome] at first
            have right := isRight_wayThrough rest declaredRest inside waysRest
              (List.Subset.trans known grown)
            rw [wayThrough_of_exhausted declared met outcome]
            exact first.since_exhausted right
termination_by targets => (mapper.unvisited visited, targets.length)
decreasing_by
  · exact Prod.Lex.right _ (Nat.lt_succ_self _)
  · exact Prod.Lex.right _ (Nat.zero_lt_succ _)
  · exact unvisited_lex grown (Nat.lt_succ_self _)

end

/-- In a component with an include inside it something includes the first fragment. -/
theorem IsComponent.exists_refers_back (isComponent : mapper.IsComponent component)
    (inside : start ∈ component) {outer inner : String} (memberOuter : outer ∈ component)
    (memberInner : inner ∈ component) (refers : mapper.Refers outer inner) :
    ∃ last ∈ component, mapper.Refers last start := by
  have leadsInner := (isComponent.complete start inside inner).1 memberInner
  rcases Relation.ReflTransGen.cases_tail leadsInner.2 with rfl | ⟨last, leads, back⟩
  · exact ⟨outer, memberOuter, refers⟩
  · refine ⟨last, ?_, back⟩
    rw [isComponent.complete start inside]
    exact ⟨leadsInner.1.trans leads, .single back⟩

/-- What is exhausted from a fragment of a component on is the whole component. -/
theorem IsComponent.subset_of_exhausted (isComponent : mapper.IsComponent component)
    (inside : start ∈ component) {later : List String} {grown : [] ⊆ later}
    (right : (WayOutcome.exhausted later grown).IsRight mapper start component [start]) :
    component ⊆ later := by
  rcases right with ⟨met, closed⟩
  have reached : ∀ id, mapper.LeadsTo start id → mapper.LeadsTo id start → id ∈ later := by
    intro id leads
    induction leads with
    | refl => exact fun _ => met List.mem_cons_self
    | @tail middle id leads refers ih =>
        intro back
        have member := ih (.head refers back)
        have insideId := (isComponent.complete start inside id).2 ⟨leads.tail refers, back⟩
        exact (closed middle member List.not_mem_nil id insideId refers).2
  intro id member
  rcases (isComponent.complete start inside id).1 member with ⟨leads, back⟩
  exact reached id leads back

/-- Whether a chain of includes goes from a fragment through its component and back, visiting no
fragment twice. -/
structure IsRoundTrip (mapper : Mapper) (first : String) (chain : List String) : Prop where
  closed : ∃ way, chain = first :: way ++ [first] ∧ (first :: way).Nodup
  linked : chain.IsChain mapper.Refers
  inside : ∀ id ∈ chain, mapper.SameComponent first id

theorem IsWay.isRoundTrip (isWay : mapper.IsWay start component way)
    (isComponent : mapper.IsComponent component) (inside : start ∈ component) {last : String}
    (ends : last ∈ way.head?) (back : mapper.Refers last start) :
    mapper.IsRoundTrip start (way.reverse ++ [start]) := by
  have begins : way.reverse.head? = some start := by
    rw [List.head?_reverse]
    exact isWay.begins
  refine ⟨?_, ?_, ?_⟩
  · cases reversed : way.reverse with
    | nil =>
        rw [reversed] at begins
        cases begins
    | cons first rest =>
        rw [reversed, List.head?_cons, Option.some.injEq] at begins
        have nodup := List.nodup_reverse.2 isWay.nodup
        rw [reversed, begins] at nodup
        exact ⟨rest, by rw [begins], nodup⟩
  · rw [List.isChain_append, List.isChain_reverse, List.getLast?_reverse]
    refine ⟨isWay.linked, .singleton start, ?_⟩
    intro final isFinal next isNext
    rw [Option.mem_unique isFinal ends]
    rw [List.head?_cons, Option.mem_some_iff] at isNext
    exact isNext ▸ back
  · intro id member
    rw [← isComponent.complete start inside]
    rcases List.mem_append.1 member with onWay | last
    · exact isWay.inside (List.mem_reverse.1 onWay)
    · exact List.mem_singleton.1 last ▸ inside

theorem IsComponent.exists_chainFrom? (isComponent : mapper.IsComponent component)
    (inside : start ∈ component) {outer inner : String} (memberOuter : outer ∈ component)
    (memberInner : inner ∈ component) (refers : mapper.Refers outer inner) :
    ∃ chain, mapper.chainFrom? component start = some chain ∧ mapper.IsRoundTrip start chain := by
  rcases isComponent.exists_refers_back inside memberOuter memberInner refers
    with ⟨last, memberLast, back⟩
  have declared : start ∈ mapper.fragmentIds := mem_fragmentIds_iff_declared.2 back.2
  have alone : mapper.IsWay start component [start] :=
    ⟨.singleton start, List.nodup_singleton start, by simpa using inside, rfl⟩
  have right := isRight_wayFrom start declared List.not_mem_nil inside alone (List.nil_subset [])
  rw [chainFrom?, dif_pos declared]
  cases outcome : mapper.wayFrom start component [] [] start declared List.not_mem_nil with
  | found way =>
      rw [outcome] at right
      rcases right with ⟨isWay, final, ends, leadsBack⟩
      exact ⟨_, rfl, isWay.isRoundTrip isComponent inside ends leadsBack⟩
  | exhausted later grown =>
      rw [outcome] at right
      have met := isComponent.subset_of_exhausted inside right memberLast
      exact absurd rfl (right.2 last met List.not_mem_nil start inside back).1

theorem IsComponent.isCircular_iff (isComponent : mapper.IsComponent component) :
    mapper.isCircular component ↔
      ∃ outer ∈ component, ∃ inner ∈ component, mapper.Refers outer inner := by
  match component with
  | [] => exact absurd rfl isComponent.nonempty
  | [single] => simp [isCircular, mem_includes]
  | first :: second :: rest =>
      refine iff_of_true rfl ⟨first, List.mem_cons_self, ?_⟩
      have same := (isComponent.complete first List.mem_cons_self second).1 (by simp)
      rcases Relation.ReflTransGen.cases_head same.1 with equal | ⟨next, refers, leads⟩
      · have nodup := isComponent.nodup
        simp [equal] at nodup
      · refine ⟨next, ?_, refers⟩
        rw [isComponent.complete first List.mem_cons_self]
        exact ⟨.single refers, leads.trans same.2⟩

/-- The place of the first declaration of a fragment. -/
def declaredAt (mapper : Mapper) (id : String) : Nat :=
  (mapper.fragments.map (·.id)).idxOf id

section Order

variable {α : Type} [BEq α] [LawfulBEq α]

theorem idxOf_filter_lt_iff (list : List α) {keep : α → Bool} {left right : α}
    (keepsLeft : keep left) (keepsRight : keep right) :
    (list.filter keep).idxOf left < (list.filter keep).idxOf right ↔
      list.idxOf left < list.idxOf right := by
  induction list with
  | nil => simp
  | cons first rest ih =>
      rw [List.filter_cons]
      split
      · simp only [List.idxOf_cons]
        cases first == left <;> cases first == right <;> simp [ih]
      · rename_i dropped
        have notLeft : (first == left) = false := by
          rw [beq_eq_false_iff_ne]
          rintro rfl
          exact dropped keepsLeft
        have notRight : (first == right) = false := by
          rw [beq_eq_false_iff_ne]
          rintro rfl
          exact dropped keepsRight
        simp [List.idxOf_cons, notLeft, notRight, ih]

/-- Dropping later occurrences keeps the order of the first ones. -/
theorem idxOf_eraseDups_lt_iff (list : List α) (left right : α) :
    list.eraseDups.idxOf left < list.eraseDups.idxOf right ↔
      list.idxOf left < list.idxOf right := by
  induction sameLength : list.length using Nat.strongRecOn generalizing list with
  | ind length ih =>
      cases list with
      | nil => simp
      | cons first rest =>
          have shorter := List.length_filter_le (fun other => !other == first) rest
          rw [List.length_cons] at sameLength
          have inner := ih _ (by omega) (rest.filter fun other => !other == first) rfl
          simp only [List.eraseDups_cons, List.idxOf_cons]
          cases atLeft : first == left <;> cases atRight : first == right <;> simp
          rw [inner]
          rw [beq_eq_false_iff_ne] at atLeft atRight
          exact idxOf_filter_lt_iff rest (by simpa using Ne.symm atLeft)
            (by simpa using Ne.symm atRight)

end Order

theorem order_lt_iff {left right : String} :
    mapper.order left < mapper.order right ↔ mapper.declaredAt left < mapper.declaredAt right :=
  idxOf_eraseDups_lt_iff _ left right

/-- A closed chain that shows a circle: it begins with the fragment of the component that is
declared first. -/
structure IsCircle (mapper : Mapper) (first : String) (chain : List String) : Prop
    extends mapper.IsRoundTrip first chain where
  earliest : ∀ id, mapper.SameComponent first id → mapper.declaredAt first ≤ mapper.declaredAt id

section Circles

variable {circle : Nat × List String}

theorem circle?_eq_some (found : mapper.circle? component = some circle) :
    ∃ start ∈ component, circle.1 = mapper.order start ∧
      (∀ id ∈ component, mapper.order start ≤ mapper.order id) ∧
      mapper.chainFrom? component start = some circle.2 := by
  simp only [circle?, Option.bind_eq_bind, Option.bind_eq_some_iff, Option.pure_def,
    Option.some.injEq] at found
  rcases found with ⟨start, least, chain, chained, rfl⟩
  refine ⟨start, List.minOn?_mem least, rfl, ?_, chained⟩
  intro id member
  have nonempty := List.ne_nil_of_mem member
  rw [List.minOn?_eq_some_minOn nonempty, Option.some.injEq] at least
  rw [← least]
  exact List.apply_minOn_le_of_mem member

theorem IsComponent.isCircle (isComponent : mapper.IsComponent component)
    (circular : mapper.isCircular component) (found : mapper.circle? component = some circle) :
    ∃ first ∈ component, circle.1 = mapper.order first ∧ mapper.IsCircle first circle.2 := by
  rcases circle?_eq_some found with ⟨first, inside, placed, least, chained⟩
  rcases isComponent.isCircular_iff.1 circular with ⟨outer, memberOuter, inner, memberInner, refers⟩
  rcases isComponent.exists_chainFrom? inside memberOuter memberInner refers
    with ⟨chain, same, isRoundTrip⟩
  rw [chained, Option.some.injEq] at same
  rw [← same] at isRoundTrip
  refine ⟨first, inside, placed, isRoundTrip, ?_⟩
  intro id joined
  have member := (isComponent.complete first inside id).2 joined
  exact Nat.le_of_not_lt fun earlier => Nat.not_lt.2 (least id member) (order_lt_iff.2 earlier)

theorem IsComponent.exists_circle? (isComponent : mapper.IsComponent component)
    (circular : mapper.isCircular component) :
    ∃ circle, mapper.circle? component = some circle := by
  rcases isComponent.isCircular_iff.1 circular with ⟨outer, memberOuter, inner, memberInner, refers⟩
  have inside : component.minOn mapper.order isComponent.nonempty ∈ component := List.minOn_mem
  rcases isComponent.exists_chainFrom? inside memberOuter memberInner refers with ⟨chain, same, _⟩
  refine ⟨(mapper.order (component.minOn mapper.order isComponent.nonempty), chain), ?_⟩
  rw [circle?, List.minOn?_eq_some_minOn isComponent.nonempty]
  simp only [Option.bind_eq_bind, Option.bind_some, same, Option.pure_def]

theorem mem_circles : circle ∈ mapper.circles ↔
    ∃ component ∈ mapper.components,
      mapper.isCircular component ∧ mapper.circle? component = some circle := by
  simp only [circles, List.mem_filterMap, List.mem_filter, and_assoc]

theorem mem_fragmentCycles {chain : List String} :
    chain ∈ mapper.fragmentCycles ↔ ∃ circle ∈ mapper.circles, circle.2 = chain := by
  simp only [fragmentCycles, List.mem_map, List.mem_mergeSort]

/-- A fragment that includes another of its component is in one that a circle is found in. -/
theorem Refers.exists_circle? {outer inner : String} (refers : mapper.Refers outer inner)
    (same : mapper.SameComponent outer inner) :
    ∃ component ∈ mapper.components, outer ∈ component ∧ mapper.isCircular component ∧
      ∃ circle, mapper.circle? component = some circle := by
  rcases components_partition mapper with ⟨complete, _, covered⟩
  rcases covered outer refers.declared with ⟨component, isIn, inside⟩
  have isComponent := complete component isIn
  have insideInner := (isComponent.complete outer inside inner).2 same
  have circular := isComponent.isCircular_iff.2 ⟨outer, inside, inner, insideInner, refers⟩
  exact ⟨component, isIn, inside, circular, isComponent.exists_circle? circular⟩

theorem IsRoundTrip.exists_refers {first : String} {chain : List String}
    (isRoundTrip : mapper.IsRoundTrip first chain) : ∃ target, mapper.Refers first target := by
  rcases isRoundTrip.closed with ⟨way, rfl, _⟩
  have linked := isRoundTrip.linked
  rw [List.cons_append, List.isChain_cons] at linked
  cases way with
  | nil => exact ⟨first, linked.1 first rfl⟩
  | cons next rest => exact ⟨next, linked.1 next rfl⟩

/-- No two circles begin at the same place. -/
theorem circles_pairwise_ne (mapper : Mapper) :
    mapper.circles.Pairwise fun left right => left.1 ≠ right.1 := by
  rcases components_partition mapper with ⟨complete, disjoint, _⟩
  rw [circles, List.pairwise_filterMap]
  apply (disjoint.filter _).imp_of_mem
  intro left right memberLeft memberRight apart circleLeft foundLeft circleRight foundRight same
  rcases List.mem_filter.1 memberLeft with ⟨isLeft, circularLeft⟩
  rcases List.mem_filter.1 memberRight with ⟨isRight, circularRight⟩
  rcases (complete left isLeft).isCircle circularLeft foundLeft
    with ⟨firstLeft, insideLeft, placedLeft, isCircle⟩
  rcases (complete right isRight).isCircle circularRight foundRight
    with ⟨firstRight, insideRight, placedRight, _⟩
  rw [placedLeft, placedRight] at same
  rcases isCircle.exists_refers with ⟨_, refers⟩
  have equal := (List.idxOf_inj refers.declared).1 same
  exact apart insideLeft (equal ▸ insideRight)

theorem isCircle_of_mem_circles (member : circle ∈ mapper.circles) :
    ∃ first, circle.1 = mapper.order first ∧ mapper.IsCircle first circle.2 := by
  rcases mem_circles.1 member with ⟨component, inside, circular, found⟩
  rcases ((components_partition mapper).1 component inside).isCircle circular found
    with ⟨first, _, placed, isCircle⟩
  exact ⟨first, placed, isCircle⟩

theorem IsRoundTrip.head? {first : String} {chain : List String}
    (isRoundTrip : mapper.IsRoundTrip first chain) : chain.head? = some first := by
  rcases isRoundTrip.closed with ⟨way, rfl, _⟩
  rfl

/-- A circle that meets a component is the one found in it. -/
theorem circle?_of_sameComponent (member : circle ∈ mapper.circles)
    (isIn : component ∈ mapper.components) (inside : id ∈ component)
    (met : ∃ other ∈ circle.2, mapper.SameComponent id other) :
    mapper.circle? component = some circle := by
  rcases components_partition mapper with ⟨complete, disjoint, _⟩
  rcases mem_circles.1 member with ⟨own, isOwn, circular, found⟩
  rcases (complete own isOwn).isCircle circular found with ⟨first, insideOwn, _, isCircle⟩
  rcases met with ⟨other, onChain, same⟩
  have insideBoth : id ∈ own := by
    rw [(complete own isOwn).complete first insideOwn]
    exact (isCircle.inside other onChain).trans same.symm
  by_cases equal : own = component
  · rw [← equal]
    exact found
  · have : Std.Symm (@List.Disjoint String) := ⟨fun _ _ => List.disjoint_symm⟩
    exact absurd inside (disjoint.forall isOwn isIn equal insideBoth)

/-- The circles after sorting begin at later and later places. -/
theorem sorted_circles_pairwise_lt (mapper : Mapper) :
    (mapper.circles.mergeSort fun left right => left.1 ≤ right.1).Pairwise
      fun left right => left.1 < right.1 := by
  have sorted : (mapper.circles.mergeSort fun left right => left.1 ≤ right.1).Pairwise
      fun left right => left.1 ≤ right.1 := by
    have ordered := @List.pairwise_mergeSort (Nat × List String)
      (fun left right => left.1 ≤ right.1) (by simp; omega) (by simp; omega) mapper.circles
    simpa using ordered
  have reordered := List.mergeSort_perm mapper.circles fun left right => left.1 ≤ right.1
  have different := (reordered.pairwise_iff fun unequal => Ne.symm unequal).2
    mapper.circles_pairwise_ne
  apply (sorted.and different).imp
  rintro left right ⟨less, unequal⟩
  exact Nat.lt_of_le_of_ne less unequal

end Circles

/-- Each component with an include inside it is shown by exactly one chain and no other is.  A chain
begins with the fragment of its component that is declared first, and the chains stand in the order
in which those fragments are declared. -/
theorem fragmentCycles_exact (mapper : Mapper) :
    (∀ chain ∈ mapper.fragmentCycles, ∃ first, mapper.IsCircle first chain) ∧
      (∀ outer inner, mapper.Refers outer inner → mapper.SameComponent outer inner →
        ∃! chain, chain ∈ mapper.fragmentCycles ∧
          ∃ id ∈ chain, mapper.SameComponent outer id) ∧
      mapper.fragmentCycles.Pairwise fun left right =>
        ∀ first ∈ left.head?, ∀ second ∈ right.head?,
          mapper.declaredAt first < mapper.declaredAt second := by
  rcases components_partition mapper with ⟨complete, _, _⟩
  refine ⟨?_, ?_, ?_⟩
  · intro chain member
    rcases mem_fragmentCycles.1 member with ⟨circle, isCircle, rfl⟩
    rcases isCircle_of_mem_circles isCircle with ⟨first, _, shows⟩
    exact ⟨first, shows⟩
  · intro outer inner refers same
    rcases refers.exists_circle? same with ⟨component, isIn, inside, circular, circle, foundCircle⟩
    have isComponent := complete component isIn
    have member : circle ∈ mapper.circles := mem_circles.2 ⟨component, isIn, circular, foundCircle⟩
    rcases isComponent.isCircle circular foundCircle with ⟨first, insideFirst, _, isCircle⟩
    refine ⟨circle.2, ⟨mem_fragmentCycles.2 ⟨circle, member, rfl⟩, first, ?_, ?_⟩, ?_⟩
    · exact List.mem_of_head? isCircle.head?
    · exact (isComponent.complete outer inside first).1 insideFirst
    · rintro chain ⟨memberChain, met⟩
      rcases mem_fragmentCycles.1 memberChain with ⟨other, memberOther, rfl⟩
      have foundOther := circle?_of_sameComponent memberOther isIn inside met
      rw [foundCircle, Option.some.injEq] at foundOther
      rw [foundOther]
  · rw [fragmentCycles, List.pairwise_map]
    apply mapper.sorted_circles_pairwise_lt.imp_of_mem
    intro left right memberLeft memberRight less first isFirst second isSecond
    rcases isCircle_of_mem_circles (List.mem_mergeSort.1 memberLeft) with ⟨start, placed, shows⟩
    rcases isCircle_of_mem_circles (List.mem_mergeSort.1 memberRight)
      with ⟨startRight, placedRight, showsRight⟩
    rw [shows.head?, Option.mem_some_iff] at isFirst
    rw [showsRight.head?, Option.mem_some_iff] at isSecond
    rw [← isFirst, ← isSecond, ← order_lt_iff, ← placed, ← placedRight]
    exact less

end SqlMapper.Mapper
