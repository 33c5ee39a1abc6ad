import Mathlib
import SqlMapper.Proofs.Analysis.Substitutions
import SqlMapper.Proofs.Include.Marker

/-!
# What resolving reports

Each declaration is resolved on its own and reports each undeclared id once that it leads to, however
often and on whatever ways it does.  Circles are found by a search of the graph and reported apart;
the expansions of some declaration insert the marker of a circle just if that search has found one.
-/

namespace SqlMapper.Mapper

/-- What is resolved on its own. -/
inductive Declaration where
  | ofFragment (fragment : Fragment)
  | ofStatement (statement : Statement)

namespace Declaration

def id : Declaration → String
  | .ofFragment fragment => fragment.id
  | .ofStatement statement => statement.id

def span : Declaration → Span
  | .ofFragment fragment => fragment.span
  | .ofStatement statement => statement.span

def root : Declaration → Node
  | .ofFragment fragment => fragment.root
  | .ofStatement statement => statement.root

/-- The path on which the references of a declaration are met. -/
def path : Declaration → List String
  | .ofFragment fragment => [fragment.id]
  | .ofStatement _ => []

end Declaration

variable {mapper : Mapper} {path : List String} {id : String} {declaration : Declaration}

/-- The declarations in the order in which they are resolved. -/
def resolutionOrder (mapper : Mapper) : List Declaration :=
  mapper.fragments.map .ofFragment ++ mapper.statements.map .ofStatement

/-- The findings reported while a declaration is resolved. -/
def findMissing (mapper : Mapper) (declaration : Declaration) : List Diagnostic :=
  mapper.reportMissing declaration.path declaration.id declaration.span declaration.root

/-- The undeclared ids that the references of a declaration lead to, each once. -/
def missed (mapper : Mapper) (declaration : Declaration) : List String :=
  (declaration.root.references.flatMap (mapper.missing declaration.path)).eraseDups

/-- Whether an id is not declared although a tree or a fragment that it reaches refers to it. -/
def Lacks (mapper : Mapper) (root : Node) (id : String) : Prop :=
  mapper.fragment? id = none ∧
    (root.RefersTo id ∨ ∃ fragment, mapper.Reaches root fragment ∧ fragment.root.RefersTo id)

theorem resolveDiagnostics_eq (mapper : Mapper) : mapper.resolveDiagnostics =
    mapper.reportCycles ++ mapper.resolutionOrder.flatMap mapper.findMissing := by
  simp [resolveDiagnostics, resolutionOrder, findMissing, Declaration.path, Declaration.id,
    Declaration.span, Declaration.root, List.flatMap_append, List.flatMap_map]

section Missing

theorem missing_of_declared {fragment : Fragment} (fresh : id ∉ path)
    (declared : mapper.fragment? id = some fragment) :
    mapper.missing path id = fragment.root.references.flatMap (mapper.missing (id :: path)) := by
  rw [missing, dif_neg fresh]
  split
  · rename_i undeclared
    rw [declared] at undeclared
    cases undeclared
  · rename_i found same
    rw [declared, Option.some.injEq] at same
    rw [same]

theorem missing_of_undeclared (fresh : id ∉ path) (undeclared : mapper.fragment? id = none) :
    mapper.missing path id = [id] := by
  rw [missing, dif_neg fresh]
  split
  · rfl
  · rename_i found same
    rw [undeclared] at same
    cases same

/-- On a path of declared fragments a reference misses what it leads to and is not declared. -/
theorem mem_missing {start : String}
    (known : ∀ visited ∈ path, ∃ fragment, mapper.fragment? visited = some fragment) :
    id ∈ mapper.missing path start ↔ mapper.fragment? id = none ∧
      (id = start ∨ ∃ fragment, mapper.Leads path start fragment ∧ fragment.root.RefersTo id) := by
  induction path, start using missing.induct mapper with
  | case1 path start met =>
      rw [missing, dif_pos met]
      constructor
      · intro member
        cases member
      · rintro ⟨undeclared, rfl | ⟨fragment, leads, _⟩⟩
        · rcases known id met with ⟨fragment, declared⟩
          rw [undeclared] at declared
          cases declared
        · exact absurd met leads.declared.1
  | case2 path start fresh undeclared =>
      rw [missing_of_undeclared fresh undeclared, List.mem_singleton]
      constructor
      · rintro rfl
        exact ⟨undeclared, .inl rfl⟩
      · rintro ⟨_, same | ⟨fragment, leads, _⟩⟩
        · exact same
        · rcases leads.declared.2 with ⟨outer, declared⟩
          rw [undeclared] at declared
          cases declared
  | case3 path start fresh outer declared ih =>
      have knownInside := List.forall_mem_cons.2 ⟨⟨outer, declared⟩, known⟩
      rw [missing_of_declared fresh declared, List.mem_flatMap]
      simp only [Node.mem_references]
      constructor
      · rintro ⟨inner, reference, member⟩
        rcases (ih inner knownInside).1 member with ⟨undeclared, same | ⟨fragment, leads, inside⟩⟩
        · exact ⟨undeclared, .inr ⟨outer, .here fresh declared, same ▸ reference⟩⟩
        · exact ⟨undeclared, .inr ⟨fragment, .inside fresh declared reference leads, inside⟩⟩
      · rintro ⟨undeclared, rfl | ⟨fragment, leads, inside⟩⟩
        · rw [undeclared] at declared
          cases declared
        · rcases (leads_iff_of_declared fresh declared).1 leads with rfl | ⟨inner, reference, rest⟩
          · exact ⟨id, inside, (ih id knownInside).2 ⟨undeclared, .inl rfl⟩⟩
          · exact ⟨inner, reference,
              (ih inner knownInside).2 ⟨undeclared, .inr ⟨fragment, rest, inside⟩⟩⟩

end Missing

theorem mem_resolutionOrder : declaration ∈ mapper.resolutionOrder ↔
    (∃ fragment ∈ mapper.fragments, .ofFragment fragment = declaration) ∨
      ∃ statement ∈ mapper.statements, .ofStatement statement = declaration := by
  simp only [resolutionOrder, List.mem_append, List.mem_map]

theorem root_mem_roots (declared : declaration ∈ mapper.resolutionOrder) :
    declaration.root ∈ mapper.roots := by
  rcases mem_resolutionOrder.1 declared with ⟨fragment, member, rfl⟩ | ⟨statement, member, rfl⟩
  · exact List.mem_append_right _ (List.mem_map_of_mem member)
  · exact List.mem_append_left _ (List.mem_map_of_mem member)

section Distinct

variable (distinctFragments : (mapper.fragments.map (·.id)).Nodup)

include distinctFragments

theorem isTrail_of_refersTo (declared : declaration ∈ mapper.resolutionOrder)
    (reference : declaration.root.RefersTo id) : mapper.IsTrail declaration.path id := by
  rcases mem_resolutionOrder.1 declared with ⟨fragment, member, rfl⟩ | ⟨statement, _, rfl⟩
  · have found := fragment?_eq_of_mem distinctFragments member
    refine ⟨.singleton fragment.id, ?_, ?_⟩
    · intro last isLast
      cases isLast
      exact ⟨fragment, found, reference⟩
    · intro visited onPath
      rw [List.mem_singleton.1 onPath]
      exact ⟨fragment, found⟩
  · refine ⟨.nil, ?_, ?_⟩
    · intro last isLast
      cases isLast
    · intro visited onPath
      cases onPath

/-- A declaration misses what it lacks, whichever fragments its expansions leave out. -/
theorem mem_missed (declared : declaration ∈ mapper.resolutionOrder) :
    id ∈ mapper.missed declaration ↔ mapper.Lacks declaration.root id := by
  rw [missed, List.mem_eraseDups]
  rcases mem_resolutionOrder.1 declared with ⟨fragment, member, rfl⟩ | ⟨statement, _, rfl⟩
  · -- What a fragment misses is what a reference to it misses.
    have found := fragment?_eq_of_mem distinctFragments member
    have fresh : fragment.id ∉ [] := List.not_mem_nil
    change id ∈ fragment.root.references.flatMap (mapper.missing [fragment.id]) ↔ _
    rw [← missing_of_declared fresh found, mem_missing (by simp)]
    simp only [leads_iff, Lacks, Reaches, found, Option.some.injEq, exists_eq_left']
    apply and_congr_right
    intro undeclared
    constructor
    · rintro (rfl | ⟨last, reaches, inside⟩)
      · rw [undeclared] at found
        cases found
      · rcases Relation.ReflTransGen.cases_head reaches with rfl | ⟨next, includes, rest⟩
        · exact .inl inside
        · exact .inr ⟨last, ⟨next, includes, rest⟩, inside⟩
    · rintro (inside | ⟨last, ⟨next, includes, rest⟩, inside⟩)
      · exact .inr ⟨fragment, .refl, inside⟩
      · exact .inr ⟨last, .head includes rest, inside⟩
  · change id ∈ statement.root.references.flatMap (mapper.missing []) ↔ _
    rw [List.mem_flatMap]
    simp only [Node.mem_references]
    constructor
    · rintro ⟨reference, member, misses⟩
      rcases (mem_missing (by simp)).1 misses with ⟨undeclared, rfl | ⟨last, leads, inside⟩⟩
      · exact ⟨undeclared, .inl member⟩
      · rcases leads_iff.1 leads with ⟨next, found, rest⟩
        exact ⟨undeclared, .inr ⟨last, ⟨next, ⟨reference, member, found⟩, rest⟩, inside⟩⟩
    · rintro ⟨undeclared, member | ⟨last, ⟨next, ⟨reference, member, found⟩, rest⟩, inside⟩⟩
      · exact ⟨id, member, (mem_missing (by simp)).2 ⟨undeclared, .inl rfl⟩⟩
      · refine ⟨reference, member, (mem_missing (by simp)).2 ⟨undeclared, .inr ⟨last, ?_, inside⟩⟩⟩
        exact leads_iff.2 ⟨next, found, rest⟩

theorem mem_findMissing (declared : declaration ∈ mapper.resolutionOrder) {finding : Diagnostic} :
    finding ∈ mapper.findMissing declaration ↔
      ∃ id, mapper.Lacks declaration.root id ∧
        finding = { kind := .unresolvedFragment, span := declaration.span, detail := some id
                    owner := some (mapper.qualify declaration.id) } := by
  change finding ∈ (mapper.missed declaration).map _ ↔ _
  simp only [List.mem_map, mem_missed distinctFragments declared, @eq_comm _ finding]

end Distinct

theorem nodup_findMissing (mapper : Mapper) (declaration : Declaration) :
    (mapper.findMissing declaration).Nodup := by
  apply (nodup_eraseDups _).map
  intro first second same
  cases same
  rfl

theorem nodup_resolutionOrder (distinctFragments : (mapper.fragments.map (·.id)).Nodup)
    (distinctStatements : (mapper.statements.map (·.id)).Nodup) :
    mapper.resolutionOrder.Nodup := by
  rw [resolutionOrder, List.nodup_append]
  refine ⟨?_, ?_, ?_⟩
  · apply distinctFragments.of_map.map
    intro first second same
    cases same
    rfl
  · apply distinctStatements.of_map.map
    intro first second same
    cases same
    rfl
  · intro first isFragment second isStatement
    rcases List.mem_map.1 isFragment with ⟨fragment, _, rfl⟩
    rcases List.mem_map.1 isStatement with ⟨statement, _, rfl⟩
    intro same
    cases same

/-- Only what declarations miss is reported as unresolved. -/
theorem countP_resolveDiagnostics (mapper : Mapper) :
    mapper.resolveDiagnostics.countP (·.kind == .unresolvedFragment) =
      (mapper.resolutionOrder.flatMap mapper.findMissing).length := by
  have noCircle : mapper.reportCycles.countP (·.kind == .unresolvedFragment) = 0 := by
    rw [reportCycles, List.countP_map, List.countP_eq_zero]
    intro chain _ isUnresolved
    cases isUnresolved
  have all : ∀ finding ∈ mapper.resolutionOrder.flatMap mapper.findMissing,
      (finding.kind == .unresolvedFragment) = true := by
    intro finding member
    rcases List.mem_flatMap.1 member with ⟨declaration, _, found⟩
    rcases List.mem_map.1 found with ⟨id, _, rfl⟩
    rfl
  rw [resolveDiagnostics_eq, List.countP_append, noCircle, List.countP_eq_length.2 all,
    Nat.zero_add]

/-- There are as many findings on declarations as pairs of a declaration and an id that it lacks. -/
theorem ncard_lacks (distinctFragments : (mapper.fragments.map (·.id)).Nodup)
    (distinctStatements : (mapper.statements.map (·.id)).Nodup) :
    Set.ncard { pair : Declaration × String |
        pair.1 ∈ mapper.resolutionOrder ∧ mapper.Lacks pair.1.root pair.2 } =
      (mapper.resolutionOrder.flatMap mapper.findMissing).length := by
  classical
  let pairs := mapper.resolutionOrder.flatMap fun declaration =>
    (mapper.missed declaration).map (declaration, ·)
  have nodup : pairs.Nodup := by
    rw [List.nodup_flatMap]
    refine ⟨?_, (nodup_resolutionOrder distinctFragments distinctStatements).imp ?_⟩
    · intro declaration _
      apply (nodup_eraseDups _).map
      intro first second same
      exact (Prod.mk.inj same).2
    · intro first second different pair inFirst inSecond
      rcases List.mem_map.1 inFirst with ⟨_, _, rfl⟩
      rcases List.mem_map.1 inSecond with ⟨_, _, same⟩
      exact different (Prod.mk.inj same).1.symm
  have members : { pair : Declaration × String |
      pair.1 ∈ mapper.resolutionOrder ∧ mapper.Lacks pair.1.root pair.2 } =
      (pairs.toFinset : Set (Declaration × String)) := by
    ext ⟨declaration, id⟩
    simp only [Set.mem_ofPred_eq, SetLike.mem_coe, List.mem_toFinset, pairs, List.mem_flatMap,
      List.mem_map, Prod.mk.injEq]
    constructor
    · rintro ⟨declared, lacks⟩
      exact ⟨declaration, declared, id, (mem_missed distinctFragments declared).2 lacks, rfl, rfl⟩
    · rintro ⟨_, declared, _, misses, rfl, rfl⟩
      exact ⟨declared, (mem_missed distinctFragments declared).1 misses⟩
  rw [members, Set.ncard_coe_finset, List.toFinset_card_of_nodup nodup]
  simp only [pairs, missed, findMissing, reportMissing, List.length_flatMap, List.length_map]

/-- A fragment that includes another of its component is shown by a chain. -/
theorem exists_mem_fragmentCycles {outer inner : String} (refers : mapper.Refers outer inner)
    (same : mapper.SameComponent outer inner) : ∃ chain, chain ∈ mapper.fragmentCycles := by
  rcases refers.exists_circle? same with ⟨component, isIn, _, circular, circle, found⟩
  have member : circle ∈ mapper.circles := mem_circles.2 ⟨component, isIn, circular, found⟩
  exact ⟨circle.2, mem_fragmentCycles.2 ⟨circle, member, rfl⟩⟩

theorem exists_mem_fragmentCycles_of_isChain {first : String} {way : List String}
    (linked : (first :: way ++ [first]).IsChain mapper.Refers) :
    ∃ chain, chain ∈ mapper.fragmentCycles := by
  have leads {next : String} {rest : List String}
      (chained : (next :: rest ++ [first]).IsChain mapper.Refers) : mapper.LeadsTo next first :=
    List.relationReflTransGen_of_exists_isChain_cons (rest ++ [first]) chained (by simp)
  cases way with
  | nil =>
      have refers := (List.isChain_cons_cons.1 linked).1
      exact exists_mem_fragmentCycles refers ⟨.refl, .refl⟩
  | cons next rest =>
      rcases List.isChain_cons_cons.1 linked with ⟨refers, chained⟩
      exact exists_mem_fragmentCycles refers ⟨.single refers, leads chained⟩

theorem reports_circle_iff : (∃ finding ∈ mapper.resolveDiagnostics,
    finding.kind = .circularFragment) ↔ ∃ chain, chain ∈ mapper.fragmentCycles := by
  rw [resolveDiagnostics_eq]
  constructor
  · rintro ⟨finding, member, isCircular⟩
    rcases List.mem_append.1 member with inCycles | inMissing
    · rcases List.mem_map.1 inCycles with ⟨chain, found, _⟩
      exact ⟨chain, found⟩
    · rcases List.mem_flatMap.1 inMissing with ⟨declaration, _, found⟩
      rcases List.mem_map.1 found with ⟨id, _, rfl⟩
      cases isCircular
  · rintro ⟨chain, found⟩
    exact ⟨_, List.mem_append_left _ (List.mem_map_of_mem found), rfl⟩

/-- The expansions of some declaration insert a circular marker just if a chain of includes closes. -/
theorem inserts_circle_iff (distinctFragments : (mapper.fragments.map (·.id)).Nodup) :
    (∃ declaration ∈ mapper.resolutionOrder, ∃ chain,
      mapper.InsertsCircle declaration.path declaration.root chain) ↔
      ∃ chain, chain ∈ mapper.fragmentCycles := by
  constructor
  · rintro ⟨declaration, declared, chain, reference, member, later, target, meets, met, rfl⟩
    have isTrail := isTrail_of_refersTo distinctFragments declared member
    exact exists_mem_fragmentCycles_of_isChain ((meets.isTrail isTrail).isChain_circularChain met)
  · rintro ⟨chain, member⟩
    rcases mem_fragmentCycles.1 member with ⟨circle, isCircle, rfl⟩
    rcases isCircle_of_mem_circles isCircle with ⟨first, _, shows⟩
    rcases shows.insertsCircle with ⟨fragment, found, inserts⟩
    have same : fragment.id = first := by simpa using List.find?_some found
    have declared := List.mem_of_find?_eq_some found
    rw [← same] at inserts
    exact ⟨.ofFragment fragment, mem_resolutionOrder.2 (.inl ⟨fragment, declared, rfl⟩),
      circle.2, inserts⟩

/-- Every declaration reports just the ids that it lacks, each once, so that the findings are as many
as the pairs of a declaration and an id.  Circles are reported just if a marker of a circle is
inserted somewhere, such a marker shows a closed chain of includes, and no other marker of a circle
stands in a resolved tree unless a template has it as text. -/
theorem resolveDiagnostics_exact (mapper : Mapper)
    (distinctFragments : (mapper.fragments.map (·.id)).Nodup)
    (distinctStatements : (mapper.statements.map (·.id)).Nodup) :
    mapper.resolveDiagnostics =
        mapper.reportCycles ++ mapper.resolutionOrder.flatMap mapper.findMissing ∧
      (∀ declaration ∈ mapper.resolutionOrder, (mapper.findMissing declaration).Nodup ∧
        ∀ finding, finding ∈ mapper.findMissing declaration ↔
          ∃ id, mapper.Lacks declaration.root id ∧
            finding = { kind := .unresolvedFragment, span := declaration.span, detail := some id
                        owner := some (mapper.qualify declaration.id) }) ∧
      mapper.resolveDiagnostics.countP (·.kind == .unresolvedFragment) =
        Set.ncard { pair : Declaration × String |
          pair.1 ∈ mapper.resolutionOrder ∧ mapper.Lacks pair.1.root pair.2 } ∧
      ((∃ declaration ∈ mapper.resolutionOrder, ∃ chain,
          mapper.InsertsCircle declaration.path declaration.root chain) ↔
        ∃ finding ∈ mapper.resolveDiagnostics, finding.kind = .circularFragment) ∧
      ∀ declaration ∈ mapper.resolutionOrder, ∀ chain,
        (mapper.InsertsCircle declaration.path declaration.root chain →
          (Node.text (Include.circularMarker chain)).OccursIn
              (mapper.resolveNode declaration.path declaration.root) ∧
            (∃ first way, chain = first :: way ++ [first]) ∧ chain.IsChain mapper.Refers) ∧
        ((Node.text (Include.circularMarker chain)).OccursIn
            (mapper.resolveNode declaration.path declaration.root) →
          (∃ root ∈ mapper.roots, (Node.text (Include.circularMarker chain)).OccursIn root) ∨
            ∃ closed, mapper.InsertsCircle declaration.path declaration.root closed ∧
              Include.circularMarker closed = Include.circularMarker chain) := by
  refine ⟨mapper.resolveDiagnostics_eq, ?_, ?_, ?_, ?_⟩
  · intro declaration declared
    exact ⟨mapper.nodup_findMissing declaration,
      fun _ => mem_findMissing distinctFragments declared⟩
  · rw [countP_resolveDiagnostics, ncard_lacks distinctFragments distinctStatements]
  · rw [inserts_circle_iff distinctFragments, reports_circle_iff]
  · intro declaration declared chain
    constructor
    · intro inserts
      have occurs := inserts.occursIn
      rcases inserts with ⟨reference, member, later, target, meets, met, rfl⟩
      have isTrail := isTrail_of_refersTo distinctFragments declared member
      exact ⟨occurs, ⟨target, _, rfl⟩, (meets.isTrail isTrail).isChain_circularChain met⟩
    · intro occurs
      exact insertsCircle_of_occursIn (root_mem_roots declared) occurs

section Circle

/-- A mapper in which two fragments include each other and one of them something unknown. -/
def circleMapper : Mapper where
  nameSpace := "orders"
  fragments := [
    { id := "paid", root := .mixed [.reference "recent", .reference "unknown"] },
    { id := "recent", root := .condition "recent" [.reference "paid"] }]
  statements := [{ id := "paid", root := .mixed [.text "SELECT ", .reference "recent"] }]

theorem resolveDiagnostics_exact_circle :
    (circleMapper.fragments.map (·.id)).Nodup ∧ (circleMapper.statements.map (·.id)).Nodup ∧
      Set.ncard { pair : Declaration × String |
        pair.1 ∈ circleMapper.resolutionOrder ∧ circleMapper.Lacks pair.1.root pair.2 } = 3 ∧
      ∃ declaration ∈ circleMapper.resolutionOrder, ∃ chain,
        circleMapper.InsertsCircle declaration.path declaration.root chain := by
  have distinctFragments : (circleMapper.fragments.map (·.id)).Nodup := by decide
  have distinctStatements : (circleMapper.statements.map (·.id)).Nodup := by decide
  rcases resolveDiagnostics_exact circleMapper distinctFragments distinctStatements
    with ⟨_, _, counted, inserted, _⟩
  refine ⟨distinctFragments, distinctStatements, ?_, ?_⟩
  · rw [← counted]
    cbv
  · apply inserted.2
    have reported : circleMapper.resolveDiagnostics.any (·.kind == .circularFragment) = true := by
      cbv
    rcases List.any_eq_true.1 reported with ⟨finding, member, isCircular⟩
    exact ⟨finding, member, beq_iff_eq.1 isCircular⟩

end Circle

end SqlMapper.Mapper
