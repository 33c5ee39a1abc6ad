import SqlMapper.Proofs.Include.Cycle
import SqlMapper.Proofs.Include.Expansion

/-!
# Resolved mappers

Nothing that an expansion leaves behind refers to a fragment: the way into a fragment ends at a
comment or at text without references.  A mapper without references has no circles and nothing to
expand, so resolving it once more changes nothing and finds nothing.
-/

namespace SqlMapper

namespace Node

/-- Whether there is no reference in a tree. -/
def IsResolved (root : Node) : Prop :=
  ∀ id, Event.reference id ∉ root.events

theorem IsResolved.not_occursIn {root : Node} (isResolved : root.IsResolved) (id : String) :
    ¬(reference id).OccursIn root :=
  fun occurs => isResolved id (events_subset_of_occursIn occurs List.mem_cons_self)

theorem IsResolved.references_eq_nil {root : Node} (isResolved : root.IsResolved) :
    root.references = [] := by
  rw [List.eq_nil_iff_forall_not_mem]
  intro id member
  exact isResolved.not_occursIn id (mem_references.1 member)

mutual

/-- There is nothing to replace in a tree without references. -/
theorem replaceReferences_eq_self (replacement : String → Node) : (root : Node) →
    (∀ id, Event.reference id ∉ root.events) → root.replaceReferences replacement = root
  | .text _, _ => rfl
  | .parameter _ _, _ => rfl
  | .bind _ _, _ => rfl
  | .reference fragment, absent => absurd List.mem_cons_self (absent fragment)
  | .condition test children, absent => by
      have inner := replaceInAll_eq_self replacement children fun id member =>
        absent id (List.mem_cons_of_mem _ member)
      rw [replaceReferences, inner]
  | .choice branches none, absent =>
      congrArg (choice · none) (replaceInBranches_eq_self replacement branches absent)
  | .choice branches (some children), absent => by
      simp only [events, List.mem_append, not_or, forall_and] at absent
      rw [replaceReferences, replaceInBranches_eq_self replacement branches absent.1,
        replaceInAll_eq_self replacement children absent.2]
  | .clause kind children, absent =>
      congrArg (clause kind) (replaceInAll_eq_self replacement children absent)
  | .loop header children, absent =>
      congrArg (loop header) (replaceInAll_eq_self replacement children absent)
  | .mixed children, absent =>
      congrArg mixed (replaceInAll_eq_self replacement children absent)

theorem replaceInAll_eq_self (replacement : String → Node) : (nodes : List Node) →
    (∀ id, Event.reference id ∉ eventsOfAll nodes) → replaceInAll replacement nodes = nodes
  | [], _ => rfl
  | node :: rest, absent => by
      simp only [eventsOfAll, List.mem_append, not_or, forall_and] at absent
      rw [replaceInAll, replaceReferences_eq_self replacement node absent.1,
        replaceInAll_eq_self replacement rest absent.2]

theorem replaceInBranches_eq_self (replacement : String → Node) :
    (branches : List (String × List Node)) →
    (∀ id, Event.reference id ∉ eventsOfBranches branches) →
      replaceInBranches replacement branches = branches
  | [], _ => rfl
  | (test, children) :: rest, absent => by
      simp only [eventsOfBranches, List.cons_append, List.mem_cons, List.mem_append, not_or,
        forall_and] at absent
      rcases absent with ⟨_, absentHere, absentRest⟩
      rw [replaceInBranches, replaceInAll_eq_self replacement children absentHere,
        replaceInBranches_eq_self replacement rest absentRest]

end

end Node

namespace Mapper

/-- The trees of all declarations, statements first. -/
def roots (mapper : Mapper) : List Node :=
  mapper.statements.map (·.root) ++ mapper.fragments.map (·.root)

variable {mapper : Mapper}

theorem isResolved_resolveNode (mapper : Mapper) (path : List String) (root : Node) :
    (mapper.resolveNode path root).IsResolved := by
  intro id member
  rw [resolveNode, Node.mem_events_replaceReferences] at member
  rcases member with ⟨_, kept⟩ | ⟨_, _, expanded⟩
  · cases kept
  · cases (mem_events_expand.1 expanded).1

theorem isResolved_of_mem_roots_resolved {root : Node} (member : root ∈ mapper.resolved.roots) :
    root.IsResolved := by
  simp only [roots, resolved, List.mem_append, List.mem_map] at member
  rcases member with ⟨_, ⟨statement, _, rfl⟩, rfl⟩ | ⟨_, ⟨fragment, _, rfl⟩, rfl⟩
  · exact mapper.isResolved_resolveNode _ _
  · exact mapper.isResolved_resolveNode _ _

section Resolved

variable (allResolved : ∀ root ∈ mapper.roots, root.IsResolved)

include allResolved

theorem resolved_eq_self : mapper.resolved = mapper := by
  have statements (statement : Statement) (member : statement ∈ mapper.statements) :
      { statement with root := mapper.resolveNode [] statement.root } = statement := by
    have root := allResolved _ (List.mem_append_left _ (List.mem_map_of_mem member))
    rw [resolveNode, Node.replaceReferences_eq_self _ _ root]
  have fragments (fragment : Fragment) (member : fragment ∈ mapper.fragments) :
      { fragment with root := mapper.resolveNode [fragment.id] fragment.root } = fragment := by
    have root := allResolved _ (List.mem_append_right _ (List.mem_map_of_mem member))
    rw [resolveNode, Node.replaceReferences_eq_self _ _ root]
  rw [resolved, List.map_congr_left statements, List.map_congr_left fragments]
  simp only [List.map_id']

theorem not_refers {id target : String} : ¬mapper.Refers id target := by
  rintro ⟨⟨fragment, found, member⟩, _⟩
  have declared := List.mem_of_find?_eq_some found
  have root := allResolved _ (List.mem_append_right _ (List.mem_map_of_mem declared))
  exact root.not_occursIn target member

theorem fragmentCycles_eq_nil : mapper.fragmentCycles = [] := by
  rw [List.eq_nil_iff_forall_not_mem]
  intro chain member
  rcases mem_fragmentCycles.1 member with ⟨circle, isCircle, rfl⟩
  rcases isCircle_of_mem_circles isCircle with ⟨first, _, shows⟩
  rcases shows.exists_refers with ⟨_, refers⟩
  exact not_refers allResolved refers

theorem resolveDiagnostics_eq_nil : mapper.resolveDiagnostics = [] := by
  have missing {root : Node} (member : root ∈ mapper.roots) (path : List String) (id : String)
      (span : Span) : mapper.reportMissing path id span root = [] := by
    rw [reportMissing, (allResolved root member).references_eq_nil]
    rfl
  have fragments (fragment : Fragment) (member : fragment ∈ mapper.fragments) :
      mapper.reportMissing [fragment.id] fragment.id fragment.span fragment.root = [] :=
    missing (List.mem_append_right _ (List.mem_map_of_mem member)) _ _ _
  have statements (statement : Statement) (member : statement ∈ mapper.statements) :
      mapper.reportMissing [] statement.id statement.span statement.root = [] :=
    missing (List.mem_append_left _ (List.mem_map_of_mem member)) _ _ _
  rw [resolveDiagnostics, reportCycles, fragmentCycles_eq_nil allResolved,
    List.flatMap_eq_nil_iff.2 fragments, List.flatMap_eq_nil_iff.2 statements]
  rfl

end Resolved

/-- Resolution leaves no reference anywhere in a tree, and resolving a resolved mapper gives the
same mapper and finds nothing. -/
theorem resolved_resolved (mapper : Mapper) :
    (∀ root ∈ mapper.resolved.roots, ∀ id, ¬(Node.reference id).OccursIn root) ∧
      mapper.resolved.resolved = mapper.resolved ∧ mapper.resolved.resolveDiagnostics = [] := by
  have allResolved (root : Node) (member : root ∈ mapper.resolved.roots) : root.IsResolved :=
    isResolved_of_mem_roots_resolved member
  refine ⟨?_, resolved_eq_self allResolved, resolveDiagnostics_eq_nil allResolved⟩
  intro root member
  exact (allResolved root member).not_occursIn

end Mapper

end SqlMapper
