import SqlMapper.Include.Resolve
import SqlMapper.Proofs.Template.Occurrence
import Mathlib.Logic.Relation

/-!
# What an expansion contains

An expansion stops at a fragment that it stands in already, so it follows only those ways through the
includes that visit no fragment twice.  Every fragment that can be reached at all can be reached on
such a way: whoever comes back to a fragment might as well have stayed there.
-/

namespace SqlMapper

namespace Node

/-- Whether something that occurs in a template is a reference. -/
def Event.isReference : Event → Bool
  | .reference _ => true
  | .parameter _ _ | .test _ | .bind _ _ => false

/-- What occurs in the place of something when references are replaced. -/
def Event.replaced (replacement : String → Node) : Event → List Event
  | .reference fragment => (replacement fragment).events
  | .parameter name raw => [.parameter name raw]
  | .test source => [.test source]
  | .bind name value => [.bind name value]

mutual

theorem events_replaceReferences (replacement : String → Node) : (node : Node) →
    (node.replaceReferences replacement).events = node.events.flatMap (Event.replaced replacement)
  | .text _ => rfl
  | .parameter name raw => rfl
  | .condition test children => by
      simp [replaceReferences, events, Event.replaced, events_replaceInAll replacement children]
  | .choice branches none => by
      simp [replaceReferences, events, events_replaceInBranches replacement branches]
  | .choice branches (some children) => by
      simp [replaceReferences, events, events_replaceInAll replacement children,
        events_replaceInBranches replacement branches]
  | .clause kind children => events_replaceInAll replacement children
  | .loop header children => events_replaceInAll replacement children
  | .bind name value => rfl
  | .reference fragment => by
      simp [replaceReferences, events, Event.replaced]
  | .mixed children => events_replaceInAll replacement children

theorem events_replaceInAll (replacement : String → Node) : (nodes : List Node) →
    eventsOfAll (replaceInAll replacement nodes) =
      (eventsOfAll nodes).flatMap (Event.replaced replacement)
  | [] => rfl
  | node :: rest => by
      simp [replaceInAll, eventsOfAll, events_replaceReferences replacement node,
        events_replaceInAll replacement rest]

theorem events_replaceInBranches (replacement : String → Node) :
    (branches : List (String × List Node)) →
    eventsOfBranches (replaceInBranches replacement branches) =
      (eventsOfBranches branches).flatMap (Event.replaced replacement)
  | [] => rfl
  | (test, children) :: rest => by
      simp [replaceInBranches, eventsOfBranches, Event.replaced,
        events_replaceInAll replacement children, events_replaceInBranches replacement rest]

end

/-- A tree with references replaced contains what the tree contained apart from them, and what their
replacements contain. -/
theorem mem_events_replaceReferences {replacement : String → Node} {node : Node} {event : Event} :
    event ∈ (node.replaceReferences replacement).events ↔
      (event ∈ node.events ∧ event.isReference = false) ∨
        ∃ fragment, node.RefersTo fragment ∧ event ∈ (replacement fragment).events := by
  rw [events_replaceReferences, List.mem_flatMap]
  constructor
  · rintro ⟨source, member, found⟩
    cases source with
    | reference fragment => exact .inr ⟨fragment, refersTo_iff.2 member, found⟩
    | _ =>
        rw [List.mem_singleton.1 found]
        exact .inl ⟨member, rfl⟩
  · rintro (⟨member, kept⟩ | ⟨fragment, member, found⟩)
    · refine ⟨event, member, ?_⟩
      cases event with
      | reference fragment => cases kept
      | _ => exact List.mem_singleton.2 rfl
    · exact ⟨.reference fragment, refersTo_iff.1 member, found⟩

end Node

namespace Mapper

variable {mapper : Mapper} {path ids : List String} {id : String} {fragment first : Fragment}

/-- Whether a tree refers to a declared fragment. -/
def Includes (mapper : Mapper) (root : Node) (fragment : Fragment) : Prop :=
  ∃ id, root.RefersTo id ∧ mapper.fragment? id = some fragment

/-- Whether a declared fragment can be reached from a tree through one or more includes. -/
def Reaches (mapper : Mapper) (root : Node) (fragment : Fragment) : Prop :=
  ∃ first, mapper.Includes root first ∧
    Relation.ReflTransGen (fun outer inner => mapper.Includes outer.root inner) first fragment

/-- Whether a reference met on a path leads to a fragment without coming back to the path or visiting
a fragment twice. -/
inductive Leads (mapper : Mapper) : List String → String → Fragment → Prop
  | here {path : List String} {id : String} {fragment : Fragment} (fresh : id ∉ path)
      (declared : mapper.fragment? id = some fragment) : Leads mapper path id fragment
  | inside {path : List String} {id inner : String} {outer fragment : Fragment} (fresh : id ∉ path)
      (declared : mapper.fragment? id = some outer) (reference : outer.root.RefersTo inner)
      (leads : Leads mapper (id :: path) inner fragment) : Leads mapper path id fragment

theorem Leads.declared (leads : mapper.Leads path id fragment) :
    id ∉ path ∧ ∃ outer, mapper.fragment? id = some outer := by
  cases leads with
  | here fresh declared => exact ⟨fresh, _, declared⟩
  | inside fresh declared => exact ⟨fresh, _, declared⟩

theorem leads_iff_of_declared {outer : Fragment} (fresh : id ∉ path)
    (declared : mapper.fragment? id = some outer) :
    mapper.Leads path id fragment ↔
      fragment = outer ∨ ∃ inner, outer.root.RefersTo inner ∧ mapper.Leads (id :: path) inner fragment := by
  constructor
  · intro leads
    cases leads with
    | here _ found =>
        rw [declared, Option.some.injEq] at found
        exact .inl found.symm
    | inside _ found reference rest =>
        rw [declared, Option.some.injEq] at found
        subst found
        exact .inr ⟨_, reference, rest⟩
  · rintro (rfl | ⟨inner, reference, rest⟩)
    · exact .here fresh declared
    · exact .inside fresh declared reference rest

theorem expand_of_declared (fresh : id ∉ path) (declared : mapper.fragment? id = some fragment) :
    mapper.expand path id = fragment.root.replaceReferences (mapper.expand (id :: path)) := by
  rw [expand, dif_neg fresh]
  split
  · rename_i undeclared
    rw [declared] at undeclared
    cases undeclared
  · rename_i found same
    rw [declared, Option.some.injEq] at same
    rw [same]

theorem expand_of_undeclared (fresh : id ∉ path) (undeclared : mapper.fragment? id = none) :
    mapper.expand path id = .text (Include.unresolvedMarker id) := by
  rw [expand, dif_neg fresh]
  split
  · rfl
  · rename_i found same
    rw [undeclared] at same
    cases same

/-- What leads nowhere is a comment. -/
theorem events_expand_of_stopped
    (stopped : ¬(id ∉ path ∧ ∃ outer, mapper.fragment? id = some outer)) :
    (mapper.expand path id).events = [] := by
  rw [expand]
  split
  · rfl
  · rename_i fresh
    split
    · rfl
    · rename_i outer declared
      exact absurd ⟨fresh, outer, declared⟩ stopped

/-- An expansion contains what the fragments contain that it leads to, apart from references. -/
theorem mem_events_expand {event : Node.Event} :
    event ∈ (mapper.expand path id).events ↔
      event.isReference = false ∧ ∃ fragment, mapper.Leads path id fragment ∧
        event ∈ fragment.root.events := by
  induction path, id using expand.induct mapper with
  | case1 path id met =>
      rw [events_expand_of_stopped fun expandable => expandable.1 met]
      constructor
      · intro member
        cases member
      · rintro ⟨_, fragment, leads, _⟩
        exact absurd met leads.declared.1
  | case2 path id fresh undeclared =>
      have stopped : ¬∃ outer, mapper.fragment? id = some outer := by simp [undeclared]
      rw [events_expand_of_stopped fun expandable => stopped expandable.2]
      constructor
      · intro member
        cases member
      · rintro ⟨_, fragment, leads, _⟩
        exact absurd leads.declared.2 stopped
  | case3 path id fresh outer declared ih =>
      rw [expand_of_declared fresh declared, Node.mem_events_replaceReferences]
      simp only [ih, leads_iff_of_declared fresh declared]
      constructor
      · rintro (⟨member, kept⟩ | ⟨inner, reference, kept, fragment, leads, member⟩)
        · exact ⟨kept, outer, .inl rfl, member⟩
        · exact ⟨kept, fragment, .inr ⟨inner, reference, leads⟩, member⟩
      · rintro ⟨kept, fragment, rfl | ⟨inner, reference, leads⟩, member⟩
        · exact .inl ⟨member, kept⟩
        · exact .inr ⟨inner, reference, kept, fragment, leads, member⟩

/-- A way through the includes with the ids of the fragments that it visits. -/
inductive Walk (mapper : Mapper) : String → List String → Fragment → Prop
  | stop {id : String} {fragment : Fragment} (declared : mapper.fragment? id = some fragment) :
      Walk mapper id [id] fragment
  | step {id inner : String} {ids : List String} {outer fragment : Fragment}
      (declared : mapper.fragment? id = some outer) (reference : outer.root.RefersTo inner)
      (rest : Walk mapper inner ids fragment) : Walk mapper id (id :: ids) fragment

theorem Leads.reaches (leads : mapper.Leads path id fragment) :
    ∃ first, mapper.fragment? id = some first ∧
      Relation.ReflTransGen (fun outer inner => mapper.Includes outer.root inner) first fragment := by
  induction leads with
  | here fresh declared => exact ⟨_, declared, .refl⟩
  | inside fresh declared reference leads ih =>
      rcases ih with ⟨next, found, reaches⟩
      exact ⟨_, declared, .head ⟨_, reference, found⟩ reaches⟩

theorem exists_walk (reaches : Relation.ReflTransGen
      (fun outer inner => mapper.Includes outer.root inner) first fragment)
    (declared : mapper.fragment? id = some first) : ∃ ids, mapper.Walk id ids fragment := by
  induction reaches using Relation.ReflTransGen.head_induction_on generalizing id with
  | refl => exact ⟨[id], .stop declared⟩
  | head includes _ ih =>
      rcases includes with ⟨inner, reference, found⟩
      rcases ih found with ⟨ids, walk⟩
      exact ⟨id :: ids, .step declared reference walk⟩

/-- A walk that visits a fragment can begin there. -/
theorem Walk.from_visited {visited : String} (walk : mapper.Walk id ids fragment)
    (member : visited ∈ ids) :
    ∃ later, mapper.Walk visited later fragment ∧ later <:+ ids := by
  induction walk with
  | stop declared =>
      rw [List.mem_singleton.1 member]
      exact ⟨_, .stop declared, List.suffix_refl _⟩
  | step declared reference rest ih =>
      rcases List.mem_cons.1 member with rfl | inside
      · exact ⟨_, .step declared reference rest, List.suffix_refl _⟩
      · rcases ih inside with ⟨later, walk, suffix⟩
        exact ⟨later, walk, suffix.trans (List.suffix_cons _ _)⟩

/-- A walk that avoids a path leads to its end without visiting a fragment twice. -/
theorem Walk.leads (walk : mapper.Walk id ids fragment) (avoids : ∀ visited ∈ ids, visited ∉ path) :
    mapper.Leads path id fragment := by
  induction sameLength : ids.length using Nat.strongRecOn generalizing id ids path with
  | ind length ih =>
      cases walk with
      | stop declared => exact .here (avoids id (List.mem_singleton.2 rfl)) declared
      | @step _ _ rest _ _ declared reference walk =>
          have fresh := avoids id List.mem_cons_self
          rw [List.length_cons] at sameLength
          by_cases again : id ∈ rest
          · -- The way from the last visit on is shorter.
            rcases walk.from_visited again with ⟨later, shorter, suffix⟩
            have := suffix.length_le
            refine ih later.length (by omega) shorter ?_ rfl
            intro visited member
            exact avoids visited (List.mem_cons_of_mem _ (suffix.subset member))
          · refine .inside fresh declared reference (ih rest.length (by omega) walk ?_ rfl)
            intro visited member onPath
            rcases List.mem_cons.1 onPath with rfl | old
            · exact again member
            · exact avoids visited (List.mem_cons_of_mem _ member) old

theorem leads_iff : mapper.Leads [] id fragment ↔
    ∃ first, mapper.fragment? id = some first ∧
      Relation.ReflTransGen (fun outer inner => mapper.Includes outer.root inner) first fragment := by
  constructor
  · exact Leads.reaches
  · rintro ⟨first, declared, reaches⟩
    rcases exists_walk reaches declared with ⟨ids, walk⟩
    exact walk.leads fun _ _ => List.not_mem_nil

/-- A resolved tree contains what the tree contains and what the declared fragments contain that it
reaches, apart from references. -/
theorem mem_events_resolveNode {root : Node} {event : Node.Event} :
    event ∈ (mapper.resolveNode [] root).events ↔
      event.isReference = false ∧
        (event ∈ root.events ∨ ∃ fragment, mapper.Reaches root fragment ∧
          event ∈ fragment.root.events) := by
  rw [resolveNode, Node.mem_events_replaceReferences]
  simp only [mem_events_expand, leads_iff]
  constructor
  · rintro (⟨member, kept⟩ | ⟨id, reference, kept, fragment, ⟨first, declared, reaches⟩, member⟩)
    · exact ⟨kept, .inl member⟩
    · exact ⟨kept, .inr ⟨fragment, ⟨first, ⟨id, reference, declared⟩, reaches⟩, member⟩⟩
  · rintro ⟨kept, member | ⟨fragment, ⟨first, ⟨id, reference, declared⟩, reaches⟩, member⟩⟩
    · exact .inl ⟨member, kept⟩
    · exact .inr ⟨id, reference, kept, fragment, ⟨first, declared, reaches⟩, member⟩

end Mapper

end SqlMapper
