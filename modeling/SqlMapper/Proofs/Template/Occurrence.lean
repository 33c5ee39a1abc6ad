import SqlMapper.Template.Event

/-!
# Occurrence in a template

A tree occurs in another one if it is that tree or stands below it in some list of children.  The
placeholders, bindings and references that analyses look at are just those that occur.
-/

namespace SqlMapper.Node

/-- Whether a tree is another one or stands below it, in whatever list of children. -/
inductive OccursIn (inner : Node) : Node → Prop
  | here : OccursIn inner inner
  | inside {outer child : Node} {children : List Node} (listed : children ∈ outer.childLists)
      (member : child ∈ children) (occurs : OccursIn inner child) : OccursIn inner outer

theorem OccursIn.trans {inner middle outer : Node} (first : inner.OccursIn middle)
    (second : middle.OccursIn outer) : inner.OccursIn outer := by
  induction second with
  | here => exact first
  | inside listed member _ ih => exact .inside listed member ih

theorem events_subset_eventsOfAll {child : Node} {children : List Node}
    (member : child ∈ children) :
    child.events ⊆ eventsOfAll children := by
  induction children with
  | nil => cases member
  | cons first rest ih =>
      rcases List.mem_cons.1 member with rfl | later
      · exact List.subset_append_left _ _
      · exact List.Subset.trans (ih later) (List.subset_append_right _ _)

theorem eventsOfAll_subset_eventsOfBranches {branches : List (String × List Node)}
    {branch : String × List Node} (member : branch ∈ branches) :
    eventsOfAll branch.2 ⊆ eventsOfBranches branches := by
  induction branches with
  | nil => cases member
  | cons first rest ih =>
      rcases first with ⟨test, children⟩
      rcases List.mem_cons.1 member with rfl | later
      · exact List.Subset.trans (List.subset_append_left _ _) (List.subset_cons_self _ _)
      · refine List.Subset.trans (ih later) ?_
        exact List.Subset.trans (List.subset_append_right _ _) (List.subset_cons_self _ _)

theorem eventsOfAll_subset_events {outer : Node} {children : List Node}
    (listed : children ∈ outer.childLists) : eventsOfAll children ⊆ outer.events := by
  cases outer with
  | condition test held =>
      rw [List.mem_singleton.1 listed]
      exact List.subset_cons_self _ _
  | choice branches fallback =>
      have inBranches (member : children ∈ branches.map (·.2)) :
          eventsOfAll children ⊆ eventsOfBranches branches := by
        rcases List.mem_map.1 member with ⟨branch, known, rfl⟩
        exact eventsOfAll_subset_eventsOfBranches known
      cases fallback with
      | none => exact inBranches (by simpa [childLists] using listed)
      | some held =>
          rcases List.mem_append.1 listed with branch | last
          · exact List.Subset.trans (inBranches branch) (List.subset_append_left _ _)
          · rw [List.mem_singleton.1 last]
            exact List.subset_append_right _ _
  | clause kind held =>
      rw [List.mem_singleton.1 listed]
      exact List.Subset.refl _
  | loop header held =>
      rw [List.mem_singleton.1 listed]
      exact List.Subset.refl _
  | mixed held =>
      rw [List.mem_singleton.1 listed]
      exact List.Subset.refl _
  | _ => cases listed

theorem events_subset_of_occursIn {inner outer : Node} (occurs : inner.OccursIn outer) :
    inner.events ⊆ outer.events := by
  induction occurs with
  | here => exact List.Subset.refl _
  | inside listed member _ ih =>
      exact List.Subset.trans ih
        (List.Subset.trans (events_subset_eventsOfAll member) (eventsOfAll_subset_events listed))

/-- The tree that is nothing but what occurs, unless this is a test. -/
def Event.leaf? : Event → Option Node
  | .parameter name raw => some (.parameter name raw)
  | .bind name value => some (.bind name value)
  | .reference fragment => some (.reference fragment)
  | .test _ => none

section Leaf

variable {event : Event} {leaf : Node}

mutual

theorem occursIn_of_mem_events (isLeaf : event.leaf? = some leaf) : (node : Node) →
    event ∈ node.events → leaf.OccursIn node
  | .text _, member => by cases member
  | .parameter _ _, member | .bind _ _, member | .reference _, member => by
      rw [List.mem_singleton.1 member] at isLeaf
      cases isLeaf
      exact .here
  | .condition test children, member => by
      rcases List.mem_cons.1 member with isTest | below
      · rw [isTest] at isLeaf
        cases isLeaf
      · rcases occursIn_of_mem_eventsOfAll isLeaf children below with ⟨child, inside, occurs⟩
        exact .inside List.mem_cons_self inside occurs
  | .choice branches none, member => by
      rcases occursIn_of_mem_eventsOfBranches isLeaf branches member
        with ⟨branch, listed, child, inside, occurs⟩
      exact .inside (List.mem_append_left _ (List.mem_map_of_mem listed)) inside occurs
  | .choice branches (some children), member => by
      rcases List.mem_append.1 member with inBranches | inFallback
      · rcases occursIn_of_mem_eventsOfBranches isLeaf branches inBranches
          with ⟨branch, listed, child, inside, occurs⟩
        exact .inside (List.mem_append_left _ (List.mem_map_of_mem listed)) inside occurs
      · rcases occursIn_of_mem_eventsOfAll isLeaf children inFallback with ⟨child, inside, occurs⟩
        exact .inside (List.mem_append_right _ List.mem_cons_self) inside occurs
  | .clause kind children, member => by
      rcases occursIn_of_mem_eventsOfAll isLeaf children member with ⟨child, inside, occurs⟩
      exact .inside List.mem_cons_self inside occurs
  | .loop header children, member => by
      rcases occursIn_of_mem_eventsOfAll isLeaf children member with ⟨child, inside, occurs⟩
      exact .inside List.mem_cons_self inside occurs
  | .mixed children, member => by
      rcases occursIn_of_mem_eventsOfAll isLeaf children member with ⟨child, inside, occurs⟩
      exact .inside List.mem_cons_self inside occurs

theorem occursIn_of_mem_eventsOfAll (isLeaf : event.leaf? = some leaf) : (nodes : List Node) →
    event ∈ eventsOfAll nodes → ∃ child ∈ nodes, leaf.OccursIn child
  | [], member => by cases member
  | node :: rest, member => by
      rcases List.mem_append.1 member with first | later
      · exact ⟨node, List.mem_cons_self, occursIn_of_mem_events isLeaf node first⟩
      · rcases occursIn_of_mem_eventsOfAll isLeaf rest later with ⟨child, inside, occurs⟩
        exact ⟨child, List.mem_cons_of_mem _ inside, occurs⟩

theorem occursIn_of_mem_eventsOfBranches (isLeaf : event.leaf? = some leaf) :
    (branches : List (String × List Node)) → event ∈ eventsOfBranches branches →
      ∃ branch ∈ branches, ∃ child ∈ branch.2, leaf.OccursIn child
  | [], member => by cases member
  | (test, children) :: rest, member => by
      rcases List.mem_cons.1 member with isTest | below
      · rw [isTest] at isLeaf
        cases isLeaf
      · rcases List.mem_append.1 below with first | later
        · rcases occursIn_of_mem_eventsOfAll isLeaf children first with ⟨child, inside, occurs⟩
          exact ⟨_, List.mem_cons_self, child, inside, occurs⟩
        · rcases occursIn_of_mem_eventsOfBranches isLeaf rest later
            with ⟨branch, listed, child, inside, occurs⟩
          exact ⟨branch, List.mem_cons_of_mem _ listed, child, inside, occurs⟩

end

theorem mem_events_iff (isLeaf : event.leaf? = some leaf) {node : Node} :
    event ∈ node.events ↔ leaf.OccursIn node := by
  refine ⟨occursIn_of_mem_events isLeaf node, fun occurs => events_subset_of_occursIn occurs ?_⟩
  cases event with
  | test source => cases isLeaf
  | _ =>
      cases isLeaf
      exact List.mem_cons_self

end Leaf

/-- Whether there is a reference to a fragment in a tree. -/
def RefersTo (node : Node) (fragment : String) : Prop :=
  (reference fragment).OccursIn node

theorem refersTo_iff {node : Node} {fragment : String} :
    node.RefersTo fragment ↔ Event.reference fragment ∈ node.events :=
  (mem_events_iff rfl).symm

theorem mem_references {node : Node} {fragment : String} :
    fragment ∈ node.references ↔ node.RefersTo fragment := by
  rw [refersTo_iff, references, List.mem_filterMap]
  constructor
  · rintro ⟨event, member, found⟩
    cases event <;> cases found
    exact member
  · intro member
    exact ⟨_, member, rfl⟩

end SqlMapper.Node
