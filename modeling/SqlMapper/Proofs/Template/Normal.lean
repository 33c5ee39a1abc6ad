import SqlMapper.Proofs.Include.Resolution
import SqlMapper.Proofs.Template.Placeholder

/-!
# Normal trees

In the tree of a declaration every choice has a branch, children are kept apart wherever they are
listed, and a plain sequence is the root or nowhere.  Such trees are built by adding nodes to bodies and
by putting bodies into directives.
-/

namespace SqlMapper.Node

/-- The form of the tree of a declaration. -/
structure IsNormal (root : Node) : Prop where
  chosen : ∀ fallback, ¬(choice [] fallback).OccursIn root
  separate : ∀ {node : Node} {children : List Node}, node.OccursIn root →
    children ∈ node.childLists → AreSeparate children
  unmixed : ∀ {node : Node} {children : List Node}, node.OccursIn root →
    children ∈ node.childLists → ∀ inner, mixed inner ∉ children
  plural : ∀ children, root = mixed children → 2 ≤ children.length

/-- Whether a node may stand in a body. -/
inductive IsInner : Node → Prop where
  | intro {node : Node} (unmixed : ∀ inner, node ≠ mixed inner)
      (chosen : ∀ fallback, node ≠ choice [] fallback)
      (separate : ∀ children ∈ node.childLists, AreSeparate children)
      (within : ∀ children ∈ node.childLists, ∀ child ∈ children, IsInner child) : IsInner node

/-- Whether nodes are the body of a directive in a normal tree. -/
structure IsBody (children : List Node) : Prop where
  separate : AreSeparate children
  inner : ∀ child ∈ children, child.IsInner

variable {node root : Node} {children nodes added : List Node}

theorem isBody_nil : IsBody [] :=
  ⟨areSeparate_nil, by simp⟩

/-! ### Nodes of bodies -/

theorem IsInner.of_bodies (unmixed : ∀ inner, node ≠ mixed inner)
    (chosen : ∀ fallback, node ≠ choice [] fallback)
    (bodies : ∀ children ∈ node.childLists, IsBody children) : node.IsInner :=
  .intro unmixed chosen (fun children listed => (bodies children listed).separate)
    (fun children listed => (bodies children listed).inner)

theorem IsInner.of_leaf (unmixed : ∀ inner, node ≠ mixed inner)
    (chosen : ∀ fallback, node ≠ choice [] fallback) (leaf : node.childLists = []) : node.IsInner := by
  apply IsInner.of_bodies unmixed chosen
  simp [leaf]

theorem isInner_text (content : String) : (text content).IsInner :=
  .of_leaf (by simp) (by simp) rfl

theorem isInner_parameter (name : String) (raw : Bool) : (parameter name raw).IsInner :=
  .of_leaf (by simp) (by simp) rfl

theorem isInner_bind (name value : String) : (bind name value).IsInner :=
  .of_leaf (by simp) (by simp) rfl

theorem isInner_reference (fragment : String) : (reference fragment).IsInner :=
  .of_leaf (by simp) (by simp) rfl

theorem IsBody.condition (body : IsBody children) (test : String) : (condition test children).IsInner :=
  .of_bodies (by simp) (by simp) (by simpa [childLists] using body)

theorem IsBody.clause (body : IsBody children) (kind : Clause) : (clause kind children).IsInner :=
  .of_bodies (by simp) (by simp) (by simpa [childLists] using body)

theorem IsBody.loop (body : IsBody children) (header : Loop) : (loop header children).IsInner :=
  .of_bodies (by simp) (by simp) (by simpa [childLists] using body)

theorem isInner_choice {branches : List (String × List Node)} {fallback : Option (List Node)}
    (some : branches ≠ []) (bodies : ∀ branch ∈ branches, IsBody branch.2)
    (last : ∀ children ∈ fallback, IsBody children) : (choice branches fallback).IsInner := by
  apply IsInner.of_bodies
  · simp
  · simp [some]
  · intro children listed
    simp only [childLists, List.mem_append, List.mem_map, Option.mem_toList] at listed
    rcases listed with ⟨branch, member, rfl⟩ | member
    · exact bodies branch member
    · exact last children member

/-! ### Adding to bodies -/

theorem mem_appendText {content : String} (member : node ∈ appendText content nodes) :
    node ∈ nodes ∨ node.isText := by
  fun_induction appendText content nodes with
  | case1 => simp_all [isText]
  | case2 last => simp_all [isText]
  | case3 first rest _ ih => grind

theorem mem_append_node {new : Node} (member : node ∈ append nodes new) :
    node ∈ nodes ∨ node = new ∨ node.isText := by
  cases kind : new.isText with
  | true =>
      obtain ⟨content, rfl⟩ := isText_iff.1 kind
      rw [Node.append] at member
      split at member
      · exact .inl member
      · exact (mem_appendText member).imp_right .inr
  | false =>
      rw [append_of_not_isText (by simp [kind])] at member
      simpa [or_assoc] using Or.inl (b := node.isText) (List.mem_append.1 member)

theorem IsBody.append (body : IsBody nodes) {new : Node} (inner : new.IsInner) :
    IsBody (append nodes new) := by
  refine ⟨body.separate.append new, ?_⟩
  intro child member
  rcases mem_append_node member with old | rfl | isText
  · exact body.inner child old
  · exact inner
  · obtain ⟨content, rfl⟩ := isText_iff.1 isText
    exact isInner_text content

theorem IsBody.appendAll (body : IsBody nodes) (inner : ∀ node ∈ added, node.IsInner) :
    IsBody (appendAll nodes added) := by
  induction added generalizing nodes with
  | nil => exact body
  | cons node rest ih =>
      rw [List.forall_mem_cons] at inner
      exact ih (body.append inner.1) inner.2

theorem isInner_of_mem_scan {text : String} (member : node ∈ scan text) : node.IsInner := by
  rw [scan, List.mem_map] at member
  obtain ⟨piece, _, rfl⟩ := member
  cases piece with
  | literal text => exact isInner_text _
  | placeholder name raw => exact isInner_parameter _ raw

/-! ### Roots -/

theorem IsInner.of_occursIn (occurs : node.OccursIn root) (inner : root.IsInner) : node.IsInner := by
  induction occurs with
  | here => exact inner
  | inside listed member _ ih =>
      cases inner with
      | intro _ _ _ within => exact ih (within _ listed _ member)

theorem IsInner.isBody (inner : node.IsInner) (listed : children ∈ node.childLists) :
    IsBody children := by
  cases inner with
  | intro _ _ separate within => exact ⟨separate children listed, within children listed⟩

theorem IsBody.mixed_not_mem (body : IsBody children) (inner : List Node) : mixed inner ∉ children := by
  intro member
  cases body.inner _ member with
  | intro unmixed _ _ _ => exact unmixed inner rfl

/-- A root may be a node of a body, or a sequence of several. -/
theorem isNormal_of_inner (inner : ∀ node, node.OccursIn root → node ≠ root → node.IsInner)
    (bodies : ∀ children ∈ root.childLists, IsBody children)
    (chosen : ∀ fallback, root ≠ choice [] fallback)
    (plural : ∀ children, root = mixed children → 2 ≤ children.length) : root.IsNormal := by
  have body {node : Node} {children : List Node} (occurs : node.OccursIn root)
      (listed : children ∈ node.childLists) : IsBody children := by
    by_cases same : node = root
    · rw [same] at listed
      exact bodies children listed
    · exact (inner node occurs same).isBody listed
  refine ⟨?_, fun occurs listed => (body occurs listed).separate,
    fun occurs listed => (body occurs listed).mixed_not_mem, plural⟩
  intro fallback occurs
  cases inner _ occurs (chosen fallback).symm with
  | intro _ some _ _ => exact some fallback rfl

theorem IsInner.isNormal (inner : root.IsInner) : root.IsNormal := by
  apply isNormal_of_inner
  · intro node occurs _
    exact inner.of_occursIn occurs
  · intro children listed
    exact inner.isBody listed
  · rintro fallback rfl
    cases inner with
    | intro _ chosen _ _ => exact chosen fallback rfl
  · rintro children rfl
    cases inner with
    | intro unmixed _ _ _ => exact absurd rfl (unmixed children)

theorem IsBody.isNormal_mixed (body : IsBody children) (plural : 2 ≤ children.length) :
    (mixed children).IsNormal := by
  apply isNormal_of_inner
  · intro node occurs other
    cases occurs with
    | here => exact absurd rfl other
    | inside listed member occurs =>
        rw [childLists, List.mem_singleton] at listed
        subst listed
        exact (body.inner _ member).of_occursIn occurs
  · simpa [childLists] using body
  · simp
  · intro more same
    cases same
    exact plural

theorem IsBody.isNormal_sequence (body : IsBody children) : (sequence children).IsNormal := by
  match children with
  | [] => exact (isInner_text "").isNormal
  | [child] => exact (body.inner child List.mem_cons_self).isNormal
  | _ :: _ :: _ => exact body.isNormal_mixed (by simp)

/-- A root tells the body it was made of. -/
theorem IsBody.eq_of_sequence {others : List Node} (body : IsBody children) (other : IsBody others)
    (same : sequence children = sequence others) : children = others := by
  have filled := body.separate.filled
  have filledOther := other.separate.filled
  have unmixed := body.mixed_not_mem
  have unmixedOther := other.mixed_not_mem
  match children, others with
  | [], [] => rfl
  | [], [child] => simp_all [sequence]
  | [child], [] => simp_all [sequence]
  | [child], [other] => simp_all [sequence]
  | [], _ :: _ :: _ => simp [sequence] at same
  | _ :: _ :: _, [] => simp [sequence] at same
  | [child], _ :: _ :: _ => simp_all [sequence]
  | _ :: _ :: _, [child] => simp_all [sequence]
  | _ :: _ :: _, _ :: _ :: _ => simpa [sequence] using same

theorem isBody_scan (content : String) : IsBody (scan content) :=
  ⟨areSeparate_scan content, fun _ => isInner_of_mem_scan⟩

end SqlMapper.Node
