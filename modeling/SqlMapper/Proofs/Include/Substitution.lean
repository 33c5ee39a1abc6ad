import SqlMapper.Proofs.Include.Cycle
import SqlMapper.Proofs.Include.Expansion

/-!
# Resolving without circles

Where no fragment leads back to itself, the path on which a reference is met plays no part: no
fragment on it can be met again.  A reference then stands everywhere for the same tree, which is the
resolved tree of its fragment, and resolving is substituting these trees.
-/

namespace SqlMapper

namespace Node

mutual

/-- Whether a tree is another one with a replacement in the place of every reference and nothing else
changed. -/
inductive Substituted (replacement : String → Node) : Node → Node → Prop
  | reference (fragment : String) :
      Substituted replacement (.reference fragment) (replacement fragment)
  | text (content : String) : Substituted replacement (.text content) (.text content)
  | parameter (name : String) (raw : Bool) :
      Substituted replacement (.parameter name raw) (.parameter name raw)
  | bind (name value : String) : Substituted replacement (.bind name value) (.bind name value)
  | condition (test : String) {children others : List Node}
      (inside : List.Forall₂ (Substituted replacement) children others) :
      Substituted replacement (.condition test children) (.condition test others)
  | choice {branches otherBranches : List (String × List Node)}
      {fallback otherFallback : Option (List Node)}
      (inside : List.Forall₂ (SubstitutedBranch replacement) branches otherBranches)
      (last : Option.Rel (List.Forall₂ (Substituted replacement)) fallback otherFallback) :
      Substituted replacement (.choice branches fallback) (.choice otherBranches otherFallback)
  | clause (kind : Clause) {children others : List Node}
      (inside : List.Forall₂ (Substituted replacement) children others) :
      Substituted replacement (.clause kind children) (.clause kind others)
  | loop (header : Loop) {children others : List Node}
      (inside : List.Forall₂ (Substituted replacement) children others) :
      Substituted replacement (.loop header children) (.loop header others)
  | mixed {children others : List Node}
      (inside : List.Forall₂ (Substituted replacement) children others) :
      Substituted replacement (.mixed children) (.mixed others)

inductive SubstitutedBranch (replacement : String → Node) :
    String × List Node → String × List Node → Prop
  | intro (test : String) {children others : List Node}
      (inside : List.Forall₂ (Substituted replacement) children others) :
      SubstitutedBranch replacement (test, children) (test, others)

end

mutual

theorem substituted_replaceReferences (replacement : String → Node) : (node : Node) →
    node.Substituted replacement (node.replaceReferences replacement)
  | .reference fragment => .reference fragment
  | .text content => .text content
  | .parameter name raw => .parameter name raw
  | .bind name value => .bind name value
  | .condition test children => .condition test (substituted_replaceInAll replacement children)
  | .choice branches none => .choice (substituted_replaceInBranches replacement branches) .none
  | .choice branches (some children) =>
      .choice (substituted_replaceInBranches replacement branches)
        (.some (substituted_replaceInAll replacement children))
  | .clause kind children => .clause kind (substituted_replaceInAll replacement children)
  | .loop header children => .loop header (substituted_replaceInAll replacement children)
  | .mixed children => .mixed (substituted_replaceInAll replacement children)

theorem substituted_replaceInAll (replacement : String → Node) : (nodes : List Node) →
    List.Forall₂ (Substituted replacement) nodes (replaceInAll replacement nodes)
  | [] => .nil
  | node :: rest =>
      .cons (substituted_replaceReferences replacement node)
        (substituted_replaceInAll replacement rest)

theorem substituted_replaceInBranches (replacement : String → Node) :
    (branches : List (String × List Node)) →
    List.Forall₂ (SubstitutedBranch replacement) branches (replaceInBranches replacement branches)
  | [] => .nil
  | (test, children) :: rest =>
      .cons (.intro test (substituted_replaceInAll replacement children))
        (substituted_replaceInBranches replacement rest)

end

section Congruence

variable {replacement other : String → Node}

mutual

theorem replaceReferences_congr : (node : Node) →
    (∀ id, Event.reference id ∈ node.events → replacement id = other id) →
      node.replaceReferences replacement = node.replaceReferences other
  | .reference fragment, agree => agree fragment List.mem_cons_self
  | .text _, _ => rfl
  | .parameter _ _, _ => rfl
  | .bind _ _, _ => rfl
  | .condition test children, agree => by
      have inside := replaceInAll_congr children fun id member =>
        agree id (List.mem_cons_of_mem _ member)
      simp only [replaceReferences, inside]
  | .choice branches none, agree => by
      simp only [replaceReferences, replaceInBranches_congr branches agree]
  | .choice branches (some children), agree => by
      simp only [events, List.mem_append, or_imp, forall_and] at agree
      simp only [replaceReferences, replaceInBranches_congr branches agree.1,
        replaceInAll_congr children agree.2]
  | .clause kind children, agree => by
      simp only [replaceReferences, replaceInAll_congr children agree]
  | .loop header children, agree => by
      simp only [replaceReferences, replaceInAll_congr children agree]
  | .mixed children, agree => by
      simp only [replaceReferences, replaceInAll_congr children agree]

theorem replaceInAll_congr : (nodes : List Node) →
    (∀ id, Event.reference id ∈ eventsOfAll nodes → replacement id = other id) →
      replaceInAll replacement nodes = replaceInAll other nodes
  | [], _ => rfl
  | node :: rest, agree => by
      simp only [eventsOfAll, List.mem_append, or_imp, forall_and] at agree
      simp only [replaceInAll, replaceReferences_congr node agree.1,
        replaceInAll_congr rest agree.2]

theorem replaceInBranches_congr : (branches : List (String × List Node)) →
    (∀ id, Event.reference id ∈ eventsOfBranches branches → replacement id = other id) →
      replaceInBranches replacement branches = replaceInBranches other branches
  | [], _ => rfl
  | (test, children) :: rest, agree => by
      simp only [eventsOfBranches, List.cons_append, List.mem_cons, List.mem_append, reduceCtorEq,
        false_or, or_imp, forall_and] at agree
      simp only [replaceInBranches, replaceInAll_congr children agree.1,
        replaceInBranches_congr rest agree.2]

end

end Congruence

end Node

namespace Mapper

variable {mapper : Mapper} {path other : List String} {id target : String}

/-- Whether the first declaration of a fragment has a reference to an id, declared or not. -/
def Mentions (mapper : Mapper) (id target : String) : Prop :=
  ∃ fragment, mapper.fragment? id = some fragment ∧ fragment.root.RefersTo target

/-- A way of references from a fragment to a declared one passes declared fragments only. -/
theorem transGen_refers_of_mentions (leads : Relation.TransGen mapper.Mentions id target)
    (declared : ∃ fragment, mapper.fragment? target = some fragment) :
    Relation.TransGen mapper.Refers id target := by
  induction leads with
  | single mentions => exact .single ⟨mentions, declared⟩
  | tail _ mentions ih =>
      rcases mentions with ⟨fragment, found, member⟩
      exact (ih ⟨fragment, found⟩).tail ⟨⟨fragment, found, member⟩, declared⟩

theorem not_mentions_back (acyclic : ∀ id, ¬Relation.TransGen mapper.Refers id id)
    (mentions : mapper.Mentions id target) :
    ¬Relation.ReflTransGen mapper.Mentions target id := by
  intro back
  rcases mentions with ⟨fragment, found, member⟩
  apply acyclic id
  apply transGen_refers_of_mentions _ ⟨fragment, found⟩
  exact .head' ⟨fragment, found, member⟩ back

/-- A reference that does not lead back to any path it is met on has the same expansion on all. -/
theorem expand_eq_expand (acyclic : ∀ id, ¬Relation.TransGen mapper.Refers id id)
    (avoids : ∀ visited ∈ path, ¬Relation.ReflTransGen mapper.Mentions id visited)
    (avoidsOther : ∀ visited ∈ other, ¬Relation.ReflTransGen mapper.Mentions id visited) :
    mapper.expand path id = mapper.expand other id := by
  induction path, id using expand.induct mapper generalizing other with
  | case1 path id met => exact absurd .refl (avoids id met)
  | case2 path id fresh undeclared =>
      have freshOther : id ∉ other := fun met => avoidsOther id met .refl
      rw [expand_of_undeclared fresh undeclared, expand_of_undeclared freshOther undeclared]
  | case3 path id fresh fragment declared ih =>
      have freshOther : id ∉ other := fun met => avoidsOther id met .refl
      rw [expand_of_declared fresh declared, expand_of_declared freshOther declared]
      apply Node.replaceReferences_congr
      intro inner reference
      have mentions : mapper.Mentions id inner :=
        ⟨fragment, declared, Node.refersTo_iff.2 reference⟩
      -- What a fragment refers to leads neither to what the fragment does not lead to nor back.
      have avoidsInside {visitedBefore : List String}
          (avoidsBefore : ∀ visited ∈ visitedBefore,
            ¬Relation.ReflTransGen mapper.Mentions id visited) :
          ∀ visited ∈ id :: visitedBefore,
            ¬Relation.ReflTransGen mapper.Mentions inner visited := by
        intro visited member leads
        rcases List.mem_cons.1 member with rfl | before
        · exact not_mentions_back acyclic mentions leads
        · exact avoidsBefore visited before (.head mentions leads)
      exact ih inner (avoidsInside avoids) (avoidsInside avoidsOther)

/-- The tree that a reference stands for: the tree of the fragment it names, or a comment if there is
none. -/
def standIn (mapper : Mapper) (id : String) : Node :=
  match mapper.fragment? id with
  | some fragment => fragment.root
  | none => .text (Include.unresolvedMarker id)

theorem fragment?_eq_of_mem {fragment : Fragment}
    (distinct : (mapper.fragments.map (·.id)).Nodup) (member : fragment ∈ mapper.fragments) :
    mapper.fragment? fragment.id = some fragment := by
  rcases mem_fragmentIds_iff_declared.1 (mem_fragmentIds.2 ⟨fragment, member, rfl⟩)
    with ⟨first, found⟩
  have same : first.id = fragment.id := by simpa using List.find?_some found
  rw [found, List.inj_on_of_nodup_map distinct (List.mem_of_find?_eq_some found) member same]

theorem fragment?_resolved : mapper.resolved.fragment? id =
    (mapper.fragment? id).map fun fragment =>
      { fragment with root := mapper.resolveNode [fragment.id] fragment.root } := by
  simp only [fragment?, resolved, List.find?_map]
  rfl

theorem standIn_resolved (mapper : Mapper) : mapper.resolved.standIn = mapper.expand [] := by
  funext id
  unfold standIn
  rw [fragment?_resolved]
  cases found : mapper.fragment? id with
  | none => exact (expand_of_undeclared List.not_mem_nil found).symm
  | some fragment =>
      have same : fragment.id = id := by simpa using List.find?_some found
      rw [expand_of_declared List.not_mem_nil found, ← same]
      rfl

/-- If no fragment leads back to itself, resolving a mapper puts in the place of each reference the
tree that the fragment it names has in the resolved mapper, or a comment if there is no such fragment.
Everything else stays, in its order. -/
theorem resolved_substituted (mapper : Mapper) (distinct : (mapper.fragments.map (·.id)).Nodup)
    (acyclic : ∀ id, ¬Relation.TransGen mapper.Refers id id) :
    mapper.resolved.nameSpace = mapper.nameSpace ∧
      List.Forall₂ (fun declared resolved =>
          declared.root.Substituted mapper.resolved.standIn resolved.root ∧
            resolved = { declared with root := resolved.root })
        mapper.statements mapper.resolved.statements ∧
      List.Forall₂ (fun declared resolved =>
          declared.root.Substituted mapper.resolved.standIn resolved.root ∧
            resolved = { declared with root := resolved.root })
        mapper.fragments mapper.resolved.fragments := by
  rw [standIn_resolved]
  refine ⟨rfl, ?_, ?_⟩
  · rw [resolved, List.forall₂_map_right_iff, List.forall₂_same]
    intro statement _
    exact ⟨Node.substituted_replaceReferences _ statement.root, rfl⟩
  · rw [resolved, List.forall₂_map_right_iff, List.forall₂_same]
    intro fragment member
    refine ⟨?_, rfl⟩
    have pathless : mapper.resolveNode [fragment.id] fragment.root =
        fragment.root.replaceReferences (mapper.expand []) := by
      apply Node.replaceReferences_congr
      intro id reference
      apply expand_eq_expand acyclic _ fun _ inside => absurd inside List.not_mem_nil
      intro visited onPath
      rw [List.mem_singleton.1 onPath]
      exact not_mentions_back acyclic
        ⟨fragment, fragment?_eq_of_mem distinct member, Node.refersTo_iff.2 reference⟩
    rw [pathless]
    exact Node.substituted_replaceReferences _ fragment.root

/-- There are no circles if every fragment refers to fragments of a lower rank only. -/
theorem not_transGen_of_rank_lt (rank : String → Nat)
    (lower : ∀ fragment ∈ mapper.fragments, ∀ target ∈ fragment.root.references,
      rank target < rank fragment.id) (id : String) :
    ¬Relation.TransGen mapper.Refers id id := by
  have step {outer inner : String} (refers : mapper.Refers outer inner) :
      rank inner < rank outer := by
    rcases refers.1 with ⟨fragment, found, member⟩
    have same : fragment.id = outer := by simpa using List.find?_some found
    rw [← same]
    exact lower fragment (List.mem_of_find?_eq_some found) inner (Node.mem_references.2 member)
  intro circle
  have less {first last : String} (leads : Relation.TransGen mapper.Refers first last) :
      rank last < rank first := by
    induction leads with
    | single refers => exact step refers
    | tail _ refers ih => exact Nat.lt_trans (step refers) ih
  exact Nat.lt_irrefl _ (less circle)

section Shared

/-- A mapper in which two fragments share a third one and a fourth refers to both. -/
def sharedMapper : Mapper where
  nameSpace := "orders"
  fragments := [
    { id := "columns", root := .text "id, total" },
    { id := "recent", root := .condition "recent" [.text " LIMIT ", .reference "columns"] },
    { id := "paid", root := .mixed [.reference "columns", .text " AND paid"] },
    { id := "all", root := .clause .whereClause
        [.reference "paid", .reference "recent", .reference "unknown"] }]
  statements := [{ id := "find", root := .mixed [.text "SELECT ", .reference "all"] }]

theorem resolved_substituted_shared :
    (sharedMapper.fragments.map (·.id)).Nodup ∧
      (∀ id, ¬Relation.TransGen sharedMapper.Refers id id) ∧
      List.Forall₂ (fun declared resolved =>
          declared.root.Substituted sharedMapper.resolved.standIn resolved.root ∧
            resolved = { declared with root := resolved.root })
        sharedMapper.fragments sharedMapper.resolved.fragments := by
  have distinct : (sharedMapper.fragments.map (·.id)).Nodup := by decide
  have acyclic : ∀ id, ¬Relation.TransGen sharedMapper.Refers id id :=
    not_transGen_of_rank_lt (["unknown", "columns", "recent", "paid", "all"].idxOf ·) (by decide)
  exact ⟨distinct, acyclic, (resolved_substituted sharedMapper distinct acyclic).2.2⟩

end Shared

end Mapper

end SqlMapper
