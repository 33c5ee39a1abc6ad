import SqlMapper.Proofs.Include.Resolution
import SqlMapper.Proofs.Include.Substitution

/-!
# Markers of circles

An expansion meets references on longer and longer paths and leaves a marker for one that is on its
path already.  A path is a chain of includes, so such a marker shows a closed chain.  The other way
round, an expansion that sets out from a fragment on a circle can follow the circle, none of whose
fragments is on the path before it is met, until it comes back.
-/

namespace SqlMapper

namespace Node

theorem replaceInAll_eq_map (replacement : String → Node) (nodes : List Node) :
    replaceInAll replacement nodes = nodes.map (replaceReferences replacement) := by
  induction nodes with
  | nil => rfl
  | cons node rest ih => simp [replaceInAll, ih]

theorem replaceInBranches_eq_map (replacement : String → Node)
    (branches : List (String × List Node)) :
    replaceInBranches replacement branches =
      branches.map fun branch => (branch.1, branch.2.map (replaceReferences replacement)) := by
  induction branches with
  | nil => rfl
  | cons branch rest ih => simp [replaceInBranches, replaceInAll_eq_map, ih]

/-- Replacing references in a tree that is no reference goes on in its children. -/
theorem childLists_replaceReferences {replacement : String → Node} {node : Node}
    (other : ∀ fragment, node ≠ .reference fragment) :
    (node.replaceReferences replacement).childLists =
      node.childLists.map (List.map (replaceReferences replacement)) := by
  cases node with
  | reference fragment => exact absurd rfl (other fragment)
  | choice branches fallback =>
      cases fallback <;>
        simp [replaceReferences, childLists, replaceInBranches_eq_map, replaceInAll_eq_map]
  | _ => simp [replaceReferences, childLists, replaceInAll_eq_map]

/-- What occurs in a tree occurs with its references replaced in the tree with references replaced. -/
theorem OccursIn.replaceReferences (replacement : String → Node) {inner outer : Node}
    (occurs : inner.OccursIn outer) :
    (inner.replaceReferences replacement).OccursIn (outer.replaceReferences replacement) := by
  induction occurs with
  | here => exact .here
  | @inside outer child children listed member _ ih =>
      have other (fragment : String) : outer ≠ .reference fragment := by
        rintro rfl
        cases listed
      apply OccursIn.inside _ (List.mem_map_of_mem member) ih
      rw [childLists_replaceReferences other]
      exact List.mem_map_of_mem listed

/-- A text in a tree with references replaced stood in the tree before or comes with a replacement. -/
theorem text_occursIn_replaceReferences {replacement : String → Node} {content : String}
    {root tree : Node} (same : root.replaceReferences replacement = tree)
    (occurs : (text content).OccursIn tree) :
    (text content).OccursIn root ∨
      ∃ fragment, root.RefersTo fragment ∧ (text content).OccursIn (replacement fragment) := by
  induction occurs generalizing root with
  | here =>
      cases root with
      | text other => exact .inl (same ▸ .here)
      | reference fragment =>
          exact .inr ⟨fragment, .here, same ▸ .here⟩
      | choice branches fallback => cases fallback <;> cases same
      | _ => cases same
  | @inside outer child children listed member occursChild ih =>
      by_cases isReference : ∃ fragment, root = .reference fragment
      · rcases isReference with ⟨fragment, rfl⟩
        refine .inr ⟨fragment, .here, ?_⟩
        rw [show replacement fragment = outer from same]
        exact .inside listed member occursChild
      · have other (fragment : String) : root ≠ .reference fragment :=
          fun equal => isReference ⟨fragment, equal⟩
        rw [← same, childLists_replaceReferences other] at listed
        rcases List.mem_map.1 listed with ⟨before, listedBefore, rfl⟩
        rcases List.mem_map.1 member with ⟨childBefore, memberBefore, sameChild⟩
        have below {inner : Node} (found : inner.OccursIn childBefore) : inner.OccursIn root :=
          .inside listedBefore memberBefore found
        rcases ih sameChild with kept | ⟨fragment, reference, found⟩
        · exact .inl (below kept)
        · exact .inr ⟨fragment, below reference, found⟩

/-- The replacement of a reference occurs in the tree with references replaced. -/
theorem occursIn_replaceReferences (replacement : String → Node) {fragment : String} {root : Node}
    (refers : root.RefersTo fragment) :
    (replacement fragment).OccursIn (root.replaceReferences replacement) :=
  OccursIn.replaceReferences replacement refers

theorem text_occursIn_text {content other : String} :
    (text content).OccursIn (.text other) ↔ content = other := by
  constructor
  · intro occurs
    cases occurs with
    | here => rfl
    | inside listed => cases listed
  · rintro rfl
    exact .here

end Node

namespace Mapper

variable {mapper : Mapper} {path later way chain : List String} {id target source content : String}

/-- Whether expanding a reference met on a path comes to expanding another one met on another path. -/
inductive Meets (mapper : Mapper) : List String → String → List String → String → Prop
  | here {path : List String} {id : String} : Meets mapper path id path id
  | inside {path later : List String} {id inner target : String} {outer : Fragment}
      (fresh : id ∉ path) (declared : mapper.fragment? id = some outer)
      (reference : outer.root.RefersTo inner)
      (meets : Meets mapper (id :: path) inner later target) : Meets mapper path id later target

/-- The chain for a reference that is on its path: the path from there on and back to it. -/
def circularChain (path : List String) (id : String) : List String :=
  id :: (path.takeWhile (· != id)).reverse ++ [id]

/-- Whether resolving a tree inside some fragments inserts the marker of a closed chain. -/
def InsertsCircle (mapper : Mapper) (path : List String) (root : Node) (chain : List String) : Prop :=
  ∃ reference, root.RefersTo reference ∧ ∃ later target,
    mapper.Meets path reference later target ∧ target ∈ later ∧ chain = circularChain later target

/-- Whether a reference met on a path brings a text into the tree by itself: as a marker, or as a text
of the fragment that it names. -/
inductive Brings (mapper : Mapper) (path : List String) (id content : String) : Prop
  | circular (met : id ∈ path) (marks : content = Include.circularMarker (circularChain path id))
  | unresolved (fresh : id ∉ path) (undeclared : mapper.fragment? id = none)
      (marks : content = Include.unresolvedMarker id)
  | fragment {fragment : Fragment} (fresh : id ∉ path)
      (declared : mapper.fragment? id = some fragment)
      (occurs : (Node.text content).OccursIn fragment.root)

theorem expand_of_met (met : id ∈ path) :
    mapper.expand path id = .text (Include.circularMarker (circularChain path id)) := by
  rw [expand, dif_pos met]
  rfl

theorem Meets.occursIn (meets : mapper.Meets path id later target) :
    (mapper.expand later target).OccursIn (mapper.expand path id) := by
  induction meets with
  | here => exact .here
  | inside fresh declared reference _ ih =>
      rw [expand_of_declared fresh declared]
      exact ih.trans (Node.occursIn_replaceReferences _ reference)

theorem Brings.occursIn (brings : mapper.Brings path id content) :
    (Node.text content).OccursIn (mapper.expand path id) := by
  cases brings with
  | circular met marks => exact expand_of_met met ▸ marks ▸ .here
  | unresolved fresh undeclared marks => exact expand_of_undeclared fresh undeclared ▸ marks ▸ .here
  | fragment fresh declared occurs =>
      rw [expand_of_declared fresh declared]
      exact occurs.replaceReferences _

/-- The texts of an expansion are those which the references that it meets bring. -/
theorem text_occursIn_expand : (Node.text content).OccursIn (mapper.expand path id) ↔
    ∃ later target, mapper.Meets path id later target ∧ mapper.Brings later target content := by
  constructor
  · intro occurs
    induction path, id using expand.induct mapper with
    | case1 path id met =>
        rw [expand_of_met met, Node.text_occursIn_text] at occurs
        exact ⟨path, id, .here, .circular met occurs⟩
    | case2 path id fresh undeclared =>
        rw [expand_of_undeclared fresh undeclared, Node.text_occursIn_text] at occurs
        exact ⟨path, id, .here, .unresolved fresh undeclared occurs⟩
    | case3 path id fresh fragment declared ih =>
        rw [expand_of_declared fresh declared] at occurs
        rcases Node.text_occursIn_replaceReferences rfl occurs with own | ⟨inner, reference, found⟩
        · exact ⟨path, id, .here, .fragment fresh declared own⟩
        · rcases ih inner found with ⟨later, target, meets, brings⟩
          exact ⟨later, target, .inside fresh declared reference meets, brings⟩
  · rintro ⟨later, target, meets, brings⟩
    exact brings.occursIn.trans meets.occursIn

/-- The texts of a resolved tree are its own and those which the references that resolving it meets
bring: besides the texts of fragments there are the markers, and nothing else. -/
theorem text_occursIn_resolveNode {root : Node} :
    (Node.text content).OccursIn (mapper.resolveNode path root) ↔
      (Node.text content).OccursIn root ∨ ∃ reference, root.RefersTo reference ∧ ∃ later target,
        mapper.Meets path reference later target ∧ mapper.Brings later target content := by
  constructor
  · intro occurs
    rcases Node.text_occursIn_replaceReferences rfl occurs with own | ⟨reference, member, found⟩
    · exact .inl own
    · exact .inr ⟨reference, member, text_occursIn_expand.1 found⟩
  · rintro (own | ⟨reference, member, found⟩)
    · exact own.replaceReferences (mapper.expand path)
    · apply (text_occursIn_expand.2 found).trans
      exact Node.occursIn_replaceReferences (mapper.expand path) member

theorem InsertsCircle.occursIn {root : Node} (inserts : mapper.InsertsCircle path root chain) :
    (Node.text (Include.circularMarker chain)).OccursIn (mapper.resolveNode path root) := by
  rcases inserts with ⟨reference, member, later, target, meets, met, rfl⟩
  exact text_occursIn_resolveNode.2
    (.inr ⟨reference, member, later, target, meets, .circular met rfl⟩)

theorem unresolvedMarker_ne_circularMarker (id : String) (chain : List String) :
    Include.unresolvedMarker id ≠ Include.circularMarker chain := by
  intro same
  have characters := congrArg String.toList same
  simp [Include.unresolvedMarker, Include.circularMarker, Include.comment] at characters

/-- A marker of a circle in a resolved tree comes with a reference that is on its path, unless a template
has it as text. -/
theorem insertsCircle_of_occursIn {root : Node} (declared : root ∈ mapper.roots)
    (occurs : (Node.text (Include.circularMarker chain)).OccursIn (mapper.resolveNode path root)) :
    (∃ root ∈ mapper.roots, (Node.text (Include.circularMarker chain)).OccursIn root) ∨
      ∃ closed, mapper.InsertsCircle path root closed ∧
        Include.circularMarker closed = Include.circularMarker chain := by
  rcases text_occursIn_resolveNode.1 occurs with own | ⟨reference, refers, later, target, meets, brings⟩
  · exact .inl ⟨root, declared, own⟩
  · cases brings with
    | circular met marks =>
        exact .inr ⟨_, ⟨reference, refers, later, target, meets, met, rfl⟩, marks.symm⟩
    | unresolved fresh undeclared marks =>
        exact absurd marks.symm (unresolvedMarker_ne_circularMarker target chain)
    | @fragment fragment fresh found inside =>
        have member := List.mem_of_find?_eq_some found
        exact .inl ⟨fragment.root, List.mem_append_right _ (List.mem_map_of_mem member), inside⟩

/-- Whether a reference is met at the end of a path that follows the includes. -/
structure IsTrail (mapper : Mapper) (path : List String) (id : String) : Prop where
  linked : path.IsChain fun later earlier => mapper.Refers earlier later
  ends : ∀ last ∈ path.head?, mapper.Mentions last id
  declared : ∀ visited ∈ path, ∃ fragment, mapper.fragment? visited = some fragment

theorem IsTrail.refers (isTrail : mapper.IsTrail path id)
    (declared : ∃ fragment, mapper.fragment? id = some fragment) :
    ∀ last ∈ path.head?, mapper.Refers last id :=
  fun last isLast => ⟨isTrail.ends last isLast, declared⟩

theorem IsTrail.inside {inner : String} {outer : Fragment} (isTrail : mapper.IsTrail path id)
    (declared : mapper.fragment? id = some outer) (reference : outer.root.RefersTo inner) :
    mapper.IsTrail (id :: path) inner := by
  refine ⟨List.isChain_cons.2 ⟨isTrail.refers ⟨outer, declared⟩, isTrail.linked⟩, ?_, ?_⟩
  · intro last isLast
    cases isLast
    exact ⟨outer, declared, reference⟩
  · exact List.forall_mem_cons.2 ⟨⟨outer, declared⟩, isTrail.declared⟩

theorem Meets.isTrail (meets : mapper.Meets path id later target)
    (isTrail : mapper.IsTrail path id) : mapper.IsTrail later target := by
  induction meets with
  | here => exact isTrail
  | inside _ declared reference _ ih => exact ih (isTrail.inside declared reference)

theorem circularChain_append {before below : List String} (absent : id ∉ before) :
    circularChain (before ++ id :: below) id = id :: before.reverse ++ [id] := by
  have passes : ∀ visited ∈ before, (visited != id) = true := by
    intro visited member
    rw [bne_iff_ne]
    rintro rfl
    exact absent member
  simp [circularChain, List.takeWhile_append_of_pos passes]

/-- The chain for a reference that is on a trail goes along includes of declared fragments. -/
theorem IsTrail.isChain_circularChain (isTrail : mapper.IsTrail path id) (met : id ∈ path) :
    (circularChain path id).IsChain mapper.Refers := by
  have refers := isTrail.refers (isTrail.declared id met)
  have linked := isTrail.linked
  rcases List.eq_append_cons_of_mem met with ⟨before, below, rfl, absent⟩
  rw [← List.singleton_append, ← List.append_assoc] at refers linked
  have upper := (List.isChain_append.1 linked).1
  have reversed : id :: before.reverse ++ [id] = (before ++ [id]).reverse ++ [id] := by simp
  rw [circularChain_append absent, reversed, List.isChain_append, List.isChain_reverse,
    List.getLast?_reverse]
  refine ⟨upper, .singleton id, ?_⟩
  intro last isLast next isNext
  cases isNext
  apply refers last
  rw [List.head?_append, isLast]
  rfl

/-- An expansion inside a fragment can follow a way through new fragments. -/
theorem exists_meets_of_isChain (linked : (source :: way ++ [target]).IsChain mapper.Refers)
    (nodup : way.Nodup) (fresh : List.Disjoint way path) :
    ∃ fragment, mapper.fragment? source = some fragment ∧
      ∃ reference, fragment.root.RefersTo reference ∧
        mapper.Meets path reference (way.reverse ++ path) target := by
  induction way generalizing source path with
  | nil =>
      rcases (List.isChain_cons_cons.1 linked).1 with ⟨⟨fragment, declared, reference⟩, _⟩
      exact ⟨fragment, declared, target, reference, .here⟩
  | cons next rest ih =>
      rw [List.nodup_cons] at nodup
      rw [List.disjoint_cons_left] at fresh
      rw [List.cons_append, List.cons_append, List.isChain_cons_cons] at linked
      rcases linked with ⟨⟨⟨fragment, declared, reference⟩, _⟩, linkedRest⟩
      have freshRest : List.Disjoint rest (next :: path) :=
        List.disjoint_cons_right.2 ⟨nodup.1, fresh.2⟩
      rcases ih linkedRest nodup.2 freshRest with ⟨inner, declaredInner, last, referenceLast, meets⟩
      refine ⟨fragment, declared, next, reference, ?_⟩
      rw [List.reverse_cons, List.append_assoc]
      exact .inside fresh.1 declaredInner referenceLast meets

/-- Resolving a fragment on a circle inserts the marker of the circle. -/
theorem IsRoundTrip.insertsCircle (isRoundTrip : mapper.IsRoundTrip source chain) :
    ∃ fragment, mapper.fragment? source = some fragment ∧
      mapper.InsertsCircle [source] fragment.root chain := by
  rcases isRoundTrip.closed with ⟨way, rfl, nodup⟩
  rw [List.nodup_cons] at nodup
  have fresh : List.Disjoint way [source] := by simpa using nodup.1
  rcases exists_meets_of_isChain isRoundTrip.linked nodup.2 fresh
    with ⟨fragment, declared, reference, member, meets⟩
  refine ⟨fragment, declared, reference, member, _, _, meets, by simp, ?_⟩
  rw [circularChain_append (by simpa using nodup.1), List.reverse_reverse]

end Mapper

end SqlMapper
