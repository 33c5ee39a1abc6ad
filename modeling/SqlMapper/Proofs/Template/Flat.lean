import SqlMapper.Generated.FromTemplate
import SqlMapper.Generated.Source
import SqlMapper.Proofs.Include.Resolution
import SqlMapper.Proofs.Render.Composition

/-!
# Flat trees

A fragment stands as a plain sequence where it was included.  In the flat form of a tree the children of
such a sequence stand in its place, so that a plain sequence is the root or nowhere.  The flat form
renders to the same, and the same function is generated for it: a plain sequence is no scope of its own.
-/

namespace SqlMapper

namespace Node

/-- The nodes for a tree among others: the children of a plain sequence, or the tree itself. -/
def spread : Node → List Node
  | .mixed children => children
  | node => [node]

mutual

/-- The tree with the children of every plain sequence below it in the place of the sequence. -/
def flat : Node → Node
  | .condition test children => .condition test (flatAll children)
  | .choice branches none => .choice (flatBranches branches) none
  | .choice branches (some children) => .choice (flatBranches branches) (some (flatAll children))
  | .clause kind children => .clause kind (flatAll children)
  | .loop header children => .loop header (flatAll children)
  | .mixed children => .mixed (flatAll children)
  | .text content => .text content
  | .parameter name raw => .parameter name raw
  | .bind name value => .bind name value
  | .reference fragment => .reference fragment

/-- Children, with those of plain sequences among them in the place of the sequences. -/
def flatAll : List Node → List Node
  | [] => []
  | node :: rest => node.flat.spread ++ flatAll rest

def flatBranches : List (String × List Node) → List (String × List Node)
  | [] => []
  | (test, children) :: rest => (test, flatAll children) :: flatBranches rest

end

/-- Whether no plain sequence stands in a list of children. -/
def IsFlat (root : Node) : Prop :=
  ∀ (node : Node) (children : List Node), node.OccursIn root → children ∈ node.childLists →
    ∀ inner, mixed inner ∉ children

/-- Whether no plain sequence stands among nodes or below them. -/
structure AreFlat (nodes : List Node) : Prop where
  unmixed : ∀ inner, mixed inner ∉ nodes
  below : ∀ node ∈ nodes, node.IsFlat

variable {node : Node} {nodes more : List Node}

theorem areFlat_nil : AreFlat [] :=
  ⟨by simp, by simp⟩

theorem AreFlat.append (first : AreFlat nodes) (second : AreFlat more) : AreFlat (nodes ++ more) where
  unmixed := by
    intro inner member
    rcases List.mem_append.1 member with early | late
    · exact first.unmixed inner early
    · exact second.unmixed inner late
  below := List.forall_mem_append.2 ⟨first.below, second.below⟩

theorem IsFlat.of_childLists (lists : ∀ children ∈ node.childLists, AreFlat children) :
    node.IsFlat := by
  intro found children occurs listed
  cases occurs with
  | here => exact (lists children listed).unmixed
  | inside outer member occurs => exact (lists _ outer).below _ member found children occurs listed

theorem IsFlat.areFlat (flat : node.IsFlat) : ∀ children ∈ node.childLists, AreFlat children := by
  intro children listed
  refine ⟨flat node children .here listed, ?_⟩
  intro child member found inside occurs
  exact flat found inside (.inside listed member occurs)

theorem IsFlat.spread (flat : node.IsFlat) : AreFlat node.spread := by
  cases node with
  | mixed children => exact flat.areFlat children List.mem_cons_self
  | _ => exact ⟨by simp [Node.spread], List.forall_mem_singleton.2 flat⟩

mutual

theorem isFlat_flat : (node : Node) → node.flat.IsFlat
  | .condition _ children | .clause _ children | .loop _ children | .mixed children => by
      apply IsFlat.of_childLists
      exact List.forall_mem_singleton.2 (areFlat_flatAll children)
  | .choice branches none => by
      apply IsFlat.of_childLists
      simpa [flat, childLists] using areFlat_flatBranches branches
  | .choice branches (some children) => by
      apply IsFlat.of_childLists
      refine List.forall_mem_append.2 ⟨?_, List.forall_mem_singleton.2 (areFlat_flatAll children)⟩
      simpa using areFlat_flatBranches branches
  | .text _ | .parameter _ _ | .bind _ _ | .reference _ => .of_childLists (List.forall_mem_nil _)

theorem areFlat_flatAll : (nodes : List Node) → AreFlat (flatAll nodes)
  | [] => areFlat_nil
  | node :: rest => (isFlat_flat node).spread.append (areFlat_flatAll rest)

theorem areFlat_flatBranches : (branches : List (String × List Node)) →
    ∀ children test, (test, children) ∈ flatBranches branches → AreFlat children
  | [], _, _, member => by cases member
  | (test, children) :: rest, _, _, member => by
      rcases List.mem_cons.1 member with first | later
      · cases first
        exact areFlat_flatAll children
      · exact areFlat_flatBranches rest _ _ later

end

end Node

open Node (flatAll flatBranches)

/-! ### Rendering -/

namespace RenderContext

variable (context : RenderContext)

theorem renderAll_spread (state : RenderState) (node : Node) :
    context.renderAll state node.spread = context.render state node := by
  cases node with
  | mixed children => rfl
  | _ => simp only [Node.spread, renderAll, String.append_empty]

mutual

/-- A tree and its flat form render to the same and leave the same behind. -/
theorem render_flat (state : RenderState) : (node : Node) →
    context.render state node.flat = context.render state node
  | .text _ | .parameter _ _ | .bind _ _ | .reference _ => rfl
  | .condition test children => by simp only [Node.flat, render, renderAll_flatAll _ children]
  | .choice branches none => by simp only [Node.flat, render, renderBranches_flatBranches _ branches]
  | .choice branches (some children) => by
      simp only [Node.flat, render, renderBranches_flatBranches _ branches,
        renderAll_flatAll _ children]
  | .clause kind children => by simp only [Node.flat, render, renderAll_flatAll _ children]
  | .loop header children => by simp only [Node.flat, render, renderAll_flatAll _ children]
  | .mixed children => renderAll_flatAll state children
termination_by structural node => node

theorem renderAll_flatAll (state : RenderState) : (nodes : List Node) →
    context.renderAll state (flatAll nodes) = context.renderAll state nodes
  | [] => rfl
  | node :: rest => by
      simp only [flatAll, renderAll_append, renderAll_spread, renderAll, render_flat _ node,
        renderAll_flatAll _ rest]
termination_by structural nodes => nodes

theorem renderBranches_flatBranches (state : RenderState) : (branches : List (String × List Node)) →
    context.renderBranches state (flatBranches branches) = context.renderBranches state branches
  | [] => rfl
  | (test, children) :: rest => by
      simp only [flatBranches, renderBranches, renderAll_flatAll _ children,
        renderBranches_flatBranches _ rest]
termination_by structural branches => branches

end

end RenderContext

/-! ### Generated functions -/

namespace Generated

variable (trusts : String → Bool)

theorem generateAll_append (buffer : Buffer) (state : Generation) (first second : List Node) :
    generateAll trusts buffer state (first ++ second) =
      let front := generateAll trusts buffer state first
      let back := generateAll trusts buffer front.2 second
      (front.1 ++ back.1, back.2) := by
  induction first generalizing state with
  | nil => simp only [List.nil_append, generateAll]
  | cons node rest ih => simp only [List.cons_append, generateAll, ih, List.append_assoc]

theorem generateAll_spread (buffer : Buffer) (state : Generation) (node : Node) :
    generateAll trusts buffer state node.spread = generate trusts buffer state node := by
  cases node with
  | mixed children => rfl
  | _ => simp only [Node.spread, generateAll, List.append_nil]

mutual

/-- The same steps are generated for a tree and its flat form, and the same numbers are taken. -/
theorem generate_flat (buffer : Buffer) (state : Generation) : (node : Node) →
    generate trusts buffer state node.flat = generate trusts buffer state node
  | .text _ | .parameter _ _ | .bind _ _ | .reference _ => rfl
  | .condition test children => by simp only [Node.flat, generate, generateAll_flatAll _ _ children]
  | .choice branches none => by
      simp only [Node.flat, generate, generateBranches_flatBranches _ _ branches]
  | .choice branches (some children) => by
      simp only [Node.flat, generate, generateBranches_flatBranches _ _ branches,
        generateAll_flatAll _ _ children]
  | .clause kind children => by simp only [Node.flat, generate, generateAll_flatAll _ _ children]
  | .loop header children => by simp only [Node.flat, generate, generateAll_flatAll _ _ children]
  | .mixed children => generateAll_flatAll buffer state children
termination_by structural node => node

theorem generateAll_flatAll (buffer : Buffer) (state : Generation) : (nodes : List Node) →
    generateAll trusts buffer state (flatAll nodes) = generateAll trusts buffer state nodes
  | [] => rfl
  | node :: rest => by
      simp only [flatAll, generateAll_append, generateAll_spread, generateAll, generate_flat _ _ node,
        generateAll_flatAll _ _ rest]
termination_by structural nodes => nodes

theorem generateBranches_flatBranches (buffer : Buffer) (state : Generation) :
    (branches : List (String × List Node)) →
    generateBranches trusts buffer state (flatBranches branches) =
      generateBranches trusts buffer state branches
  | [] => rfl
  | (test, children) :: rest => by
      simp only [flatBranches, generateBranches, generateAll_flatAll _ _ children,
        generateBranches_flatBranches _ _ rest]
termination_by structural branches => branches

end

/-- No plain sequence is left below the root of a flat form, and nothing else tells it from the tree: from
the same caches both render to the same SQL with the same parameters, and the functions that are generated
for them have the same source. -/
theorem flat_alike (root : Node) :
    root.flat.IsFlat ∧
      (∀ (context : RenderContext) (members : MemberCache) (expressions : ExpressionCache),
        root.flat.render context members expressions = root.render context members expressions) ∧
      ∀ (config : Config) (mapper : Mapper) (name : String) (statement : Statement) (depth : Nat),
        Line.renderAll depth (ofStatement config mapper name { statement with root := root.flat }).lines =
          Line.renderAll depth (ofStatement config mapper name { statement with root }).lines := by
  refine ⟨Node.isFlat_flat root, ?_, ?_⟩
  · intro context members expressions
    simp only [Node.render, RenderContext.render_flat]
  · intro config mapper name statement depth
    simp only [ofStatement, generate_flat]

end Generated

end SqlMapper
