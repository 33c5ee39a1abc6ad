import SqlMapper.Proofs.Render.Lockstep

/-!
# Renderings one after the other

Rendering a tree pushes the names that the tree binds for what follows it, and nothing else: whatever
is bound inside a directive is cut off at the end of it.  Nodes that bind nothing for what follows them
therefore leave the scope as it was, and what stands behind them renders as it would alone.
-/

namespace SqlMapper

/-! ### Scopes -/

namespace Node

mutual

/-- The names that a tree binds for what follows it in the same scope. -/
def boundNames : Node → List String
  | .bind name _ => [name]
  | .mixed children => boundNamesOfAll children
  | .text _ | .parameter _ _ | .reference _ | .condition _ _ | .choice _ _ | .clause _ _
  | .loop _ _ => []

def boundNamesOfAll : List Node → List String
  | [] => []
  | node :: rest => node.boundNames ++ boundNamesOfAll rest

end

end Node

namespace Scope

variable {α : Type} {names more : List String} {before middle after : Scope α}

/-- Whether a scope is another one with names bound on top of it. -/
def Pushes (names : List String) (before after : Scope α) : Prop :=
  ∃ bound, after.entries = bound ++ before.entries ∧ bound.map (·.1) = names.reverse

namespace Pushes

theorem of_eq (same : after = before) : Pushes [] before after :=
  ⟨[], congrArg Scope.entries same, rfl⟩

theorem push (scope : Scope α) (name : String) (thing : α) :
    Pushes [name] scope (scope.push name thing) :=
  ⟨[(name, thing)], rfl, rfl⟩

theorem trans (first : Pushes names before middle) (next : Pushes more middle after) :
    Pushes (names ++ more) before after := by
  rcases first with ⟨bound, entries, bound_names⟩
  rcases next with ⟨boundNext, entriesNext, boundNext_names⟩
  refine ⟨boundNext ++ bound, ?_, ?_⟩
  · rw [entriesNext, entries, List.append_assoc]
  · rw [List.map_append, List.reverse_append, bound_names, boundNext_names]

/-- Cutting a scope back to the size that it had undoes what was pushed since. -/
theorem truncate (pushes : Pushes names before after) : after.truncate before.size = before := by
  rcases pushes with ⟨bound, entries, _⟩
  have pushed : after.size - before.size = bound.length := by
    simp only [size, entries, List.length_append]
    omega
  rw [Scope.truncate, pushed, entries, List.drop_left]

end Pushes

end Scope

namespace RenderContext

variable (context : RenderContext)

theorem scope_holds (state : RenderState) (test : String) :
    (context.holds state test).2.scope = state.scope := rfl

theorem scope_forItems (header : Loop) (body : RenderState → String × RenderState) (index : Nat)
    (state : RenderState) (items : List Value) :
    (forItems header body index state items).2.scope = state.scope := by
  induction items generalizing index state with
  | nil => rfl
  | cons item rest ih => exact ih (index + 1) _

theorem scope_renderBranches (state : RenderState) (branches : List (String × List Node)) :
    (context.renderBranches state branches).2.scope = state.scope := by
  induction branches generalizing state with
  | nil => rfl
  | cons branch rest ih =>
      rcases branch with ⟨test, children⟩
      have sameTest := context.scope_holds state test
      simp only [renderBranches]
      generalize context.holds state test = outcome at *
      rcases outcome with ⟨_ | _, next⟩
      · exact (ih next).trans sameTest
      · exact sameTest

mutual

theorem pushes_render (state : RenderState) : (node : Node) →
    Scope.Pushes node.boundNames state.scope (context.render state node).2.scope
  | .text _ | .parameter _ false | .parameter _ true | .reference _ => .of_eq rfl
  | .condition test children => by
      have sameTest := context.scope_holds state test
      simp only [render, Node.boundNames]
      generalize context.holds state test = outcome at *
      rcases outcome with ⟨_ | _, next⟩
      · exact .of_eq sameTest
      · exact .of_eq sameTest
  | .choice branches none => by
      have sameBranches := context.scope_renderBranches state branches
      simp only [render, Node.boundNames]
      generalize context.renderBranches state branches = outcome at *
      rcases outcome with ⟨_ | _, next⟩
      · exact .of_eq sameBranches
      · exact .of_eq sameBranches
  | .choice branches (some children) => by
      have sameBranches := context.scope_renderBranches state branches
      simp only [render, Node.boundNames]
      generalize context.renderBranches state branches = outcome at *
      rcases outcome with ⟨_ | _, next⟩
      · exact .of_eq sameBranches
      · exact .of_eq sameBranches
  | .clause kind children => .of_eq rfl
  | .loop header children => by
      simp only [render, Node.boundNames]
      split
      · exact .of_eq rfl
      · exact .of_eq (scope_forItems header _ 0 _ _)
  | .bind name value => .push _ name _
  | .mixed children => pushes_renderAll state children
termination_by structural node => node

theorem pushes_renderAll (state : RenderState) : (nodes : List Node) →
    Scope.Pushes (Node.boundNamesOfAll nodes) state.scope (context.renderAll state nodes).2.scope
  | [] => .of_eq rfl
  | node :: rest => (pushes_render state node).trans (pushes_renderAll _ rest)
termination_by structural nodes => nodes

end

theorem pushes_enterItem (header : Loop) (index : Nat) (item : Value) (state : RenderState) :
    Scope.Pushes (header.item :: header.index.toList) state.scope
      (enterItem header index item state).scope := by
  have entered := Scope.Pushes.push state.scope header.item item
  simp only [enterItem, bindIndex]
  cases header.index with
  | none => exact entered
  | some name => exact entered.trans (.push _ name _)

/-- A directive may go back to the scope around it by the size that this scope had. -/
theorem leave_renderAll (state : RenderState) (children : List Node) :
    let inner := (context.renderAll state children).2
    leave state inner = { inner with scope := inner.scope.truncate state.scope.size } := by
  intro inner
  rw [leave, (context.pushes_renderAll state children).truncate]

/-- So may a pass of a loop, which has bound its item as well. -/
theorem leave_pass (header : Loop) (index : Nat) (item : Value) (state : RenderState)
    (children : List Node) :
    let inner := (context.renderAll (enterItem header index item state) children).2
    leave state inner = { inner with scope := inner.scope.truncate state.scope.size } := by
  intro inner
  have pass := (pushes_enterItem header index item state).trans
    (context.pushes_renderAll _ children)
  rw [leave, pass.truncate]

theorem renderAll_append (state : RenderState) (first second : List Node) :
    context.renderAll state (first ++ second) =
      let front := context.renderAll state first
      let back := context.renderAll front.2 second
      (front.1 ++ back.1, back.2) := by
  induction first generalizing state with
  | nil => simp only [List.nil_append, renderAll, String.empty_append]
  | cons node rest ih => simp only [List.cons_append, renderAll, ih, String.append_assoc]

end RenderContext

/-! ### Parameters -/

namespace BoundParameter

end BoundParameter

namespace RenderContext

variable {context : RenderContext} {layout : Layout}

end RenderContext

section Catalog

end Catalog

end SqlMapper
