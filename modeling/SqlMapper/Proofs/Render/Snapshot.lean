import SqlMapper.Proofs.Member.Snapshot
import SqlMapper.Render

/-!
# Rendering against a snapshot

Rendering reads the parameter through paths only.  Two parameters in which every path leads to the same
value, whatever has been cached, therefore render to the same, and a snapshot is as good as its source.
-/

namespace SqlMapper

/-- Two parameters in which every path leads to the same value and leaves the same cache behind. -/
def Accessor.ReadsAs (left right : Accessor) : Prop :=
  ∀ (cache : MemberCache) (segments : List String),
    cache.resolvePath left segments = cache.resolvePath right segments

variable {left right : Accessor} {scope : Scope Value}

/-! ### Expressions -/

theorem Environment.resolve_congr (same : left.ReadsAs right) (cache : MemberCache) (path : Path) :
    resolve { scope, parameter := left } cache path =
      resolve { scope, parameter := right } cache path := by
  simp only [resolve]
  cases scope.lookup? path.head with
  | none => exact same cache path.segments
  | some value => rfl

namespace Atom

theorem holds_congr (same : left.ReadsAs right) (cache : MemberCache) (atom : Atom) :
    atom.holds { scope, parameter := left } cache =
      atom.holds { scope, parameter := right } cache := by
  cases atom with
  | truthy path => simp only [holds, Environment.resolve_congr same]
  | compare path op literal => simp only [holds, Environment.resolve_congr same]
  | invalid text => rfl

theorem allHold_congr (same : left.ReadsAs right) (cache : MemberCache) (atoms : List Atom) :
    allHold { scope, parameter := left } cache atoms =
      allHold { scope, parameter := right } cache atoms := by
  induction atoms generalizing cache with
  | nil => rfl
  | cons atom rest ih => simp only [allHold, holds_congr same, ih]

theorem anyHolds_congr (same : left.ReadsAs right) (cache : MemberCache) (atoms : List Atom) :
    anyHolds { scope, parameter := left } cache atoms =
      anyHolds { scope, parameter := right } cache atoms := by
  induction atoms generalizing cache with
  | nil => rfl
  | cons atom rest ih => simp only [anyHolds, holds_congr same, ih]

end Atom

theorem Test.holds_congr (same : left.ReadsAs right) (cache : MemberCache) (test : Test) :
    test.holds { scope, parameter := left } cache =
      test.holds { scope, parameter := right } cache := by
  simp only [Test.holds, Atom.allHold_congr same, Atom.anyHolds_congr same]

theorem BindPart.evaluate_congr (same : left.ReadsAs right) (cache : MemberCache) (part : BindPart) :
    part.evaluate { scope, parameter := left } cache =
      part.evaluate { scope, parameter := right } cache := by
  cases part with
  | literal constant => rfl
  | path property => exact Environment.resolve_congr same cache property

theorem BindPart.concatTexts_congr (same : left.ReadsAs right) (cache : MemberCache)
    (parts : List BindPart) :
    concatTexts { scope, parameter := left } cache parts =
      concatTexts { scope, parameter := right } cache parts := by
  induction parts generalizing cache with
  | nil => rfl
  | cons part rest ih => simp only [concatTexts, evaluate_congr same, ih]

theorem Bind.evaluate_congr (same : left.ReadsAs right) (cache : MemberCache) (bind : Bind) :
    bind.evaluate { scope, parameter := left } cache =
      bind.evaluate { scope, parameter := right } cache := by
  cases bind with
  | single part => exact part.evaluate_congr same cache
  | concat parts => simp only [evaluate, BindPart.concatTexts_congr same]
  | invalid text => rfl

/-! ### Templates -/

namespace RenderContext

variable (style : MarkerStyle)

section Steps

variable (same : left.ReadsAs right) (state : RenderState)

include same

theorem resolve_congr (path : Path) :
    resolve { style, parameter := left } state path =
      resolve { style, parameter := right } state path := by
  simp only [resolve, Environment.resolve_congr same]

theorem holds_congr (source : String) :
    holds { style, parameter := left } state source =
      holds { style, parameter := right } state source := by
  simp only [holds, Test.holds_congr same]

theorem bindName_congr (name source : String) :
    bindName { style, parameter := left } state name source =
      bindName { style, parameter := right } state name source := by
  simp only [bindName, Bind.evaluate_congr same]

end Steps

mutual

theorem render_congr (same : left.ReadsAs right) (state : RenderState) : (node : Node) →
    render { style, parameter := left } state node = render { style, parameter := right } state node
  | .text _ | .reference _ => rfl
  | .parameter name false => by
      simp only [render, resolve_congr style same]
      rfl
  | .parameter name true => by simp only [render, resolve_congr style same]
  | .condition test children => by
      simp only [render, holds_congr style same, renderAll_congr same _ children]
  | .choice branches none => by simp only [render, renderBranches_congr same state branches]
  | .choice branches (some children) => by
      simp only [render, renderBranches_congr same state branches, renderAll_congr same _ children]
  | .clause kind children => by simp only [render, renderAll_congr same state children]
  | .loop header children => by
      simp only [render, resolve_congr style same, renderAll_congr same _ children]
  | .bind name value => by simp only [render, bindName_congr style same]
  | .mixed children => renderAll_congr same state children
termination_by structural node => node

theorem renderAll_congr (same : left.ReadsAs right) (state : RenderState) : (nodes : List Node) →
    renderAll { style, parameter := left } state nodes =
      renderAll { style, parameter := right } state nodes
  | [] => rfl
  | node :: rest => by
      simp only [renderAll, render_congr same state node, renderAll_congr same _ rest]
termination_by structural nodes => nodes

theorem renderBranches_congr (same : left.ReadsAs right) (state : RenderState) :
    (branches : List (String × List Node)) →
    renderBranches { style, parameter := left } state branches =
      renderBranches { style, parameter := right } state branches
  | [] => rfl
  | (test, children) :: rest => by
      simp only [renderBranches, holds_congr style same, renderAll_congr same _ children,
        renderBranches_congr same _ rest]
termination_by structural branches => branches

end

end RenderContext

/-- A template renders against a snapshot as against its source: to the same SQL and the same parameters,
with the same tables cached afterwards.  The source has no element count, and members under declared names
only; those may repeat, differ in case only or be absent, and anything may have been cached before. -/
theorem render_snapshot (root : Node) (style : MarkerStyle) (source : Accessor)
    (uncounted : source.count = none)
    (listed : ∀ name, source.member? name ≠ none → name ∈ source.names)
    (members : MemberCache) (expressions : ExpressionCache) :
    root.render { style, parameter := source.snapshot.accessor } members expressions =
      root.render { style, parameter := source } members expressions := by
  have copies := Accessor.snapshot_copies uncounted listed
  have same : source.snapshot.accessor.ReadsAs source := fun cache segments =>
    MemberCache.resolvePath_eq_of_copies copies cache segments
  simp only [Node.render, RenderContext.render_congr style same]

section Form

/-- Names that repeat, that differ in case only and that stand for nothing. -/
def form : Accessor where
  shape := some "Form"
  names := ["name", "NAME", "name", "tags", "gone"]
  member?
    | "name" => some (.string "Ann")
    | "tags" => some (.list [.string "a", .string "b"])
    | _ => none

/-- Looks up an absent member and members of absent members, under a condition and in a loop. -/
def formRoot : Node :=
  .mixed [.bind "first" "name", .text "SELECT ", .parameter "first.length" false,
    .condition "gone == null" [.text ", ", .parameter "GONE.size" false],
    .loop { collection := "Tags", item := "tag", index := some "at" }
      [.text ", ", .parameter "tag.size" false, .parameter "Name.at" true]]

/-- A table that an object of the same shape with other names has left behind. -/
def otherForms : MemberCache where
  tables := [("Form", .build ["Name", "tags", "gone"])]

theorem render_snapshot_form :
    let rendered (members : MemberCache) (parameter : Accessor) :=
      formRoot.render { style := .dollar, parameter } members {}
    (rendered {} form).1.sql = "SELECT $1, $2, $3, $4" ∧
      (rendered {} form).1.parameters.map (·.value.toText) = ["3", "", "1", "1"] ∧
      (rendered otherForms form).1.parameters.map (·.value.toText) = ["", "", "1", "1"] ∧
      rendered {} form.snapshot.accessor = rendered {} form ∧
      rendered otherForms form.snapshot.accessor = rendered otherForms form := by
  intro rendered
  have listed : ∀ name, form.member? name ≠ none → name ∈ form.names := by
    intro name found
    simp only [form] at found ⊢
    split at found
    · simp
    · simp
    · exact absurd rfl found
  refine ⟨by decide +kernel, by decide +kernel, by decide +kernel, ?_, ?_⟩
  · exact render_snapshot formRoot .dollar form rfl listed {} {}
  · exact render_snapshot formRoot .dollar form rfl listed otherForms {}

end Form

end SqlMapper
