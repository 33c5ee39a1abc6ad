import SqlMapper.Proofs.Render.Lockstep

/-!
# Bound values do not interfere

Against parameters that agree on whatever a template reads to decide, to repeat, to bind names or to
splice, two renderings go in lockstep.  Values that are only bound to marks differ freely: the marks
depend on nothing but their number.
-/

namespace SqlMapper

variable {layout : Layout} {paths : List Path}

/-- Two states that have bound the same names to the same values and equally many parameters. -/
abbrev RenderState.Twins (layout : Layout) (left right : RenderState) : Prop :=
  Paired (fun bound other => other.length = bound.length) layout left right

theorem RenderState.Twins.count {left right : RenderState} (twins : Twins layout left right) :
    right.parameters.length = left.parameters.length :=
  twins.parameters

namespace RenderContext

variable {left right : RenderContext}

/-- Binding a value to a mark writes the same mark for any value. -/
theorem lockstep_mark (peers : Peers layout paths left right) (path : Path) :
    Lockstep (fun bound other => other.length = bound.length) layout (left.markPath · path)
      (right.markPath · path) := by
  intro leftState rightState twins
  have resolved := peers.paired_resolve twins path
  have count := resolved.parameters
  refine ⟨?_, resolved.scope, ?_, resolved.fitsScope, resolved.fitsLeft, resolved.fitsRight⟩
  · simp only [markPath, RenderContext.mark, bindNext, count, peers.style]
  · simp [markPath, RenderContext.mark, bindNext, count]

theorem lockstep_render (peers : Peers layout paths left right) (node : Node)
    (known : node.readPaths ⊆ paths) (leftState rightState : RenderState)
    (twins : RenderState.Twins layout leftState rightState) :
    (right.render rightState node).1 = (left.render leftState node).1 ∧
      RenderState.Twins layout (left.render leftState node).2 (right.render rightState node).2 :=
  lockstep_render_of_marks peers (lockstep_mark peers) node known leftState rightState twins

end RenderContext

theorem Record.get?_eq_none {record : Record} {name : String}
    (missing : name ∉ record.fields.map (·.1)) : record.get? name = none := by
  rw [Record.get?, List.lookup_eq_none_iff]
  intro field member
  rw [bne_iff_ne]
  intro same
  exact missing (same ▸ List.mem_map_of_mem member)

theorem Record.agreeOn {left right : Record}
    (names : left.fields.map (·.1) = right.fields.map (·.1))
    (same : ∀ path ∈ paths, ∀ name ∈ left.fields.map (·.1),
      Text.sameIgnoringCase name path.head → left.get? name = right.get? name) :
    (Accessor.ofRecord left).AgreeOn paths (.ofRecord right) := by
  refine ⟨names, rfl, ?_⟩
  intro path known name matching
  by_cases listed : name ∈ left.fields.map (·.1)
  · exact same path known name listed matching
  · have missing := listed
    rw [names] at missing
    exact (Record.get?_eq_none listed).trans (Record.get?_eq_none missing).symm

/-- Two records with the same names lead to the same SQL and equally many parameters if they hold the
same values in all fields at which a path of the template begins other than to bind its value to a
mark.  All values within the records list the names that the layout gives to their shapes. -/
theorem render_eq_of_agree (root : Node) (style : MarkerStyle) (left right : Record)
    (layout : Layout) (names : left.fields.map (·.1) = right.fields.map (·.1))
    (fitsLeft : left.toValue.Fits layout) (fitsRight : right.toValue.Fits layout)
    (same : ∀ path ∈ root.readPaths, ∀ name ∈ left.fields.map (·.1),
      Text.sameIgnoringCase name path.head → left.get? name = right.get? name) :
    let first := (root.render { style, parameter := .ofRecord left } {} {}).1
    let second := (root.render { style, parameter := .ofRecord right } {} {}).1
    first.sql = second.sql ∧ first.parameters.length = second.parameters.length := by
  intro first second
  have peers : RenderContext.Peers layout root.readPaths { style, parameter := .ofRecord left }
      { style, parameter := .ofRecord right } :=
    ⟨rfl, Record.agreeOn names same, fitsLeft.accessor, fitsRight.accessor⟩
  have start : RenderState.Twins layout {} {} :=
    ⟨rfl, rfl, List.forall_mem_nil _, List.forall_mem_nil _, List.forall_mem_nil _⟩
  rcases RenderContext.lockstep_render peers root (List.Subset.refl _) {} {} start
    with ⟨sameText, twins⟩
  exact ⟨sameText.symm, twins.count.symm⟩

section Search

/-- A statement that decides by a flag and binds a name. -/
def searchRoot : Node :=
  .mixed [.text "SELECT * FROM users",
    .condition "active" [.text " WHERE name = ", .parameter "person.name" false]]

def searchRecord (person : Value) : Record where
  shape := some "Search"
  fields := [("person", person), ("active", .bool true)]

/-- The names of searches and of persons. -/
def searchLayout : Layout
  | "Person" => ["name"]
  | _ => ["person", "active"]

theorem render_eq_of_agree_search :
    let ann : Value := .object (some "Person") [("name", .string "Ann")]
    let first := (searchRoot.render { parameter := .ofRecord (searchRecord ann) } {} {}).1
    let second := (searchRoot.render { parameter := .ofRecord (searchRecord .null) } {} {}).1
    first.sql = "SELECT * FROM users WHERE name = ?" ∧ first.sql = second.sql ∧
      first.parameters.length = second.parameters.length := by
  intro ann first second
  have text : first.sql = "SELECT * FROM users WHERE name = ?" := by decide +kernel
  have read : searchRoot.readPaths = [{ head := "active", rest := [] }] := by decide +kernel
  refine ⟨text, render_eq_of_agree searchRoot .question (searchRecord ann) (searchRecord .null)
    searchLayout rfl ?_ ?_ ?_⟩
  · simp [Value.Fits, Value.FieldsFit, Record.toValue, searchRecord, searchLayout, ann]
  · simp [Value.Fits, Value.FieldsFit, Record.toValue, searchRecord, searchLayout]
  · rw [read]
    intro path known name listed matching
    rw [List.mem_singleton.1 known] at matching
    simp only [searchRecord, List.map_cons, List.map_nil, List.mem_cons, List.not_mem_nil,
      or_false] at listed
    rcases listed with rfl | rfl
    · cases matching
    · rfl

end Search

end SqlMapper
