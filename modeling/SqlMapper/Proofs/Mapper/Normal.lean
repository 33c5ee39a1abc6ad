import Mathlib
import SqlMapper.Proofs.Template.Normal

/-!
# Mappers are read in normal form

Reading keeps the nodes of all open elements in the form of bodies and adds declarations with normal
trees under ids of their own.  The only exception, a choice without branches, is a finding that stops the
compilation, and findings are never taken back.
-/

namespace SqlMapper

open Node (IsBody IsInner)
open Xml (Element Located)

/-- What is known of the content that the role of an open element holds. -/
def Role.IsNormal : Role → Prop
  | .choice branches last =>
    (∀ branch ∈ branches, IsBody branch.2) ∧ ∀ children ∈ last, IsBody children
  | .skipped result _ => ∀ node ∈ result, node.IsInner ∧ ¬node.isText
  | _ => True

/-- What is known of an open element. -/
structure Frame.IsNormal (frame : Frame) : Prop where
  body : IsBody frame.nodes
  role : frame.role.IsNormal

/-- Whether ids are declared once, with normal trees. -/
structure Mapper.IsNormal (mapper : Mapper) : Prop where
  statements : (mapper.statements.map (·.id)).Nodup
  fragments : (mapper.fragments.map (·.id)).Nodup
  roots : ∀ root ∈ mapper.roots, root.IsNormal

namespace Reader

/-- What is known while no finding stops the compilation. -/
structure IsNormal (reader : Reader) : Prop where
  frames : ∀ frame ∈ reader.stack, frame.IsNormal
  mapper : reader.mapper.IsNormal

/-- Whether a reader comes from another one without taking back findings, and in normal form unless it
has met a finding that stops the compilation. -/
structure Follows (before after : Reader) : Prop where
  findings : before.diagnostics <+: after.diagnostics
  normal : ¬Diagnostic.hasFatal after.diagnostics → before.IsNormal → after.IsNormal

variable {reader before between after : Reader} {element : Element} {frame : Frame}
  {outer : List Frame} {role : Role} {node : Node} {nodes : List Node} {stop : Nat}

theorem hasFatal_of_isPrefix {earlier later : List Diagnostic} (extends? : earlier <+: later)
    (fatal : Diagnostic.hasFatal earlier) : Diagnostic.hasFatal later := by
  obtain ⟨more, rfl⟩ := extends?
  rw [Diagnostic.hasFatal, List.any_append, Bool.or_eq_true]
  exact .inl fatal

namespace Follows

theorem refl (reader : Reader) : Follows reader reader :=
  ⟨List.prefix_rfl, fun _ normal => normal⟩

theorem trans (first : Follows before between) (second : Follows between after) :
    Follows before after := by
  refine ⟨first.findings.trans second.findings, ?_⟩
  intro sound normal
  apply second.normal sound
  apply first.normal _ normal
  intro fatal
  exact sound (hasFatal_of_isPrefix second.findings fatal)

end Follows

/-! ### Findings -/

theorem follows_report (reader : Reader) (kind : DiagnosticKind) (span : Span)
    (detail : Option String) : Follows reader (reader.report kind span detail) :=
  ⟨List.prefix_append _ _, fun _ normal => ⟨normal.frames, normal.mapper⟩⟩

theorem follows_halt (reader : Reader) (span : Span) (detail : String) :
    Follows reader (reader.halt span detail) :=
  ⟨List.prefix_append _ _, fun _ normal => ⟨normal.frames, normal.mapper⟩⟩

theorem follows_require (reader : Reader) (element : Element) (key : String) :
    Follows reader (reader.require element key) := by
  unfold require
  split
  · exact .refl reader
  · apply follows_report

theorem follows_reportRepeated (reader : Reader) (kind : DiagnosticKind) (span : Span) (id : String) :
    Follows reader (reader.reportRepeated kind span id) :=
  ⟨List.prefix_append _ _, fun _ normal => ⟨normal.frames, normal.mapper⟩⟩

theorem follows_readTimeout (reader : Reader) (element : Element) :
    Follows reader (reader.readTimeout element).2 := by
  unfold readTimeout
  split
  · exact .refl reader
  · split
    · exact .refl reader
    · apply follows_report

/-! ### Opening elements -/

theorem follows_push (reader : Reader) (element : Element) (normal : role.IsNormal) :
    Follows reader (reader.push element role) := by
  refine ⟨List.prefix_rfl, ?_⟩
  intro _ before
  refine ⟨?_, before.mapper⟩
  intro frame member
  rcases List.mem_cons.1 member with rfl | old
  · exact ⟨Node.isBody_nil, normal⟩
  · exact before.frames frame old

theorem follows_openRoot (reader : Reader) (element : Element) :
    Follows reader (reader.openRoot element) := by
  unfold openRoot
  split
  · apply follows_halt
  · apply (follows_require reader element "namespace").trans
    refine .trans ?_ (follows_push _ element trivial)
    refine ⟨List.prefix_rfl, ?_⟩
    intro _ normal
    exact ⟨normal.frames, ⟨.nil, .nil, by simp [Mapper.roots]⟩⟩

theorem follows_openDeclaration (reader : Reader) (element : Element) :
    Follows reader (reader.openDeclaration element) := by
  have fragment : Role.fragment.IsNormal := trivial
  have statement {kind : StatementKind} : (Role.statement kind).IsNormal := trivial
  have skipped : (Role.skipped none 0).IsNormal := by simp [Role.IsNormal]
  unfold openDeclaration
  split
  · exact (follows_push reader element fragment).trans (follows_require _ element "id")
  · split
    · exact (follows_push reader element statement).trans (follows_require _ element "id")
    · refine .trans ?_ (follows_push _ element skipped)
      split
      · exact .refl reader
      · apply follows_report

theorem follows_openDirective (reader : Reader) (element : Element) :
    Follows reader (reader.openDirective element) := by
  have choice : (Role.choice [] none).IsNormal := by simp [Role.IsNormal]
  have plain {kind : Clause} : (Role.clause kind).IsNormal := trivial
  have skipped {node : Node} (inner : node.IsInner) (other : ¬node.isText) :
      (Role.skipped (some node) 0).IsNormal := by
    simpa [Role.IsNormal] using And.intro inner other
  unfold openDirective
  extract_lets value
  split
  · exact (follows_require reader element "test").trans (follows_push _ element trivial)
  · exact follows_push reader element choice
  · exact follows_push reader element plain
  · exact follows_push reader element plain
  · apply (follows_require reader element "collection").trans
    exact (follows_require _ element "item").trans (follows_push _ element trivial)
  · apply (follows_require reader element "name").trans
    apply (follows_require _ element "value").trans
    exact follows_push _ element (skipped (Node.isInner_bind _ _) (by simp [Node.isText]))
  · apply (follows_require reader element "refid").trans
    exact follows_push _ element (skipped (Node.isInner_reference _) (by simp [Node.isText]))
  · exact (follows_report reader _ _ _).trans (follows_push _ element trivial)

theorem follows_openBranch (reader : Reader) (element : Element) :
    Follows reader (reader.openBranch element) := by
  unfold openBranch
  split
  · exact (follows_require reader element "test").trans (follows_push _ element trivial)
  · exact follows_push reader element trivial
  · apply (follows_report reader _ _ _).trans
    exact follows_push _ element (by simp [Role.IsNormal])

theorem follows_openElement (reader : Reader) (element : Element) :
    Follows reader (reader.openElement element) := by
  unfold openElement
  split
  · exact .refl reader
  · rename_i frame rest opened
    split
    · apply follows_openRoot
    · apply follows_openDeclaration
    · apply follows_openBranch
    · rename_i result depth skipping
      refine ⟨List.prefix_rfl, ?_⟩
      intro _ normal
      refine ⟨?_, normal.mapper⟩
      have frames := normal.frames
      rw [opened, List.forall_mem_cons] at frames
      refine List.forall_mem_cons.2 ⟨⟨frames.1.body, ?_⟩, frames.2⟩
      have role := frames.1.role
      rw [skipping] at role
      exact role
    · apply follows_openDirective

/-! ### Closing elements -/

theorem IsNormal.close (normal : reader.IsNormal) (opened : reader.stack = frame :: outer) :
    frame.IsNormal ∧ { reader with stack := outer }.IsNormal := by
  have frames := normal.frames
  rw [opened, List.forall_mem_cons] at frames
  exact ⟨frames.1, ⟨frames.2, normal.mapper⟩⟩

theorem diagnostics_modifyTop (reader : Reader) (change : Frame → Frame) :
    (reader.modifyTop change).diagnostics = reader.diagnostics := by
  unfold modifyTop
  split <;> rfl

theorem IsNormal.modifyTop {change : Frame → Frame} (normal : reader.IsNormal)
    (keeps : ∀ frame : Frame, frame.IsNormal → (change frame).IsNormal) :
    (reader.modifyTop change).IsNormal := by
  unfold Reader.modifyTop
  split
  · exact normal
  · rename_i frame outer opened
    obtain ⟨top, below⟩ := normal.close opened
    exact ⟨List.forall_mem_cons.2 ⟨keeps frame top, below.frames⟩, normal.mapper⟩

theorem IsNormal.addNodes (normal : reader.IsNormal) (inner : ∀ node ∈ nodes, node.IsInner) :
    (reader.addNodes nodes).IsNormal := by
  apply normal.modifyTop
  intro frame known
  exact ⟨known.body.appendAll inner, known.role⟩

theorem IsNormal.addDirective (normal : reader.IsNormal) (inner : node.IsInner) (other : ¬node.isText) :
    (reader.addDirective node).IsNormal := by
  apply normal.modifyTop
  intro frame known
  refine ⟨?_, known.role⟩
  rw [← Node.append_of_not_isText other]
  exact known.body.append inner

theorem IsNormal.addBranch (normal : reader.IsNormal) (body : IsBody nodes) (test : String) :
    (reader.addBranch test nodes).IsNormal := by
  apply normal.modifyTop
  intro frame known
  split
  · rename_i branches last role
    have bodies := known.role
    rw [role] at bodies
    refine ⟨known.body, ?_, bodies.2⟩
    intro branch member
    rcases List.mem_append.1 member with old | new
    · exact bodies.1 branch old
    · rw [List.mem_singleton.1 new]
      exact body
  · exact known

end Reader

namespace Mapper

variable {mapper : Mapper}

theorem nodup_concat_id {α : Type} {declared : List α} {id : α → String} {new : α}
    (distinct : (declared.map id).Nodup) (fresh : ∀ old ∈ declared, id old ≠ id new) :
    ((declared ++ [new]).map id).Nodup := by
  rw [List.map_append, List.nodup_append]
  refine ⟨distinct, by simp, ?_⟩
  simp only [List.mem_map]
  grind

theorem IsNormal.addStatement (normal : mapper.IsNormal) {statement : Statement}
    (fresh : ¬(mapper.statement? statement.id).isSome) (root : statement.root.IsNormal) :
    { mapper with statements := mapper.statements ++ [statement] }.IsNormal := by
  have new : ∀ old ∈ mapper.statements, old.id ≠ statement.id := by
    simpa [Mapper.statement?] using fresh
  refine ⟨nodup_concat_id normal.statements new, normal.fragments, ?_⟩
  have known := normal.roots
  simp only [Mapper.roots, List.map_append, List.map_cons, List.map_nil] at known ⊢
  grind

theorem IsNormal.addFragment (normal : mapper.IsNormal) {fragment : Fragment}
    (fresh : ¬(mapper.fragment? fragment.id).isSome) (root : fragment.root.IsNormal) :
    { mapper with fragments := mapper.fragments ++ [fragment] }.IsNormal := by
  have new : ∀ old ∈ mapper.fragments, old.id ≠ fragment.id := by
    simpa [Mapper.fragment?] using fresh
  refine ⟨normal.statements, nodup_concat_id normal.fragments new, ?_⟩
  have known := normal.roots
  simp only [Mapper.roots, List.map_append, List.map_cons, List.map_nil] at known ⊢
  grind

end Mapper

namespace Reader

variable {reader before between after : Reader} {element : Element} {frame : Frame}
  {outer : List Frame} {role : Role} {node : Node} {nodes : List Node} {stop : Nat}

theorem follows_close (opened : reader.stack = frame :: outer) :
    Follows reader { reader with stack := outer } :=
  ⟨List.prefix_rfl, fun _ normal => (normal.close opened).2⟩

theorem follows_closeStatement (opened : reader.stack = ⟨some element, role, nodes⟩ :: outer)
    (kind : StatementKind) : Follows reader (reader.closeStatement outer element kind nodes stop) := by
  have timed := follows_readTimeout reader element
  have kept : (reader.readTimeout element).2.stack = reader.stack := by
    unfold readTimeout
    grind [report]
  rw [← kept] at opened
  have closed := timed.trans (follows_close opened)
  unfold closeStatement
  generalize reader.readTimeout element = read at *
  obtain ⟨timeout, later⟩ := read
  dsimp only at *
  split
  · exact closed
  · split
    · exact closed.trans (follows_reportRepeated _ _ _ _)
    · rename_i fresh
      apply timed.trans
      refine ⟨List.prefix_rfl, ?_⟩
      intro _ normal
      obtain ⟨top, below⟩ := normal.close opened
      exact ⟨below.frames, below.mapper.addStatement fresh top.body.isNormal_sequence⟩

theorem follows_closeFragment (opened : reader.stack = ⟨some element, role, nodes⟩ :: outer) :
    Follows reader (reader.closeFragment outer element nodes stop) := by
  have closed := follows_close opened
  unfold closeFragment
  dsimp only
  split
  · exact closed
  · split
    · exact closed.trans (follows_reportRepeated _ _ _ _)
    · rename_i fresh
      refine ⟨List.prefix_rfl, ?_⟩
      intro _ normal
      obtain ⟨top, below⟩ := normal.close opened
      exact ⟨below.frames, below.mapper.addFragment fresh top.body.isNormal_sequence⟩

theorem follows_setFallback (opened : reader.stack = ⟨some element, role, nodes⟩ :: outer) :
    Follows reader ({ reader with stack := outer }.setFallback element nodes) := by
  unfold setFallback
  split
  · exact (follows_close opened).trans (follows_report _ _ _ _)
  · refine ⟨?_, ?_⟩
    · rw [diagnostics_modifyTop]
    · intro _ normal
      obtain ⟨top, below⟩ := normal.close opened
      apply below.modifyTop
      intro frame known
      split
      · rename_i branches last choosing
        have bodies := known.role
        rw [choosing] at bodies
        exact ⟨known.body, bodies.1, by simpa using top.body⟩
      · exact known

theorem follows_closeChoice (opened : reader.stack = frame :: outer)
    {branches : List (String × List Node)} {last : Option (List Node)}
    (choosing : frame.role = .choice branches last) :
    Follows reader ({ reader with stack := outer }.closeChoice element branches last) := by
  unfold closeChoice
  cases branches with
  | nil =>
      -- a choice without branches stops the compilation
      have fatal : Diagnostic.hasFatal ({ reader with stack := outer }.report .emptyChoose
          (Element.span element) none).diagnostics := by
        simp [report, Diagnostic.hasFatal, DiagnosticKind.isFatal]
      refine ⟨?_, ?_⟩
      · rw [addDirective, diagnostics_modifyTop]
        exact List.prefix_append _ _
      · intro sound
        rw [addDirective, diagnostics_modifyTop] at sound
        exact absurd fatal sound
  | cons branch rest =>
      refine ⟨?_, ?_⟩
      · rw [addDirective, diagnostics_modifyTop]
        exact List.prefix_rfl
      · intro _ normal
        obtain ⟨top, below⟩ := normal.close opened
        have bodies := top.role
        rw [choosing] at bodies
        exact below.addDirective (Node.isInner_choice (by simp) bodies.1 bodies.2) (by simp [Node.isText])

theorem follows_closeElement (reader : Reader) (stop : Nat) :
    Follows reader (reader.closeElement stop) := by
  unfold closeElement
  split
  · rename_i element role nodes outer opened
    have closed := follows_close opened
    -- what closes adds no findings of its own
    have quiet {change : Frame → Frame} {later : Reader}
        (same : later = { reader with stack := outer }.modifyTop change)
        (normal : Frame.IsNormal ⟨some element, role, nodes⟩ →
          { reader with stack := outer }.IsNormal → later.IsNormal) : Follows reader later := by
      refine ⟨?_, ?_⟩
      · rw [same, diagnostics_modifyTop]
      · intro _ before
        obtain ⟨top, below⟩ := before.close opened
        exact normal top below
    dsimp only
    split
    · exact .refl reader
    · exact .refl reader
    · exact ⟨List.prefix_rfl, fun _ before => ⟨(before.close opened).2.frames, before.mapper⟩⟩
    · exact follows_closeStatement opened _
    · exact follows_closeFragment opened
    · exact quiet rfl fun top below => below.addNodes top.body.inner
    · exact quiet rfl fun top below => below.addDirective (top.body.condition _) (by simp [Node.isText])
    · exact quiet rfl fun top below => below.addDirective (top.body.clause _) (by simp [Node.isText])
    · exact quiet rfl fun top below => below.addDirective (top.body.loop _) (by simp [Node.isText])
    · exact follows_closeChoice opened rfl
    · exact quiet rfl fun top below => below.addBranch top.body _
    · exact follows_setFallback opened
    · exact closed
    · exact quiet rfl fun top below => below.addDirective (top.role _ rfl).1 (top.role _ rfl).2
    · rename_i result depth
      refine ⟨List.prefix_rfl, ?_⟩
      intro _ before
      obtain ⟨top, below⟩ := before.close opened
      exact ⟨List.forall_mem_cons.2 ⟨⟨top.body, top.role⟩, below.frames⟩, below.mapper⟩
  · exact .refl reader

theorem follows_addText (reader : Reader) (content : String) (stop : Nat) :
    Follows reader (reader.addText content stop) := by
  unfold addText
  split
  · exact .refl reader
  · split
    · split
      · exact .refl reader
      · apply follows_halt
    · split
      · refine ⟨?_, ?_⟩
        · rw [addNodes, diagnostics_modifyTop]
        · intro _ normal
          exact normal.addNodes fun node => Node.isInner_of_mem_scan
      · exact .refl reader

/-! ### Whole runs -/

theorem follows_step (reader : Reader) (located : Located) : Follows reader (reader.step located) := by
  unfold step
  split
  · exact .refl reader
  · split
    · apply follows_addText
    · apply follows_closeElement
    · rename_i element _
      have opened := follows_openElement reader element
      dsimp only
      split
      · exact opened.trans (follows_closeElement _ _)
      · exact opened

theorem follows_foldl (events : List Located) (reader : Reader) :
    Follows reader (events.foldl step reader) := by
  induction events generalizing reader with
  | nil => exact .refl reader
  | cons located rest ih => exact (follows_step reader located).trans (ih _)

theorem follows_finish (reader : Reader) (ending : Xml.Ending) :
    Follows reader (reader.finish ending) := by
  unfold finish
  split
  · exact .refl reader
  · split
    · apply follows_halt
    · split
      · apply follows_halt
      · exact ⟨List.prefix_rfl, fun _ normal => ⟨normal.frames, normal.mapper⟩⟩
      · apply follows_halt

theorem isNormal_readAll {source : String} (accepted : (readAll .outside source).succeeded) :
    (readAll .outside source).IsNormal := by
  have read := (follows_foldl (Xml.Document.read source).events { stack := [⟨none, .outside, []⟩] }).trans
    (follows_finish _ (Xml.Document.read source).ending)
  have sound : ¬Diagnostic.hasFatal (readAll .outside source).diagnostics := by
    simp only [succeeded, Bool.and_eq_true, Bool.not_eq_true'] at accepted
    simp [accepted.2]
  apply read.normal sound
  · refine ⟨?_, ⟨.nil, .nil, List.forall_mem_nil _⟩⟩
    simp only [List.mem_singleton, forall_eq]
    exact ⟨Node.isBody_nil, trivial⟩

end Reader

/-- Whatever stands in the source, comments, literal sections and unknown elements included. -/
theorem Mapper.isNormal_of_parse {source : String} {mapper : Mapper} {findings : List Diagnostic}
    (accepted : Mapper.parse source = .ok (mapper, findings)) : mapper.IsNormal := by
  unfold Mapper.parse at accepted
  dsimp only at accepted
  split at accepted
  · rename_i succeeded
    cases accepted
    exact (Reader.isNormal_readAll succeeded).mapper
  · cases accepted

/-- A comment, a literal section and unknown elements between the texts of a statement. -/
theorem Mapper.isNormal_of_parse_spliced :
    let source := "<mapper namespace=\"n\"><select id=\"s\">a<!----> <y>b<z>#\x7bc\x7d<![CDATA[d]]></z></y>"
      ++ "<choose><when test=\"e\"/></choose></select></mapper>"
    let mapper : Mapper := {
      nameSpace := "n"
      statements := [{
        id := "s"
        root := .mixed [.text "a b", .parameter "c" false, .text "d", .choice [("e", [])] none]
        span := ⟨22, 120⟩ }] }
    let findings : List Diagnostic := [
      { kind := .unknownElement, span := ⟨46, 49⟩, detail := some "y", owner := some "n.s" },
      { kind := .unknownElement, span := ⟨50, 53⟩, detail := some "z", owner := some "n.s" }]
    Mapper.parse source = .ok (mapper, findings) ∧ mapper.IsNormal := by
  intro source mapper findings
  have events : (Xml.Document.read source).events =
      [⟨.opening ⟨"mapper", [("namespace", "n")], 0, 22, false⟩, 22⟩,
        ⟨.opening ⟨"select", [("id", "s")], 22, 37, false⟩, 37⟩, ⟨.text "a", 38⟩, ⟨.text " ", 46⟩,
        ⟨.opening ⟨"y", [], 46, 49, false⟩, 49⟩, ⟨.text "b", 50⟩,
        ⟨.opening ⟨"z", [], 50, 53, false⟩, 53⟩, ⟨.text "#\x7bc\x7d", 57⟩, ⟨.text "d", 70⟩,
        ⟨.closing, 74⟩, ⟨.closing, 78⟩, ⟨.opening ⟨"choose", [], 78, 86, false⟩, 86⟩,
        ⟨.opening ⟨"when", [("test", "e")], 86, 102, true⟩, 102⟩, ⟨.closing, 111⟩, ⟨.closing, 120⟩,
        ⟨.closing, 129⟩] := by decide +kernel
  have accepted : Mapper.parse source = .ok (mapper, findings) := by
    simp only [Mapper.parse, Reader.readAll, events]
    generalize (Xml.Document.read source).ending = ending
    cbv
  exact ⟨accepted, Mapper.isNormal_of_parse accepted⟩

end SqlMapper
