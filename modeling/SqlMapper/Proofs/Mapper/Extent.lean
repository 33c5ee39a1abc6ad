import SqlMapper.Proofs.Mapper.Position
import SqlMapper.Proofs.Xml.Extent

/-!
# Where declarations stand

A declaration is placed on its element, from the `<` of its opening tag to the `>` of its closing tag.
Only one declaration is open at a time, and all that were read before it end in front of its tag.  So the
declarations follow each other in the source, and no two of them share a byte.
-/

namespace SqlMapper

open Text (Occupies EndsWith)
open Xml (Element Event Located Ending)

/-! ### Extents -/

/-- Whether an element of a tag stands between the places of a span. -/
def Span.IsElement (whole : List Char) (span : Span) (tag : String) : Prop :=
  ∃ inside, Occupies whole span.start span.stop inside ∧ '<' :: tag.toList <+: inside ∧ ['>'] <:+ inside

/-- Whether a span lies in a text of a number of bytes. -/
def Span.IsWithin (size : Nat) (span : Span) : Prop :=
  span.start ≤ span.stop ∧ span.stop ≤ size

namespace Mapper

/-- The tags and spans of all declarations, those of the statements first. -/
def extents (mapper : Mapper) : List (String × Span) :=
  mapper.statements.map (fun statement => (statement.kind.tag, statement.span)) ++
    mapper.fragments.map fun fragment => ("sql", fragment.span)

/-- Whether declarations stand in the order in which they are kept, and apart. -/
structure IsOrdered (mapper : Mapper) : Prop where
  statements : mapper.statements.Pairwise fun first second => first.span.stop ≤ second.span.start
  fragments : mapper.fragments.Pairwise fun first second => first.span.stop ≤ second.span.start
  apart : ∀ statement ∈ mapper.statements, ∀ fragment ∈ mapper.fragments,
    statement.span.stop ≤ fragment.span.start ∨ fragment.span.stop ≤ statement.span.start

/-- Whether declarations stand on elements in front of a place. -/
structure IsPlaced (whole : List Char) (reached : Nat) (mapper : Mapper) : Prop where
  elements : ∀ extent ∈ mapper.extents, extent.2.IsElement whole extent.1
  before : ∀ extent ∈ mapper.extents, extent.2.stop ≤ reached
  ordered : mapper.IsOrdered

variable {mapper : Mapper} {whole : List Char} {reached later : Nat}

theorem mem_extents_of_statement {statement : Statement} (member : statement ∈ mapper.statements) :
    (statement.kind.tag, statement.span) ∈ mapper.extents :=
  List.mem_append_left _ (List.mem_map_of_mem member)

theorem mem_extents_of_fragment {fragment : Fragment} (member : fragment ∈ mapper.fragments) :
    ("sql", fragment.span) ∈ mapper.extents :=
  List.mem_append_right _ (List.mem_map_of_mem member)

theorem IsPlaced.mono (placed : mapper.IsPlaced whole reached) (le : reached ≤ later) :
    mapper.IsPlaced whole later :=
  ⟨placed.elements, fun extent member => (placed.before extent member).trans le, placed.ordered⟩

theorem isPlaced_empty (nameSpace : String) : ({ nameSpace } : Mapper).IsPlaced whole reached := by
  refine ⟨?_, ?_, ⟨.nil, .nil, ?_⟩⟩ <;> simp [extents]

theorem IsPlaced.addStatement {statement : Statement} (placed : mapper.IsPlaced whole reached)
    (element : statement.span.IsElement whole statement.kind.tag) (before : statement.span.stop ≤ reached)
    (earlier : ∀ extent ∈ mapper.extents, extent.2.stop ≤ statement.span.start) :
    { mapper with statements := mapper.statements ++ [statement] }.IsPlaced whole reached := by
  have either {holds : String × Span → Prop} (old : ∀ extent ∈ mapper.extents, holds extent)
      (new : holds (statement.kind.tag, statement.span)) :
      ∀ extent ∈ { mapper with statements := mapper.statements ++ [statement] }.extents,
        holds extent := by
    simp only [extents, List.map_append, List.forall_mem_append] at old ⊢
    exact ⟨⟨old.1, List.forall_mem_singleton.2 new⟩, old.2⟩
  refine ⟨either placed.elements element, either placed.before before, ?_, placed.ordered.fragments, ?_⟩
  · refine List.pairwise_append.2 ⟨placed.ordered.statements, List.pairwise_singleton _ _, ?_⟩
    intro first member second new
    rw [List.mem_singleton.1 new]
    exact earlier _ (mem_extents_of_statement member)
  · refine List.forall_mem_append.2 ⟨placed.ordered.apart, List.forall_mem_singleton.2 ?_⟩
    exact fun fragment member => .inr (earlier _ (mem_extents_of_fragment member))

theorem IsPlaced.addFragment {fragment : Fragment} (placed : mapper.IsPlaced whole reached)
    (element : fragment.span.IsElement whole "sql") (before : fragment.span.stop ≤ reached)
    (earlier : ∀ extent ∈ mapper.extents, extent.2.stop ≤ fragment.span.start) :
    { mapper with fragments := mapper.fragments ++ [fragment] }.IsPlaced whole reached := by
  have either {holds : String × Span → Prop} (old : ∀ extent ∈ mapper.extents, holds extent)
      (new : holds ("sql", fragment.span)) :
      ∀ extent ∈ { mapper with fragments := mapper.fragments ++ [fragment] }.extents,
        holds extent := by
    simp only [extents, List.map_append, List.forall_mem_append] at old ⊢
    exact ⟨old.1, old.2, List.forall_mem_singleton.2 new⟩
  refine ⟨either placed.elements element, either placed.before before, placed.ordered.statements, ?_, ?_⟩
  · refine List.pairwise_append.2 ⟨placed.ordered.fragments, List.pairwise_singleton _ _, ?_⟩
    intro first member second new
    rw [List.mem_singleton.1 new]
    exact earlier _ (mem_extents_of_fragment member)
  · intro statement member
    refine List.forall_mem_append.2 ⟨placed.ordered.apart statement member,
      List.forall_mem_singleton.2 (.inl ?_)⟩
    exact earlier _ (mem_extents_of_statement member)

end Mapper

/-! ### Open elements -/

/-- The tag of the elements of a role, if they declare something. -/
def Role.declared? : Role → Option String
  | .statement kind => some kind.tag
  | .fragment => some "sql"
  | _ => none

/-- Whether elements of a role stand inside no declaration. -/
def Role.isOuter : Role → Bool
  | .outside | .mapper | .statement _ | .fragment => true
  | _ => false

structure Frame.IsPlaced (whole : List Char) (reached : Nat) (frame : Frame) : Prop where
  element : ∀ element ∈ frame.element, element.IsPlaced whole ∧ element.stop ≤ reached
  tag : ∀ tag ∈ frame.role.declared?, ∀ element ∈ frame.element, element.name = tag

namespace Reader

/-- What is known of the places that a reader holds when it has come to a place of the text. -/
structure IsPlaced (whole : List Char) (reached : Nat) (reader : Reader) : Prop where
  frames : ∀ frame ∈ reader.stack, frame.IsPlaced whole reached
  findings : ∀ finding ∈ reader.diagnostics, finding.span.IsWithin (Text.utf8Length whole)
  mapper : reader.mapper.IsPlaced whole reached
  nested : reader.stack.Pairwise fun inner outer => inner.role.isOuter → outer.role.declared? = none
  earlier : ∀ frame ∈ reader.stack, frame.role.declared?.isSome → ∀ element ∈ frame.element,
    ∀ extent ∈ reader.mapper.extents, extent.2.stop ≤ element.start

end Reader

variable {reader : Reader} {whole : List Char} {reached start stop : Nat} {element : Element} {role : Role}
  {frame : Frame} {outer : List Frame} {nodes : List Node}

theorem Role.declared?_eq_none (inner : role.isOuter = false) : role.declared? = none := by
  cases role <;> first | rfl | cases inner

theorem Element.isWithin_span (placed : element.IsPlaced whole) :
    (Element.span element).IsWithin (Text.utf8Length whole) := by
  obtain ⟨content, -, occupies⟩ := placed
  exact ⟨occupies.start_le, occupies.stop_le⟩

/-- An element goes on from its tag up to the end of any later one. -/
theorem isElement_of_endsWith {tag : String} (placed : element.IsPlaced whole) (named : element.name = tag)
    (later : element.stop ≤ stop) (ends : EndsWith whole stop '>') :
    (⟨element.start, stop⟩ : Span).IsElement whole tag := by
  obtain ⟨content, ⟨rest, rfl⟩, occupies⟩ := placed
  obtain ⟨more, longer, closes⟩ := occupies.extend (by simp) later ends
  refine ⟨_, longer, ?_, closes⟩
  rw [← named]
  exact ⟨rest ++ ['>'] ++ more, by simp⟩

theorem Span.IsElement.isWithin {span : Span} {tag : String} (isElement : span.IsElement whole tag) :
    span.IsWithin (Text.utf8Length whole) := by
  obtain ⟨inside, occupies, -, -⟩ := isElement
  exact ⟨occupies.start_le, occupies.stop_le⟩

theorem Reader.stack_require (reader : Reader) (element : Element) (key : String) :
    (reader.require element key).stack = reader.stack := by
  unfold Reader.require
  split <;> rfl

namespace Reader.IsPlaced

theorem mono {later : Nat} (placed : reader.IsPlaced whole reached) (le : reached ≤ later) :
    reader.IsPlaced whole later where
  frames frame member := by
    have known := placed.frames frame member
    refine ⟨?_, known.tag⟩
    intro element isElement
    exact ⟨(known.element element isElement).1, (known.element element isElement).2.trans le⟩
  findings := placed.findings
  mapper := placed.mapper.mono le
  nested := placed.nested
  earlier := placed.earlier

/-! ### Findings -/

theorem report (placed : reader.IsPlaced whole reached) {span : Span}
    (within : span.IsWithin (Text.utf8Length whole)) (kind : DiagnosticKind) (detail : Option String) :
    (reader.report kind span detail).IsPlaced whole reached := by
  refine ⟨placed.frames, ?_, placed.mapper, placed.nested, placed.earlier⟩
  exact List.forall_mem_append.2 ⟨placed.findings, List.forall_mem_singleton.2 within⟩

theorem halt (placed : reader.IsPlaced whole reached) {span : Span}
    (within : span.IsWithin (Text.utf8Length whole)) (detail : String) :
    (reader.halt span detail).IsPlaced whole reached := by
  have reported := placed.report within .malformedXml (some detail)
  exact ⟨reported.frames, reported.findings, reported.mapper, reported.nested, reported.earlier⟩

theorem reportRepeated (placed : reader.IsPlaced whole reached) {span : Span}
    (within : span.IsWithin (Text.utf8Length whole)) (kind : DiagnosticKind) (id : String) :
    (reader.reportRepeated kind span id).IsPlaced whole reached := by
  refine ⟨placed.frames, ?_, placed.mapper, placed.nested, placed.earlier⟩
  exact List.forall_mem_append.2 ⟨placed.findings, List.forall_mem_singleton.2 within⟩

theorem require (placed : reader.IsPlaced whole reached) (onTag : element.IsPlaced whole) (key : String) :
    (reader.require element key).IsPlaced whole reached := by
  unfold Reader.require
  split
  · exact placed
  · exact placed.report (Element.isWithin_span onTag) _ _

theorem readTimeout (placed : reader.IsPlaced whole reached) (onTag : element.IsPlaced whole) :
    (reader.readTimeout element).2.IsPlaced whole reached := by
  unfold Reader.readTimeout
  split
  · exact placed
  · split
    · exact placed
    · exact placed.report (Element.isWithin_span onTag) _ _

/-! ### The stack -/

theorem close (placed : reader.IsPlaced whole reached) (opened : reader.stack = frame :: outer) :
    { reader with stack := outer }.IsPlaced whole reached := by
  have frames := placed.frames
  have nested := placed.nested
  have earlier := placed.earlier
  rw [opened] at frames nested earlier
  exact ⟨fun frame member => frames frame (List.mem_cons_of_mem _ member), placed.findings,
    placed.mapper, (List.pairwise_cons.1 nested).2,
    fun frame member => earlier frame (List.mem_cons_of_mem _ member)⟩

/-- What is below an element outside of all declarations declares nothing. -/
theorem declared?_below (placed : reader.IsPlaced whole reached) (opened : reader.stack = frame :: outer)
    (isOuter : frame.role.isOuter) : ∀ other ∈ outer, other.role.declared? = none := by
  have nested := placed.nested
  rw [opened, List.pairwise_cons] at nested
  exact fun other member => nested.1 other member isOuter

theorem push (placed : reader.IsPlaced whole reached) (onTag : element.IsPlaced whole)
    (behind : element.stop ≤ reached) (tag : ∀ tag ∈ role.declared?, element.name = tag)
    (below : role.isOuter → ∀ frame ∈ reader.stack, frame.role.declared? = none)
    (earlier : role.declared?.isSome → ∀ extent ∈ reader.mapper.extents, extent.2.stop ≤ element.start) :
    (reader.push element role).IsPlaced whole reached where
  frames := by
    refine List.forall_mem_cons.2 ⟨⟨?_, ?_⟩, placed.frames⟩
    · rintro _ ⟨⟩
      exact ⟨onTag, behind⟩
    · rintro expected isTag _ ⟨⟩
      exact tag expected isTag
  findings := placed.findings
  mapper := placed.mapper
  nested := List.pairwise_cons.2 ⟨fun frame member isOuter => below isOuter frame member, placed.nested⟩
  earlier := by
    refine List.forall_mem_cons.2 ⟨?_, placed.earlier⟩
    rintro declares _ ⟨⟩
    exact earlier declares

theorem pushInner (placed : reader.IsPlaced whole reached) (onTag : element.IsPlaced whole)
    (behind : element.stop ≤ reached) (inner : role.isOuter = false) :
    (reader.push element role).IsPlaced whole reached := by
  apply placed.push onTag behind
  · simp [Role.declared?_eq_none inner]
  · simp [inner]
  · simp [Role.declared?_eq_none inner]

/-- What is known of the places of an open element does not depend on its content. -/
theorem replaceTop (placed : reader.IsPlaced whole reached) (opened : reader.stack = frame :: outer)
    {changed : Frame} (element : changed.element = frame.element)
    (declared : changed.role.declared? = frame.role.declared?)
    (isOuter : changed.role.isOuter = frame.role.isOuter) :
    { reader with stack := changed :: outer }.IsPlaced whole reached := by
  obtain ⟨frames, findings, mapper, nested, earlier⟩ := placed
  rw [opened] at frames nested earlier
  rw [List.forall_mem_cons] at frames earlier
  rw [List.pairwise_cons] at nested
  refine ⟨List.forall_mem_cons.2 ⟨⟨?_, ?_⟩, frames.2⟩, findings, mapper,
    List.pairwise_cons.2 ⟨?_, nested.2⟩, List.forall_mem_cons.2 ⟨?_, earlier.2⟩⟩
  · rw [element]
    exact frames.1.element
  · rw [element, declared]
    exact frames.1.tag
  · rw [isOuter]
    exact nested.1
  · rw [element, declared]
    exact earlier.1

theorem modifyTop (placed : reader.IsPlaced whole reached) {change : Frame → Frame}
    (element : ∀ frame, (change frame).element = frame.element)
    (declared : ∀ frame, (change frame).role.declared? = frame.role.declared?)
    (isOuter : ∀ frame, (change frame).role.isOuter = frame.role.isOuter) :
    (reader.modifyTop change).IsPlaced whole reached := by
  unfold Reader.modifyTop
  split
  · exact placed
  · rename_i frame outer opened
    exact placed.replaceTop opened (element frame) (declared frame) (isOuter frame)

theorem addNodes (placed : reader.IsPlaced whole reached) (added : List Node) :
    (reader.addNodes added).IsPlaced whole reached :=
  placed.modifyTop (fun _ => rfl) (fun _ => rfl) fun _ => rfl

theorem addDirective (placed : reader.IsPlaced whole reached) (node : Node) :
    (reader.addDirective node).IsPlaced whole reached :=
  placed.modifyTop (fun _ => rfl) (fun _ => rfl) fun _ => rfl

theorem addBranch (placed : reader.IsPlaced whole reached) (test : String) (nodes : List Node) :
    (reader.addBranch test nodes).IsPlaced whole reached := by
  apply placed.modifyTop <;> (rintro ⟨element, role, inside⟩; cases role <;> rfl)

theorem setFallback (placed : reader.IsPlaced whole reached) (onTag : element.IsPlaced whole)
    (nodes : List Node) : (reader.setFallback element nodes).IsPlaced whole reached := by
  unfold Reader.setFallback
  split
  · exact placed.report (Element.isWithin_span onTag) _ _
  · apply placed.modifyTop <;> (rintro ⟨element, role, inside⟩; cases role <;> rfl)

theorem closeChoice (placed : reader.IsPlaced whole reached) (onTag : element.IsPlaced whole)
    (branches : List (String × List Node)) (last : Option (List Node)) :
    (reader.closeChoice element branches last).IsPlaced whole reached := by
  unfold Reader.closeChoice
  apply addDirective
  split
  · exact placed.report (Element.isWithin_span onTag) _ _
  · exact placed

/-- Declarations change while none of the open elements declares something. -/
theorem declare {declared : Mapper} (placed : reader.IsPlaced whole reached)
    (none : ∀ frame ∈ reader.stack, frame.role.declared? = none)
    (mapper : declared.IsPlaced whole reached) :
    { reader with mapper := declared }.IsPlaced whole reached := by
  refine ⟨placed.frames, placed.findings, mapper, placed.nested, ?_⟩
  intro frame member declares
  rw [none frame member] at declares
  cases declares

/-! ### Opening elements -/

theorem openRoot (placed : reader.IsPlaced whole reached) (onTag : element.IsPlaced whole)
    (behind : element.stop ≤ reached) (none : ∀ frame ∈ reader.stack, frame.role.declared? = none) :
    (reader.openRoot element).IsPlaced whole reached := by
  unfold Reader.openRoot
  split
  · exact placed.halt (Element.isWithin_span onTag) _
  · have required := placed.require onTag "namespace"
    rw [← stack_require reader element "namespace"] at none
    apply (required.declare none (Mapper.isPlaced_empty _)).push onTag behind
    · simp [Role.declared?]
    · exact fun _ => none
    · simp [Role.declared?]

theorem openDeclaration (placed : reader.IsPlaced whole reached) (onTag : element.IsPlaced whole)
    (behind : element.stop ≤ reached) (none : ∀ frame ∈ reader.stack, frame.role.declared? = none)
    (earlier : ∀ extent ∈ reader.mapper.extents, extent.2.stop ≤ element.start) :
    (reader.openDeclaration element).IsPlaced whole reached := by
  have declaration {role : Role} (declares : role.declared? = some element.name) :
      ((reader.push element role).require element "id").IsPlaced whole reached := by
    apply require _ onTag
    apply placed.push onTag behind
    · simp [declares]
    · exact fun _ => none
    · exact fun _ => earlier
  unfold Reader.openDeclaration
  split
  · rename_i isFragment
    exact declaration (congrArg some (beq_iff_eq.1 isFragment).symm)
  · split
    · rename_i kind isStatement
      unfold StatementKind.ofTag? at isStatement
      have named := List.find?_some isStatement
      exact declaration (congrArg some (beq_iff_eq.1 named))
    · apply pushInner _ onTag behind rfl
      split
      · exact placed
      · exact placed.report (Element.isWithin_span onTag) _ _

theorem openDirective (placed : reader.IsPlaced whole reached) (onTag : element.IsPlaced whole)
    (behind : element.stop ≤ reached) : (reader.openDirective element).IsPlaced whole reached := by
  unfold Reader.openDirective
  extract_lets value
  split
  · exact (placed.require onTag _).pushInner onTag behind rfl
  · exact placed.pushInner onTag behind rfl
  · exact placed.pushInner onTag behind rfl
  · exact placed.pushInner onTag behind rfl
  · exact ((placed.require onTag _).require onTag _).pushInner onTag behind rfl
  · exact ((placed.require onTag _).require onTag _).pushInner onTag behind rfl
  · exact (placed.require onTag _).pushInner onTag behind rfl
  · exact (placed.report (Element.isWithin_span onTag) _ _).pushInner onTag behind rfl

theorem openBranch (placed : reader.IsPlaced whole reached) (onTag : element.IsPlaced whole)
    (behind : element.stop ≤ reached) : (reader.openBranch element).IsPlaced whole reached := by
  unfold Reader.openBranch
  split
  · exact (placed.require onTag _).pushInner onTag behind rfl
  · exact placed.pushInner onTag behind rfl
  · exact (placed.report (Element.isWithin_span onTag) _ _).pushInner onTag behind rfl

theorem openElement (placed : reader.IsPlaced whole reached) (onTag : element.IsPlaced whole)
    (behind : element.stop ≤ reached)
    (earlier : ∀ extent ∈ reader.mapper.extents, extent.2.stop ≤ element.start) :
    (reader.openElement element).IsPlaced whole reached := by
  unfold Reader.openElement
  split
  · exact placed
  · rename_i frame outer opened
    -- around a root or a declaration nothing is open that declares something
    have none (isOuter : frame.role.isOuter) (undeclared : frame.role.declared? = none) :
        ∀ other ∈ reader.stack, other.role.declared? = none := by
      rw [opened]
      exact List.forall_mem_cons.2 ⟨undeclared, placed.declared?_below opened isOuter⟩
    split
    · rename_i outside
      exact placed.openRoot onTag behind (none (by rw [outside]; rfl) (by rw [outside]; rfl))
    · rename_i inMapper
      exact placed.openDeclaration onTag behind (none (by rw [inMapper]; rfl) (by rw [inMapper]; rfl))
        earlier
    · exact placed.openBranch onTag behind
    · rename_i skipping
      refine placed.replaceTop opened ?_ ?_ ?_
      · rfl
      · rw [skipping]
        rfl
      · rw [skipping]
        rfl
    · exact placed.openDirective onTag behind

/-! ### Closing elements -/

theorem closeStatement (placed : reader.IsPlaced whole stop) {kind : StatementKind}
    (opened : reader.stack = ⟨some element, .statement kind, nodes⟩ :: outer)
    (ends : EndsWith whole stop '>') :
    (reader.closeStatement outer element kind nodes stop).IsPlaced whole stop := by
  have top := placed.frames _ (opened ▸ List.mem_cons_self)
  have onTag := top.element element rfl
  have isElement := isElement_of_endsWith onTag.1 (top.tag _ rfl element rfl) onTag.2 ends
  have earlier := placed.earlier _ (opened ▸ List.mem_cons_self) rfl element rfl
  have timed := placed.readTimeout onTag.1
  have same : (reader.readTimeout element).2.stack = reader.stack ∧
      (reader.readTimeout element).2.mapper = reader.mapper := by
    unfold Reader.readTimeout
    grind [Reader.report]
  rw [← same.1] at opened
  rw [← same.2] at earlier
  have closed := timed.close opened
  have below := timed.declared?_below opened rfl
  unfold Reader.closeStatement
  generalize reader.readTimeout element = read at *
  obtain ⟨timeout, later⟩ := read
  dsimp only at *
  split
  · exact closed
  · split
    · exact closed.reportRepeated isElement.isWithin _ _
    · exact closed.declare below (closed.mapper.addStatement isElement le_rfl earlier)

theorem closeFragment (placed : reader.IsPlaced whole stop)
    (opened : reader.stack = ⟨some element, .fragment, nodes⟩ :: outer)
    (ends : EndsWith whole stop '>') :
    (reader.closeFragment outer element nodes stop).IsPlaced whole stop := by
  have top := placed.frames _ (opened ▸ List.mem_cons_self)
  have onTag := top.element element rfl
  have isElement := isElement_of_endsWith onTag.1 (top.tag _ rfl element rfl) onTag.2 ends
  have earlier := placed.earlier _ (opened ▸ List.mem_cons_self) rfl element rfl
  have closed := placed.close opened
  have below := placed.declared?_below opened rfl
  unfold Reader.closeFragment
  dsimp only
  split
  · exact closed
  · split
    · exact closed.reportRepeated isElement.isWithin _ _
    · exact closed.declare below (closed.mapper.addFragment isElement le_rfl earlier)

theorem closeElement (placed : reader.IsPlaced whole stop) (ends : EndsWith whole stop '>') :
    (reader.closeElement stop).IsPlaced whole stop := by
  unfold Reader.closeElement
  split
  · rename_i element role nodes outer opened
    have onTag := ((placed.frames _ (opened ▸ List.mem_cons_self)).element element rfl).1
    have closed := placed.close opened
    dsimp only
    split
    · exact placed
    · exact placed
    · exact ⟨closed.frames, closed.findings, closed.mapper, closed.nested, closed.earlier⟩
    · exact placed.closeStatement opened ends
    · exact placed.closeFragment opened ends
    · exact closed.addNodes _
    · exact closed.addDirective _
    · exact closed.addDirective _
    · exact closed.addDirective _
    · exact closed.closeChoice onTag _ _
    · exact closed.addBranch _ _
    · exact closed.setFallback onTag _
    · exact closed
    · exact closed.addDirective _
    · exact placed.replaceTop opened rfl rfl rfl
  · exact placed

/-! ### Whole runs -/

theorem addText (placed : reader.IsPlaced whole stop) (bound : stop ≤ Text.utf8Length whole)
    (content : String) : (reader.addText content stop).IsPlaced whole stop := by
  unfold Reader.addText
  split
  · exact placed
  · split
    · split
      · exact placed
      · exact placed.halt ⟨le_rfl, bound⟩ _
    · split
      · exact placed.addNodes _
      · exact placed

theorem step {event : Event} (placed : reader.IsPlaced whole reached) (behind : reached ≤ start)
    (ordered : start ≤ stop) (bound : stop ≤ Text.utf8Length whole)
    (read : event.IsPlaced whole start stop) : (reader.step ⟨event, stop⟩).IsPlaced whole stop := by
  have later := placed.mono (behind.trans ordered)
  unfold Reader.step
  split
  · exact later
  · cases event with
    | text content => exact later.addText bound content
    | closing => exact later.closeElement read
    | opening element =>
        obtain ⟨onTag, rfl, rfl⟩ := read
        have opened := later.openElement onTag le_rfl fun extent member =>
          (placed.mapper.before extent member).trans behind
        obtain ⟨content, -, occupies⟩ := onTag
        dsimp only
        split
        · exact opened.closeElement (occupies.endsWith (List.suffix_append _ _))
        · exact opened

theorem finish (placed : reader.IsPlaced whole reached) {ending : Ending}
    (within : ∀ start stop cause, ending = .fault start stop cause →
      Span.IsWithin (Text.utf8Length whole) ⟨start, stop⟩) :
    (reader.finish ending).IsPlaced whole reached := by
  unfold Reader.finish
  split
  · exact placed
  · split
    · exact placed.halt (within _ _ _ rfl) _
    · split
      · rename_i element _ _ _ opened
        have top := placed.frames _ (opened ▸ List.mem_cons_self)
        exact placed.halt (Element.isWithin_span (top.element element rfl).1) _
      · exact ⟨placed.frames, placed.findings, placed.mapper, placed.nested, placed.earlier⟩
      · exact placed.halt ⟨le_rfl, Nat.zero_le _⟩ _

theorem readDocument {document : Xml.Document} (read : document.IsPlaced whole reached)
    (placed : reader.IsPlaced whole reached) :
    ∃ last, (reader.readDocument document).IsPlaced whole last := by
  induction read generalizing reader with
  | complete => exact ⟨_, placed.finish nofun⟩
  | fault cause ordered bound =>
      refine ⟨_, placed.finish ?_⟩
      rintro _ _ _ ⟨⟩
      exact ⟨ordered, bound.2⟩
  | event behind ordered event later ih =>
      exact ih (placed.step behind ordered later.reached_le event)

theorem readAll (role : Role) (undeclared : role.declared? = none) (source : String) :
    ∃ last, (Reader.readAll role source).IsPlaced (Xml.withoutMark source.toList) last := by
  apply readDocument (Xml.Document.isPlaced_read source)
  refine ⟨?_, List.forall_mem_nil _, Mapper.isPlaced_empty _, List.pairwise_singleton _ _, ?_⟩
  · refine List.forall_mem_singleton.2 ⟨nofun, ?_⟩
    simp
  · simp [undeclared]

end Reader.IsPlaced

end SqlMapper
