import SqlMapper.Mapper.Reader
import SqlMapper.Proofs.Xml.Position

/-!
# Positions make no difference to reading

A reader takes the positions of events over into its findings and declarations and never looks at them.
So reading events without positions leaves the same reader, but for the positions in it.
-/

namespace SqlMapper

/-! ### Without positions -/

def Diagnostic.unplaced (finding : Diagnostic) : Diagnostic :=
  { finding with span := ⟨0, 0⟩ }

def Statement.unplaced (statement : Statement) : Statement :=
  { statement with span := ⟨0, 0⟩ }

def Fragment.unplaced (fragment : Fragment) : Fragment :=
  { fragment with span := ⟨0, 0⟩ }

def Mapper.unplaced (mapper : Mapper) : Mapper :=
  { mapper with
    statements := mapper.statements.map Statement.unplaced
    fragments := mapper.fragments.map Fragment.unplaced }

def Frame.unplaced (frame : Frame) : Frame :=
  { frame with element := frame.element.map Xml.Element.unplaced }

def Reader.unplaced (reader : Reader) : Reader :=
  { reader with
    stack := reader.stack.map Frame.unplaced
    mapper := reader.mapper.unplaced
    diagnostics := reader.diagnostics.map Diagnostic.unplaced }

open Xml (Element Located)

variable {reader : Reader} {element : Element} {outer : List Frame} {nodes : List Node}

@[simp]
theorem Xml.Element.attribute?_unplaced (element : Element) (key : String) :
    element.unplaced.attribute? key = element.attribute? key := rfl

theorem Xml.Element.name_unplaced (element : Element) : element.unplaced.name = element.name := rfl

theorem Mapper.statement?_unplaced (mapper : Mapper) (id : String) :
    (mapper.unplaced.statement? id).isSome = (mapper.statement? id).isSome := by
  rw [Mapper.statement?, Mapper.unplaced, List.find?_map, Option.isSome_map]
  rfl

theorem Mapper.fragment?_unplaced (mapper : Mapper) (id : String) :
    (mapper.unplaced.fragment? id).isSome = (mapper.fragment? id).isSome := by
  rw [Mapper.fragment?, Mapper.unplaced, List.find?_map, Option.isSome_map]
  rfl

theorem Diagnostic.hasFatal_unplaced (findings : List Diagnostic) :
    Diagnostic.hasFatal (findings.map Diagnostic.unplaced) = Diagnostic.hasFatal findings := by
  rw [Diagnostic.hasFatal, List.any_map]
  rfl

namespace Reader

/-! ### Findings -/

theorem owner?_unplaced (reader : Reader) : reader.unplaced.owner? = reader.owner? := by
  unfold owner?
  rw [unplaced, List.findSome?_map]
  congr 1
  funext frame
  rcases frame with ⟨_ | element, role, nodes⟩ <;> cases role <;> rfl

theorem unplaced_report (reader : Reader) (kind : DiagnosticKind) (span : Span) (detail : Option String) :
    (reader.report kind span detail).unplaced = reader.unplaced.report kind ⟨0, 0⟩ detail := by
  rw [report, report, owner?_unplaced]
  simp [unplaced, Diagnostic.unplaced]

theorem unplaced_halt (reader : Reader) (span : Span) (detail : String) :
    (reader.halt span detail).unplaced = reader.unplaced.halt ⟨0, 0⟩ detail := by
  rw [halt, halt, ← unplaced_report reader _ span]
  rfl

theorem unplaced_reportRepeated (reader : Reader) (kind : DiagnosticKind) (span : Span) (id : String) :
    (reader.reportRepeated kind span id).unplaced =
      reader.unplaced.reportRepeated kind ⟨0, 0⟩ id := by
  simp [reportRepeated, unplaced, Diagnostic.unplaced, Mapper.unplaced, Mapper.qualify]

theorem unplaced_require (reader : Reader) (element : Element) (key : String) :
    (reader.require element key).unplaced = reader.unplaced.require element.unplaced key := by
  unfold require
  rw [Xml.Element.attribute?_unplaced]
  split
  · rfl
  · apply unplaced_report

theorem unplaced_readTimeout (reader : Reader) (element : Element) :
    reader.unplaced.readTimeout element.unplaced =
      ((reader.readTimeout element).1, (reader.readTimeout element).2.unplaced) := by
  unfold readTimeout
  rw [Xml.Element.attribute?_unplaced]
  split
  · rfl
  · split
    · rfl
    · rw [unplaced_report]
      rfl

/-! ### Opening elements -/

theorem unplaced_push (reader : Reader) (element : Element) (role : Role) :
    (reader.push element role).unplaced = reader.unplaced.push element.unplaced role := rfl

theorem unplaced_openRoot (reader : Reader) (element : Element) :
    (reader.openRoot element).unplaced = reader.unplaced.openRoot element.unplaced := by
  unfold openRoot
  rw [Xml.Element.name_unplaced]
  by_cases other : element.name != "mapper"
  · rw [if_pos other, if_pos other]
    apply unplaced_halt
  · rw [if_neg other, if_neg other, ← unplaced_require]
    rfl

theorem unplaced_openDeclaration (reader : Reader) (element : Element) :
    (reader.openDeclaration element).unplaced = reader.unplaced.openDeclaration element.unplaced := by
  unfold openDeclaration
  rw [Xml.Element.name_unplaced]
  by_cases fragment : element.name == "sql"
  · rw [if_pos fragment, if_pos fragment, unplaced_require, unplaced_push]
  · rw [if_neg fragment, if_neg fragment]
    cases StatementKind.ofTag? element.name with
    | some kind =>
        dsimp only
        rw [unplaced_require, unplaced_push]
    | none =>
        dsimp only
        rw [unplaced_push]
        by_cases foreign : element.name ∈ Role.foreignDeclarations
        · rw [if_pos foreign, if_pos foreign]
        · rw [if_neg foreign, if_neg foreign, unplaced_report]
          rfl

theorem unplaced_openDirective (reader : Reader) (element : Element) :
    (reader.openDirective element).unplaced = reader.unplaced.openDirective element.unplaced := by
  have sameSpace : reader.unplaced.mapper.nameSpace = reader.mapper.nameSpace := rfl
  unfold openDirective
  simp only [Xml.Element.name_unplaced, Xml.Element.attribute?_unplaced, sameSpace]
  split
  all_goals simp only [unplaced_push, unplaced_require, unplaced_report]
  all_goals rfl

theorem unplaced_openBranch (reader : Reader) (element : Element) :
    (reader.openBranch element).unplaced = reader.unplaced.openBranch element.unplaced := by
  unfold openBranch
  simp only [Xml.Element.name_unplaced, Xml.Element.attribute?_unplaced]
  split
  all_goals simp only [unplaced_push, unplaced_require, unplaced_report]
  all_goals rfl

theorem unplaced_openElement (reader : Reader) (element : Element) :
    (reader.openElement element).unplaced = reader.unplaced.openElement element.unplaced := by
  obtain ⟨stack, mapper, findings, progress⟩ := reader
  rcases stack with _ | ⟨⟨opened, role, nodes⟩, outer⟩
  · rfl
  · cases role <;> first
      | rfl
      | apply unplaced_openRoot
      | apply unplaced_openDeclaration
      | apply unplaced_openDirective
      | apply unplaced_openBranch

/-! ### Closing elements -/

theorem unplaced_modifyTop {change : Frame → Frame}
    (keeps : ∀ frame, (change frame).unplaced = change frame.unplaced) (reader : Reader) :
    (reader.modifyTop change).unplaced = reader.unplaced.modifyTop change := by
  obtain ⟨stack, mapper, findings, progress⟩ := reader
  cases stack with
  | nil => rfl
  | cons frame outer =>
      have kept := keeps frame
      simp [modifyTop, unplaced, kept]

theorem unplaced_addNodes (reader : Reader) (added : List Node) :
    (reader.addNodes added).unplaced = reader.unplaced.addNodes added := by
  apply unplaced_modifyTop
  intro frame
  rfl

theorem unplaced_addDirective (reader : Reader) (node : Node) :
    (reader.addDirective node).unplaced = reader.unplaced.addDirective node := by
  apply unplaced_modifyTop
  intro frame
  rfl

theorem unplaced_addBranch (reader : Reader) (test : String) (nodes : List Node) :
    (reader.addBranch test nodes).unplaced = reader.unplaced.addBranch test nodes := by
  apply unplaced_modifyTop
  rintro ⟨element, role, inside⟩
  cases role <;> rfl

theorem unplaced_setFallback (reader : Reader) (element : Element) (nodes : List Node) :
    (reader.setFallback element nodes).unplaced =
      reader.unplaced.setFallback element.unplaced nodes := by
  have filled : reader.unplaced.hasFallback = reader.hasFallback := by
    obtain ⟨stack, mapper, findings, progress⟩ := reader
    rcases stack with _ | ⟨⟨opened, role, inside⟩, outer⟩
    · rfl
    · cases role with
      | choice branches last => cases last <;> rfl
      | _ => rfl
  unfold setFallback
  rw [filled]
  split
  · apply unplaced_report
  · apply unplaced_modifyTop
    rintro ⟨opened, role, inside⟩
    cases role <;> rfl

theorem unplaced_closeChoice (reader : Reader) (element : Element)
    (branches : List (String × List Node)) (last : Option (List Node)) :
    (reader.closeChoice element branches last).unplaced =
      reader.unplaced.closeChoice element.unplaced branches last := by
  unfold closeChoice
  rw [unplaced_addDirective]
  cases branches with
  | nil =>
      simp only [List.isEmpty_nil, if_true, unplaced_report]
      rfl
  | cons branch rest => rfl

theorem unplaced_closeStatement (reader : Reader) (outer : List Frame) (element : Element)
    (kind : StatementKind) (nodes : List Node) (stop : Nat) :
    (reader.closeStatement outer element kind nodes stop).unplaced =
      reader.unplaced.closeStatement (outer.map Frame.unplaced) element.unplaced kind nodes 0 := by
  unfold closeStatement
  rw [unplaced_readTimeout]
  generalize reader.readTimeout element = read
  obtain ⟨timeout, reader⟩ := read
  simp only [Xml.Element.attribute?_unplaced]
  cases element.attribute? "id" with
  | none => rfl
  | some id =>
      have same : (reader.unplaced.mapper.statement? id).isSome = (reader.mapper.statement? id).isSome :=
        reader.mapper.statement?_unplaced id
      cases taken : (reader.mapper.statement? id).isSome with
      | true =>
          rw [taken] at same
          simp only [taken, same, if_true, unplaced_reportRepeated]
          rfl
      | false =>
          rw [taken] at same
          simp only [taken, same, Bool.false_eq_true, if_false]
          simp [unplaced, Mapper.unplaced, Statement.unplaced, Xml.Element.unplaced]

theorem unplaced_closeFragment (reader : Reader) (outer : List Frame) (element : Element)
    (nodes : List Node) (stop : Nat) :
    (reader.closeFragment outer element nodes stop).unplaced =
      reader.unplaced.closeFragment (outer.map Frame.unplaced) element.unplaced nodes 0 := by
  unfold closeFragment
  simp only [Xml.Element.attribute?_unplaced]
  cases element.attribute? "id" with
  | none => rfl
  | some id =>
      have same : (reader.unplaced.mapper.fragment? id).isSome = (reader.mapper.fragment? id).isSome :=
        reader.mapper.fragment?_unplaced id
      cases taken : (reader.mapper.fragment? id).isSome with
      | true =>
          rw [taken] at same
          simp only [taken, same, if_true, unplaced_reportRepeated]
          rfl
      | false =>
          rw [taken] at same
          simp only [taken, same, Bool.false_eq_true, if_false]
          simp [unplaced, Mapper.unplaced, Fragment.unplaced, Xml.Element.unplaced]

theorem unplaced_closeElement (reader : Reader) (stop : Nat) :
    (reader.closeElement stop).unplaced = reader.unplaced.closeElement 0 := by
  obtain ⟨stack, mapper, findings, progress⟩ := reader
  rcases stack with _ | ⟨⟨_ | element, role, nodes⟩, outer⟩
  · rfl
  · rfl
  · cases role with
    | inline => exact unplaced_addNodes _ nodes
    | condition test => exact unplaced_addDirective _ _
    | clause kind => exact unplaced_addDirective _ _
    | loop header => exact unplaced_addDirective _ _
    | statement kind => exact unplaced_closeStatement _ outer element kind nodes stop
    | fragment => exact unplaced_closeFragment _ outer element nodes stop
    | choice branches last => exact unplaced_closeChoice _ element branches last
    | branch test => exact unplaced_addBranch _ test nodes
    | fallback => exact unplaced_setFallback _ element nodes
    | skipped result depth =>
        cases depth with
        | zero =>
            cases result with
            | none => rfl
            | some node => exact unplaced_addDirective _ node
        | succ depth => cases result <;> rfl
    | _ => rfl

theorem unplaced_addText (reader : Reader) (content : String) (stop : Nat) :
    (reader.addText content stop).unplaced = reader.unplaced.addText content 0 := by
  obtain ⟨stack, mapper, findings, progress⟩ := reader
  rcases stack with _ | ⟨⟨element, role, nodes⟩, outer⟩
  · rfl
  · cases role with
    | outside =>
        simp only [addText, unplaced, List.map_cons, Frame.unplaced]
        split
        · rfl
        · apply unplaced_halt
    | _ => rfl

/-! ### Whole runs -/

theorem unplaced_step (reader : Reader) (located : Located) :
    (reader.step located).unplaced = reader.unplaced.step located.unplaced := by
  have same : reader.unplaced.progress = reader.progress := rfl
  unfold step
  rw [same]
  split
  · rfl
  · obtain ⟨event, stop⟩ := located
    cases event with
    | text content => apply unplaced_addText
    | closing => apply unplaced_closeElement
    | opening element =>
        have later := unplaced_openElement reader element
        have going : (reader.unplaced.openElement element.unplaced).progress =
            (reader.openElement element).progress := by
          rw [← later]
          rfl
        simp only [Located.unplaced, Xml.Event.unplaced, going]
        rw [← later, apply_ite Reader.unplaced, unplaced_closeElement]
        rfl

theorem unplaced_foldl (events : List Located) (reader : Reader) :
    (events.foldl step reader).unplaced =
      (events.map Located.unplaced).foldl step reader.unplaced := by
  induction events generalizing reader with
  | nil => rfl
  | cons located rest ih => rw [List.foldl_cons, ih, unplaced_step, List.map_cons, List.foldl_cons]

theorem unplaced_finish (reader : Reader) (ending : Xml.Ending) :
    (reader.finish ending).unplaced = reader.unplaced.finish ending.unplaced := by
  obtain ⟨stack, mapper, findings, progress⟩ := reader
  cases progress with
  | running =>
      cases ending with
      | fault start stop cause => exact unplaced_halt _ _ _
      | complete =>
          rcases stack with _ | ⟨⟨_ | element, role, nodes⟩, outer⟩
          · exact unplaced_halt _ _ _
          · cases role <;> first | rfl | exact unplaced_halt _ _ _
          · exact unplaced_halt _ _ _
  | finished => rfl
  | halted => rfl

/-- The reader behind all of a document. -/
def readDocument (reader : Reader) (document : Xml.Document) : Reader :=
  (document.events.foldl step reader).finish document.ending

theorem unplaced_readDocument (reader : Reader) (document : Xml.Document) :
    (reader.readDocument document).unplaced = reader.unplaced.readDocument document.unplaced := by
  rw [readDocument, unplaced_finish, unplaced_foldl]
  rfl

theorem succeeded_unplaced (reader : Reader) : reader.unplaced.succeeded = reader.succeeded := by
  rw [succeeded, unplaced, Diagnostic.hasFatal_unplaced]
  rfl

end Reader

namespace Node

variable {source other : String} {root : Node} {findings : List Diagnostic}

/-- What a template is read as can be told without positions, but for those of the findings. -/
theorem parse_eq_ok_iff : Node.parse source = .ok (root, findings) ↔
    (Reader.readAll .template source).unplaced.succeeded ∧
      sequence ((Reader.readAll .template source).unplaced.stack.head?.elim [] (·.nodes)) = root ∧
        (Reader.readAll .template source).diagnostics = findings := by
  unfold Node.parse
  generalize Reader.readAll .template source = reader
  have nodes : reader.unplaced.stack.head?.elim [] (·.nodes) = reader.stack.head?.elim [] (·.nodes) := by
    obtain ⟨_ | ⟨frame, outer⟩, mapper, found, progress⟩ := reader <;> rfl
  rw [nodes, Reader.succeeded_unplaced]
  by_cases succeeded : reader.succeeded <;> simp [succeeded]

/-- A template is read alike from sources that differ in positions only. -/
theorem parse_of_unplaced (accepted : Node.parse source = .ok (root, findings))
    (same : (Reader.readAll .template other).unplaced = (Reader.readAll .template source).unplaced) :
    ∃ later, Node.parse other = .ok (root, later) ∧
      later.map Diagnostic.unplaced = findings.map Diagnostic.unplaced := by
  rw [parse_eq_ok_iff, ← same] at accepted
  obtain ⟨succeeded, read, rfl⟩ := accepted
  exact ⟨_, parse_eq_ok_iff.2 ⟨succeeded, read, rfl⟩, congrArg Reader.diagnostics same⟩

end Node

end SqlMapper
