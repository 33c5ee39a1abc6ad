import Mathlib
import SqlMapper.Proofs.Mapper.Position
import SqlMapper.Proofs.Template.Interruption
import SqlMapper.Proofs.Template.Normal
import SqlMapper.Proofs.Xml.Interruption

/-!
# Templates with comments and instructions in them

Remarks divide the text of a template, and the reader scans each part on its own before it joins them.
So a template is read as if they were not there if none of them stands inside a placeholder, and one
that does turns the placeholder into text.
-/

namespace SqlMapper

open Slice (IsUncut)
open Xml (Document Divided Interrupted)

namespace Reader

/-- The reader behind a text. -/
def hear (reader : Reader) (part : List Char) : Reader :=
  reader.step ⟨.text (String.ofList part), 0⟩

variable {mapper : Mapper} {frame : Frame} {outer : List Frame} {found : List Diagnostic}
  {front behind : List Char} {parts : List (List Char)}

/-! ### Text in parts -/

theorem hear_collecting (collects : frame.role.collects) (part : List Char) :
    (running mapper (frame :: outer) found).hear part =
      running mapper (frame.fill (Node.scan (String.ofList part)) :: outer) found := by
  obtain ⟨element, role, nodes⟩ := frame
  cases role <;> first | rfl | cases collects

theorem hear_outside (outside : frame.role = .outside) (part : List Char) :
    (running mapper (frame :: outer) found).hear part =
      if part.all Text.isBlank then running mapper (frame :: outer) found
      else (running mapper (frame :: outer) found).halt ⟨0, 0⟩ "content outside `<mapper>`" := by
  obtain ⟨element, role, nodes⟩ := frame
  cases outside
  change (if (String.ofList part).toList.all Text.isBlank then _ else _) = _
  rw [String.toList_ofList]

/-- What becomes of text, by the state of the reader. -/
inductive Hearing : Reader → Prop where
  | deaf {reader : Reader} (deaf : ∀ part, reader.hear part = reader) : Hearing reader
  | collecting {mapper : Mapper} {frame : Frame} {outer : List Frame} {found : List Diagnostic}
      (collects : frame.role.collects) : Hearing (running mapper (frame :: outer) found)
  | outside {mapper : Mapper} {frame : Frame} {outer : List Frame} {found : List Diagnostic}
      (outside : frame.role = .outside) : Hearing (running mapper (frame :: outer) found)

theorem hear_stopped {reader : Reader} (stopped : reader.progress ≠ .running) (part : List Char) :
    reader.hear part = reader := by
  rw [hear, step, if_pos (by simpa using stopped)]

theorem hearing (reader : Reader) : reader.Hearing := by
  by_cases stopped : reader.progress ≠ .running
  · exact .deaf (hear_stopped stopped)
  · obtain ⟨stack, mapper, found, progress⟩ := reader
    cases not_not.1 stopped
    rcases stack with _ | ⟨⟨element, role, nodes⟩, outer⟩
    · exact .deaf fun _ => rfl
    · cases role <;> first
        | exact .deaf fun _ => rfl
        | exact .collecting rfl
        | exact .outside rfl

theorem hear_nil (reader : Reader) : reader.hear [] = reader := by
  cases reader.hearing with
  | deaf deaf => exact deaf []
  | collecting collects =>
      have empty : Node.scan (String.ofList []) = [] := by
        rw [Node.scan, String.toList_ofList, TextPiece.split, List.map_nil]
      rw [hear_collecting collects, empty]
      rfl
  | outside outside =>
      rw [hear_outside outside]
      rfl

/-- Text is heard alike in two parts if no placeholder is cut. -/
theorem hear_append (uncut : ¬Slice.Cuts front behind) (reader : Reader) :
    reader.hear (front ++ behind) = (reader.hear front).hear behind := by
  cases reader.hearing with
  | deaf deaf => rw [deaf, deaf, deaf]
  | @collecting mapper frame outer found collects =>
      have filled : (frame.fill (Node.scan (String.ofList front))).role.collects := collects
      rw [hear_collecting collects, hear_collecting collects, hear_collecting filled, Frame.fill_fill,
        ← Node.joined_scan_append uncut, Frame.fill_joined]
  | outside outside =>
      rw [hear_outside outside front]
      split
      · rename_i blank
        rw [hear_outside outside, hear_outside outside, List.all_append, blank, Bool.true_and]
      · rename_i solid
        have later : ¬(front ++ behind).all Text.isBlank := by
          simp [List.all_append, solid]
        rw [hear_outside outside, if_neg later]
        exact (hear_stopped (by simp [halt]) behind).symm

theorem foldl_hear_collecting (collects : frame.role.collects) (parts : List (List Char)) :
    parts.foldl hear (running mapper (frame :: outer) found) =
      running mapper (frame.fill (Node.scanParts parts) :: outer) found := by
  induction parts generalizing frame with
  | nil => rfl
  | cons part rest ih =>
      have filled : (frame.fill (Node.scan (String.ofList part))).role.collects := collects
      rw [List.foldl_cons, hear_collecting collects, ih filled, Frame.fill_fill]
      rfl

theorem foldl_hear (uncut : IsUncut parts) (reader : Reader) :
    parts.foldl hear reader = reader.hear parts.flatten := by
  induction parts generalizing reader with
  | nil => exact (hear_nil reader).symm
  | cons part rest ih => rw [List.foldl_cons, ih uncut.2, List.flatten_cons, hear_append uncut.1]

/-! ### Sources with remarks -/

variable {reader : Reader} {raw longer part after rest later : List Char} {opened : List String}
  {runs : List (List (List Char))}

theorem readDocument_behind (reader : Reader) (events : List Xml.Event) (document : Document) :
    reader.readDocument (document.behind events) =
      ((events.map fun event => ⟨event, 0⟩).foldl step reader).readDocument document := by
  rw [readDocument, Document.behind, List.foldl_append]
  rfl

theorem readDocument_text (plain : '<' ∉ raw) (decoded : Xml.Entity.decode raw = .ok (String.ofList part))
    (next : ∀ c ∈ after.head?, c = '<') (reader : Reader) :
    reader.readDocument (Document.bare opened (raw ++ after)) =
      (reader.hear part).readDocument (Document.bare opened after) := by
  cases raw with
  | nil =>
      rw [Xml.Entity.decode_eq_ok_iff, Xml.Entity.decodeFrom] at decoded
      cases decoded
      rw [hear_nil, List.nil_append]
  | cons c rest =>
      rw [Document.bare_text (List.cons_ne_nil c rest) plain decoded next, readDocument_behind]
      rfl

theorem readDocument_divided (run : Divided parts raw longer) (next : ∀ c ∈ after.head?, c = '<')
    (reader : Reader) :
    reader.readDocument (Document.bare opened (longer ++ after)) =
      (parts.foldl hear reader).readDocument (Document.bare opened after) := by
  induction run generalizing reader with
  | last plain decoded => exact readDocument_text plain decoded next reader
  | @remark raw part remark rest longer parts plain decoded isRemark _ ih =>
      have begins : ∀ c ∈ (remark ++ (longer ++ after)).head?, c = '<' := by
        obtain ⟨markup, rfl, -⟩ := isRemark.ofMarkup
        simp
      rw [List.append_assoc, List.append_assoc, readDocument_text plain decoded begins,
        Document.bare_remark isRemark, ih]
      rfl

/-- Remarks that cut no placeholder make no difference. -/
theorem readDocument_interrupted (interrupted : Interrupted runs rest later)
    (uncut : ∀ run ∈ runs, IsUncut run) (opened : List String) (reader : Reader) :
    reader.readDocument (Document.bare opened later) = reader.readDocument (Document.bare opened rest) := by
  induction interrupted generalizing opened reader with
  | @last parts raw longer run =>
      have next : ∀ c ∈ ([] : List Char).head?, c = '<' := by simp
      rw [← List.append_nil longer, ← List.append_nil raw, readDocument_divided run next,
        readDocument_text run.plain run.decoded next, foldl_hear (uncut parts (by simp))]
  | @markup parts raw longer markup rest later piece runs run complete _ ih =>
      rw [List.forall_mem_cons] at uncut
      have next (text : List Char) : ∀ c ∈ ('<' :: text).head?, c = '<' := by simp
      rw [readDocument_divided run (next _), readDocument_text run.plain run.decoded (next _),
        foldl_hear uncut.1, Document.bare_markup complete, Document.bare_markup complete]
      cases piece.effect opened with
      | error fault => rfl
      | ok done =>
          dsimp only
          rw [readDocument_behind, readDocument_behind, ih uncut.2]

/-- What the reading of a template begins with. -/
def template : Reader :=
  { stack := [{ element := none, role := .template }] }

end Reader

theorem Reader.unplaced_readAll (source : String) :
    (readAll .template source).unplaced =
      template.readDocument (Document.bare [] (Xml.withoutMark source.toList)) := by
  rw [← Document.unplaced_read]
  exact unplaced_readDocument template (Document.read source)

namespace Node

open Xml (withoutMark)

variable {source longer : String} {root : Node} {findings : List Diagnostic} {parts : List (List Char)}
  {runs : List (List (List Char))} {raw : List Char}

/-- Text alone is read as the nodes of its parts. -/
theorem parse_divided (run : Divided parts raw (withoutMark source.toList)) :
    Node.parse source = .ok (sequence (joined (scanParts parts)), []) := by
  have read : (Reader.readAll .template source).unplaced =
      { stack := [⟨none, .template, joined (scanParts parts)⟩], progress := .finished } := by
    rw [Reader.unplaced_readAll, ← List.append_nil (withoutMark source.toList),
      Reader.readDocument_divided run (by simp), Document.bare_nil]
    change ((parts.foldl Reader.hear (Reader.running default [⟨none, .template, []⟩] [])).finish _) = _
    rw [Reader.foldl_hear_collecting rfl]
    rfl
  rw [parse_eq_ok_iff, read]
  refine ⟨rfl, rfl, ?_⟩
  have none := congrArg Reader.diagnostics read
  exact List.map_eq_nil_iff.1 none

theorem parse_whole (run : Divided parts (withoutMark source.toList) raw) :
    Node.parse source = .ok (sequence (scan (String.ofList parts.flatten)), []) := by
  have whole : Divided [parts.flatten] (withoutMark source.toList) (withoutMark source.toList) :=
    .last run.plain run.decoded
  rw [parse_divided whole, scanParts, List.flatMap_singleton, (areSeparate_scan _).joined_eq]

theorem isBody_scanParts (parts : List (List Char)) : IsBody (joined (scanParts parts)) := by
  apply isBody_nil.appendAll
  intro node member
  obtain ⟨part, _, scanned⟩ := List.mem_flatMap.1 member
  exact isInner_of_mem_scan scanned

/-- A template with remarks in its text is read like the template without them, if no remark stands
inside a placeholder.  One that does is not ignored: in a template without markup the tree is the same
only if no placeholder is cut. -/
theorem parse_interrupted (accepted : Node.parse source = .ok (root, findings))
    (interrupted : Interrupted runs (withoutMark source.toList) (withoutMark longer.toList)) :
    ((∀ run ∈ runs, IsUncut run) →
      ∃ later, Node.parse longer = .ok (root, later) ∧
        later.map Diagnostic.unplaced = findings.map Diagnostic.unplaced) ∧
      ∀ run, runs = [run] → ((∃ later, Node.parse longer = .ok (root, later)) ↔ IsUncut run) := by
  have whole : (∀ run ∈ runs, IsUncut run) →
      ∃ later, Node.parse longer = .ok (root, later) ∧
        later.map Diagnostic.unplaced = findings.map Diagnostic.unplaced := by
    intro uncut
    apply parse_of_unplaced accepted
    rw [Reader.unplaced_readAll, Reader.unplaced_readAll]
    exact Reader.readDocument_interrupted interrupted uncut _ _
  refine ⟨whole, ?_⟩
  rintro run rfl
  constructor
  · rintro ⟨later, read⟩
    rw [parse_whole interrupted.divided] at accepted
    rw [parse_divided interrupted.divided] at read
    have same : sequence (joined (scanParts run)) = sequence (scan (String.ofList run.flatten)) := by
      simp only [Except.ok.injEq, Prod.mk.injEq] at accepted read
      rw [accepted.1, read.1]
    exact (joined_scanParts_iff run).1 ((isBody_scanParts run).eq_of_sequence (isBody_scan _) same)
  · intro uncut
    obtain ⟨later, read, -⟩ := whole (by simpa using uncut)
    exact ⟨later, read⟩

/-- A comment in front of a placeholder, and an instruction in a directive. -/
theorem parse_interrupted_directive :
    let source := "a #\x7bb\x7d<if test=\"c\">d</if>"
    let longer := "a<!-- x --> #\x7bb\x7d<if test=\"c\">d<?y?></if>"
    let root : Node := .mixed [.text "a ", .parameter "b" false, .condition "c" [.text "d"]]
    Node.parse source = .ok (root, []) ∧ ∃ later, Node.parse longer = .ok (root, later) := by
  intro source longer root
  have events : (Xml.Document.read source).events =
      [⟨.text "a #\x7bb\x7d", 6⟩, ⟨.opening ⟨"if", [("test", "c")], 6, 19, false⟩, 19⟩,
        ⟨.text "d", 20⟩, ⟨.closing, 25⟩] := by decide +kernel
  have ending : (Xml.Document.read source).ending = .complete := by cbv
  have accepted : Node.parse source = .ok (root, []) := by
    simp only [Node.parse, Reader.readAll, events, ending]
    cbv
  have front : Divided [['a'], " #\x7bb\x7d".toList] (['a'] ++ " #\x7bb\x7d".toList)
      (['a'] ++ (['<', '!', '-', '-'] ++ " x ".toList ++ ['-', '-', '>'] ++ " #\x7bb\x7d".toList)) :=
    .remark (by decide) (by cbv) (.comment (by decide)) (.last (by decide) (by cbv))
  have inside : Divided [['d'], []] (['d'] ++ []) (['d'] ++ (['<', '?'] ++ ['y'] ++ ['?', '>'] ++ [])) :=
    .remark (by decide) (by cbv) (.instruction (by decide)) (.last (by decide) (by cbv))
  have behind : Divided [[]] [] [] := .last (by decide) (by cbv)
  have opening : Xml.Piece.ofMarkup "if test=\"c\">".toList = .ok (.tag "if test=\"c\"".toList, []) := by
    cbv
  have closing : Xml.Piece.ofMarkup "/if>".toList = .ok (.endTag "if".toList, []) := by
    cbv
  have interrupted : Interrupted [[['a'], " #\x7bb\x7d".toList], [['d'], []], [[]]]
      (withoutMark source.toList) (withoutMark longer.toList) := by
    convert Interrupted.markup front opening (.markup inside closing (.last behind)) using 1 <;>
      decide +kernel
  have uncut : ∀ run ∈ [[['a'], " #\x7bb\x7d".toList], [['d'], []], [[]]], IsUncut run := by
    simp only [List.forall_mem_cons]
    simp only [← joined_scanParts_iff]
    exact ⟨by cbv, by cbv, by cbv, by simp⟩
  obtain ⟨later, read, -⟩ := (parse_interrupted accepted interrupted).1 uncut
  exact ⟨accepted, later, read⟩

/-- A comment inside the name of a placeholder is left out, and what remains is text. -/
theorem placeholder_cut :
    Interrupted [["#\x7bna".toList, "me\x7d".toList]] (withoutMark "#\x7bname\x7d".toList)
        (withoutMark "#\x7bna<!-- c -->me\x7d".toList) ∧
      Node.parse "#\x7bname\x7d" = .ok (.parameter "name" false, []) ∧
      Node.parse "#\x7bna<!-- c -->me\x7d" = .ok (.text "#\x7bname\x7d", []) := by
  have cut : Divided ["#\x7bna".toList, "me\x7d".toList] ("#\x7bna".toList ++ "me\x7d".toList)
      ("#\x7bna".toList ++ (['<', '!', '-', '-'] ++ " c ".toList ++ ['-', '-', '>'] ++ "me\x7d".toList)) :=
    .remark (by decide) (by cbv) (.comment (by decide)) (.last (by decide) (by cbv))
  have interrupted : Interrupted [["#\x7bna".toList, "me\x7d".toList]] (withoutMark "#\x7bname\x7d".toList)
      (withoutMark "#\x7bna<!-- c -->me\x7d".toList) := by
    convert Interrupted.last cut using 1 <;> decide +kernel
  refine ⟨interrupted, ?_, ?_⟩
  · rw [parse_whole interrupted.divided]
    cbv
  · rw [parse_divided interrupted.divided]
    cbv

end Node

end SqlMapper
