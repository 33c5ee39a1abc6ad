import SqlMapper.Analysis.Expressions
import SqlMapper.Proofs.Expression.Junction
import Mathlib.Data.List.Flatten

/-!
# What is reported about tests

Every condition that cannot be read is due to be reported, unless the test mixes its junctions and one
of them stands in the condition.  The check looks for `or` in the text of the condition instead.  It
finds every junction there, so it reports nothing that is not due.  It also finds words in quotes and
words at the ends of the test, and then it passes over the condition.
-/

namespace SqlMapper

open Token (lex trimmedText)

/-! ### Parts of lists -/

section Lists

variable {α β : Type} {f g : α → List β} {xs : List α}

theorem flatMap_eq_iff_of_sublist (part : ∀ x ∈ xs, (f x).Sublist (g x)) :
    xs.flatMap f = xs.flatMap g ↔ ∀ x ∈ xs, f x = g x := by
  induction xs with
  | nil => simp
  | cons x rest ih =>
      rw [List.forall_mem_cons] at part
      rw [List.flatMap_cons, List.flatMap_cons, List.forall_mem_cons, ← ih part.2]
      constructor
      · intro same
        have lengths := congrArg List.length same
        have first := part.1.length_le
        have others := (List.Sublist.flatMap_right rest part.2).length_le
        simp only [List.length_append] at lengths
        have equal : f x = g x := part.1.eq_of_length (by omega)
        rw [equal] at same
        exact ⟨equal, List.append_cancel_left same⟩
      · rintro ⟨first, others⟩
        rw [first, others]

end Lists

theorem Atom.text_of_parse {tokens : List Token} {text : String}
    (read : Atom.parse tokens = .invalid text) : text = String.ofList (trimmedText tokens) := by
  simp only [Atom.parse] at read
  split at read
  · split at read
    · cases read
    · cases read
      rfl
  · split at read
    · cases read
      rfl
    · split at read
      · cases read
        rfl
      · cases read

namespace Test

variable {source : String} {piece : List Token} {covered : Bool}

/-- Whether junctions of both kinds stand between the conditions of a test. -/
def isMixed (source : String) : Bool :=
  !(Junction.all.keywords (lex source)).isEmpty && !(Junction.any.keywords (lex source)).isEmpty

/-- Whether an `or` that joins conditions of a test stands in one of its conditions. -/
def holdsJunction (source : String) (piece : List Token) : Bool :=
  piece.any (Junction.any.keywords (lex source)).contains

/-- The report on a condition that cannot be read. -/
def complaint (source text : String) : DiagnosticKind × String :=
  (.invalidExpression,
    if text.isEmpty then s!"empty condition in test `{source}`" else s!"`{text}` in test `{source}`")

/-- What is reported about a condition, unless the report on its test covers it. -/
def findingsOn (source : String) (covered : Bool) (piece : List Token) : List (DiagnosticKind × String) :=
  match Atom.parse piece with
  | .invalid text => if covered then [] else [complaint source text]
  | _ => []

def findingsOnMixed (source : String) : List (DiagnosticKind × String) :=
  if isMixed source then [(.mixedLogicalOperators, source)] else []

/-- What is due to be reported about a test. -/
def dueFindings (source : String) : List (DiagnosticKind × String) :=
  (pieces source).flatMap (fun piece =>
    findingsOn source (isMixed source && holdsJunction source piece) piece) ++ findingsOnMixed source

/-- A condition that cannot be read, with no junction of the test in it but `or` in its text. -/
structure Misread (source : String) (piece : List Token) : Prop where
  mixed : isMixed source
  unreadable : ∃ text, Atom.parse piece = .invalid text
  uncovered : ∀ token ∈ Junction.any.keywords (lex source), token ∉ piece
  appears : ∃ token, Junction.any.Appears piece token

theorem mixed_parse (source : String) : (Test.parse source).mixed = isMixed source := by
  have several (junction : Junction) : decide (1 < (junction.split false (lex source)).length) =
      !(junction.keywords (lex source)).isEmpty := by
    rw [junction.length_split]
    cases junction.keywords (lex source) <;> simp
  simp only [Test.parse, isMixed, gt_iff_lt, several]

theorem findings_parse (source : String) :
    (Test.parse source).findings =
      (pieces source).flatMap (fun piece =>
        findingsOn source (isMixed source && holdsOr (String.ofList (trimmedText piece))) piece) ++
          findingsOnMixed source := by
  have complaints (texts : List String) :
      (texts.map fun text => if text.isEmpty then s!"empty condition in test `{source}`"
        else s!"`{text}` in test `{source}`").map ((DiagnosticKind.invalidExpression, ·)) =
          texts.map (complaint source) :=
    List.map_map
  have named : (Test.parse source).source = source := rfl
  rw [findings, named, complaints, invalidAtoms, mixed_parse, atoms_parse, findingsOnMixed]
  refine congrArg (· ++ _) ?_
  induction pieces source with
  | nil => rfl
  | cons piece rest ih =>
      rw [List.flatMap_cons, ← ih, List.map_cons, List.filterMap_cons]
      cases read : Atom.parse piece with
      | truthy => simp [findingsOn, read]
      | compare => simp [findingsOn, read]
      | invalid text =>
          rw [← Atom.text_of_parse read, findingsOn, read, List.filter_cons]
          cases covered : isMixed source && holdsOr text with
          | true => simp
          | false => simp

/-! ### What the check misses -/

theorem sublist_findingsOn {covered due : Bool} (covers : due → covered) :
    (findingsOn source covered piece).Sublist (findingsOn source due piece) := by
  cases due with
  | true => rw [covers rfl]
  | false =>
      cases covered with
      | true =>
          rw [findingsOn]
          split
          · exact List.nil_sublist _
          · exact List.nil_sublist _
      | false => exact List.Sublist.refl _

theorem findingsOn_eq_iff {covered due : Bool} (covers : due → covered) :
    findingsOn source covered piece = findingsOn source due piece ↔
      ¬(covered ∧ due = false ∧ ∃ text, Atom.parse piece = .invalid text) := by
  cases read : Atom.parse piece with
  | truthy => simp [findingsOn, read]
  | compare => simp [findingsOn, read]
  | invalid text =>
      cases due with
      | true => simp [covers rfl]
      | false =>
          cases covered with
          | true => simp [findingsOn, read]
          | false => simp

theorem infix_of_mem_pieces (member : piece ∈ pieces source) : piece <:+: lex source := by
  unfold pieces at member
  split at member
  · exact (Junction.all.parted_split false _).infix_of_mem piece member
  · split at member
    · exact (Junction.any.parted_split false _).infix_of_mem piece member
    · obtain rfl := List.mem_singleton.1 member
      exact List.infix_rfl

theorem standing_of_mem_pieces (member : piece ∈ pieces source) : Token.Standing piece := by
  obtain ⟨front, back, whole⟩ := infix_of_mem_pieces member
  have standing := Token.standing_lex source
  rw [← whole, List.append_assoc] at standing
  exact standing.of_suffix.of_prefix

theorem holdsOr_iff (member : piece ∈ pieces source) :
    holdsOr (String.ofList (trimmedText piece)) ↔ ∃ token, Junction.any.Appears piece token := by
  rw [← Junction.exists_mem_words_iff (standing_of_mem_pieces member)]
  simp [holdsOr, trimmedText, Token.joined, and_comm]

theorem holdsJunction_iff :
    holdsJunction source piece ↔ ∃ token ∈ Junction.any.keywords (lex source), token ∈ piece := by
  simp [holdsJunction, and_comm]

theorem holdsOr_of_holdsJunction (member : piece ∈ pieces source) (holds : holdsJunction source piece) :
    holdsOr (String.ofList (trimmedText piece)) := by
  obtain ⟨token, keyword, within⟩ := holdsJunction_iff.1 holds
  rw [holdsOr_iff member]
  exact ⟨token, Junction.appears_of_mem_keywords (infix_of_mem_pieces member) keyword within⟩

theorem covered_of_due (member : piece ∈ pieces source) :
    (isMixed source && holdsJunction source piece) →
      (isMixed source && holdsOr (String.ofList (trimmedText piece))) := by
  simp only [Bool.and_eq_true]
  exact And.imp_right (holdsOr_of_holdsJunction member)

theorem findings_sublist (source : String) :
    (Test.parse source).findings.Sublist (dueFindings source) := by
  rw [findings_parse, dueFindings]
  refine List.Sublist.append ?_ (List.Sublist.refl _)
  exact List.Sublist.flatMap_right _ fun piece member => sublist_findingsOn (covered_of_due member)

theorem findings_eq_due_iff (source : String) :
    (Test.parse source).findings = dueFindings source ↔
      ∀ piece ∈ pieces source, ¬Misread source piece := by
  rw [findings_parse, dueFindings, List.append_left_inj,
    flatMap_eq_iff_of_sublist fun piece member => sublist_findingsOn (covered_of_due member)]
  refine forall₂_congr fun piece member => ?_
  rw [findingsOn_eq_iff (covered_of_due member), not_iff_not]
  constructor
  · rintro ⟨covered, uncovered, unreadable⟩
    rw [Bool.and_eq_true] at covered
    rw [covered.1, Bool.true_and] at uncovered
    refine ⟨covered.1, unreadable, ?_, (holdsOr_iff member).1 covered.2⟩
    intro token keyword within
    rw [holdsJunction_iff.2 ⟨token, keyword, within⟩] at uncovered
    cases uncovered
  · intro misread
    have found := (holdsOr_iff member).2 misread.appears
    refine ⟨by simp [misread.mixed, found], ?_, misread.unreadable⟩
    rw [misread.mixed, Bool.true_and, ← Bool.not_eq_true, holdsJunction_iff]
    rintro ⟨token, keyword, within⟩
    exact misread.uncovered token keyword within

end Test

/-! ### The check of a mapper -/

namespace Node.Event

def findings : Event → List (DiagnosticKind × String)
  | .test source => (Test.parse source).findings
  | .bind name value => (Bind.parse value).findings name
  | _ => []

/-- What is due to be reported about something that occurs in a template. -/
def dueFindings : Event → List (DiagnosticKind × String)
  | .test source => Test.dueFindings source
  | event => event.findings

theorem findings_sublist (event : Event) : event.findings.Sublist event.dueFindings := by
  cases event with
  | test source => exact Test.findings_sublist source
  | _ => exact List.Sublist.refl _

theorem findings_eq_due_iff (event : Event) :
    event.findings = event.dueFindings ↔
      ∀ source, event = .test source → ∀ piece ∈ Test.pieces source, ¬Test.Misread source piece := by
  cases event with
  | test source => simp [findings, dueFindings, Test.findings_eq_due_iff]
  | _ => simp [dueFindings]

end Node.Event

theorem ExpressionCache.check_fst (cache : ExpressionCache) (events : List Node.Event) :
    (cache.check events).1 = events.flatMap (·.findings) := by
  induction events generalizing cache with
  | nil => rfl
  | cons event rest ih =>
      cases event with
      | test source => simp [check, ih, Node.Event.findings]
      | bind name value => simp [check, ih, Node.Event.findings]
      | _ => simp [check, ih, Node.Event.findings]

namespace Mapper

/-- A finding in a declaration. -/
def diagnosticIn (mapper : Mapper) (declaration : String × Span × Node)
    (finding : DiagnosticKind × String) : Diagnostic where
  kind := finding.1
  span := declaration.2.1
  detail := some finding.2
  owner := some (mapper.qualify declaration.1)

theorem diagnosticIn_injective (mapper : Mapper) (declaration : String × Span × Node) :
    Function.Injective (mapper.diagnosticIn declaration) := by
  intro first second same
  exact Prod.ext (congrArg Diagnostic.kind same) (Option.some.inj (congrArg Diagnostic.detail same))

/-- The diagnostics of a mapper for findings on what occurs in its declarations. -/
def diagnosticsFrom (mapper : Mapper) (findings : Node.Event → List (DiagnosticKind × String)) :
    List Diagnostic :=
  mapper.declarations.flatMap fun declaration =>
    (declaration.2.2.events.flatMap findings).map (mapper.diagnosticIn declaration)

theorem checkExpressions_fst (mapper : Mapper) (cache : ExpressionCache) :
    (mapper.checkExpressions cache).1 = mapper.diagnosticsFrom (·.findings) := by
  rw [checkExpressions, diagnosticsFrom]
  induction mapper.declarations generalizing cache with
  | nil => rfl
  | cons declaration rest ih =>
      obtain ⟨id, span, root⟩ := declaration
      simp [checkDeclarations, ih, ExpressionCache.check_fst, diagnosticIn]

/-- Each finding of the check is due, and the findings are in order.  All that is due is found unless `or`
appears in quotes, or at an end, in a condition of a mixed test that cannot be read and that no junction
stands in. -/
theorem checkExpressions_eq_due_iff (mapper : Mapper) (cache : ExpressionCache) :
    (mapper.checkExpressions cache).1.Sublist (mapper.diagnosticsFrom (·.dueFindings)) ∧
      ((mapper.checkExpressions cache).1 = mapper.diagnosticsFrom (·.dueFindings) ↔
        ∀ declaration ∈ mapper.declarations, ∀ source, .test source ∈ declaration.2.2.events →
          ∀ piece ∈ Test.pieces source, ¬Test.Misread source piece) := by
  have inEvents (events : List Node.Event) : ∀ event ∈ events, event.findings.Sublist event.dueFindings :=
    fun event _ => event.findings_sublist
  have inDeclaration (declaration : String × Span × Node) :=
    (List.Sublist.flatMap_right _ (inEvents declaration.2.2.events)).map (mapper.diagnosticIn declaration)
  rw [checkExpressions_fst]
  refine ⟨List.Sublist.flatMap_right _ fun declaration _ => inDeclaration declaration, ?_⟩
  rw [diagnosticsFrom, diagnosticsFrom,
    flatMap_eq_iff_of_sublist fun declaration _ => inDeclaration declaration]
  refine forall₂_congr fun declaration _ => ?_
  rw [(mapper.diagnosticIn_injective declaration).list_map.eq_iff, flatMap_eq_iff_of_sublist (inEvents _)]
  simp only [Node.Event.findings_eq_due_iff]
  constructor
  · exact fun whole source member => whole _ member source rfl
  · rintro whole _ member source rfl
    exact whole source member

/-- A mapper with a word in quotes in one test, and the word at an end of another. -/
def quotedOr : Mapper where
  nameSpace := "Notes"
  statements := [
    { id := "find", root := .condition "a = 'x or y' and b or c" [] },
    { id := "list", root := .condition "or = 1 and b or c" [] }]

/-- A quoted word hides a condition that cannot be read, and so does a word at the end of a test. -/
theorem quoted_or_unreported :
    (quotedOr.checkExpressions {}).1.map (·.kind) = [.mixedLogicalOperators, .mixedLogicalOperators] ∧
      (quotedOr.diagnosticsFrom (·.dueFindings)).map (·.kind) =
        [.invalidExpression, .mixedLogicalOperators, .invalidExpression, .mixedLogicalOperators] := by
  decide +kernel

end Mapper

end SqlMapper
