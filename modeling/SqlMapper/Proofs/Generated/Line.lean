import SqlMapper.Compiler
import SqlMapper.Proofs.Generated.Name
import SqlMapper.Proofs.Generated.Quoted

/-!
# Lines of generated source

A line is written as one line unless there is a line break in its text.  The steps of a function hold
none.  The remarks on the mapper, on its statements and on references that were never resolved repeat
names of the template as they are, and a line break in such a name breaks the remark.
-/

namespace SqlMapper

namespace Node

/-- The fragment to which what occurs in a template refers. -/
def Event.fragment? : Event → Option String
  | .reference fragment => some fragment
  | _ => none

end Node

namespace Mapper

/-- Whether something holds of every name that generated source repeats in a remark. -/
def AllNames (mapper : Mapper) (holds : String → Prop) : Prop :=
  holds mapper.nameSpace ∧ ∀ statement ∈ mapper.statements,
    holds statement.id ∧ ∀ fragment ∈ statement.root.references, holds fragment

end Mapper

namespace Generated

open Text

/-! ### Lines of steps -/

/-- The line that remarks on a reference. -/
def referenceLine (fragment : String) : Line :=
  .plain s!"// include `{fragment}` was never resolved"

/-- Lines that are free of line breaks but for remarks, which stand among them in order. -/
inductive UnbrokenBut : List Line → List Line → Prop where
  | nil : UnbrokenBut [] []
  | plain {remarks lines : List Line} {line : Line} (free : Lacks lineBreaks line.text)
      (rest : UnbrokenBut remarks lines) : UnbrokenBut remarks (line :: lines)
  | remark {remarks lines : List Line} (line : Line) (rest : UnbrokenBut remarks lines) :
      UnbrokenBut (line :: remarks) (line :: lines)

namespace UnbrokenBut

variable {remarks lines others more : List Line} {line : Line}

theorem append (first : UnbrokenBut remarks lines) (second : UnbrokenBut others more) :
    UnbrokenBut (remarks ++ others) (lines ++ more) := by
  induction first with
  | nil => exact second
  | plain free _ ih => exact .plain free ih
  | remark line _ ih => exact .remark line ih

theorem single (free : Lacks lineBreaks line.text) : UnbrokenBut [] [line] :=
  .plain free .nil

theorem before (inner : UnbrokenBut remarks lines) (ending : UnbrokenBut [] more) :
    UnbrokenBut remarks (lines ++ more) := by
  have whole := inner.append ending
  rwa [List.append_nil] at whole

theorem close (inner : UnbrokenBut remarks lines) : UnbrokenBut remarks (lines ++ [closeLine]) :=
  inner.before (.single (lacks_ofList (by decide)))

theorem block (free : Lacks lineBreaks line.text) (inner : UnbrokenBut remarks lines) :
    UnbrokenBut remarks (line :: lines ++ [closeLine]) :=
  (inner.plain free).close

/-- Marks among the line breaks stand in lines only where they stand in remarks. -/
theorem lacks_iff {marks : List Char} (within : marks ⊆ lineBreaks)
    (unbroken : UnbrokenBut remarks lines) :
    (∀ line ∈ lines, Lacks marks line.text) ↔ ∀ line ∈ remarks, Lacks marks line.text := by
  induction unbroken with
  | nil => rfl
  | plain free _ ih =>
      rw [List.forall_mem_cons, ih, and_iff_right]
      intro c member marked
      exact free c member (within marked)
  | remark line _ ih => rw [List.forall_mem_cons, List.forall_mem_cons, ih]

/-- Every line is a remark or free of line breaks. -/
theorem mem_or_lacks (unbroken : UnbrokenBut remarks lines) :
    ∀ line ∈ lines, line ∈ remarks ∨ Lacks lineBreaks line.text := by
  induction unbroken with
  | nil => exact List.forall_mem_nil _
  | plain free _ ih => exact List.forall_mem_cons.2 ⟨.inr free, ih⟩
  | remark line _ ih =>
      refine List.forall_mem_cons.2 ⟨.inl List.mem_cons_self, ?_⟩
      exact fun other member => (ih other member).imp_left (List.mem_cons_of_mem line)

end UnbrokenBut

namespace Code

mutual

/-- The references on which a step remarks, in the order of its lines. -/
def remarks : Code → List String
  | .remark fragment => [fragment]
  | .block inner | .ifNonempty _ inner | .ifList _ _ inner | .forEach _ _ _ inner
  | .ifLater _ inner => remarksOfAll inner
  | .branch branches none => remarksOfBranches branches
  | .branch branches (some fallback) => remarksOfBranches branches ++ remarksOfAll fallback
  | .push _ _ | .pushMark _ _ | .pushTrusted _ _ | .pushGuarded _ _ _ | .pushBody _ _ | .define _ _
  | .defineIndex _ _ | .openBody _ | .trimBody _ _ => []
termination_by structural code => code

def remarksOfAll : List Code → List String
  | [] => []
  | code :: rest => code.remarks ++ remarksOfAll rest
termination_by structural codes => codes

def remarksOfBranches : List (TestCode Variable × List Code) → List String
  | [] => []
  | (_, inner) :: rest => remarksOfAll inner ++ remarksOfBranches rest
termination_by structural branches => branches

end

mutual

theorem unbroken_lines (statement : String) : (code : Code) →
    UnbrokenBut (code.remarks.map referenceLine) (code.lines statement)
  | .push buffer text => .single (lacks_pushLine buffer (lacks_quoted text))
  | .pushMark buffer value => .single (lacks_pushLine buffer ((lacks_value value).enclosed (by decide)))
  | .pushTrusted buffer value => .single (lacks_pushLine buffer ((lacks_value value).enclosed (by decide)))
  | .pushGuarded buffer parameter value => by
      have names : Lacks lineBreaks s!"{Text.quoted statement}, {Text.quoted parameter}" :=
        (lacks_quoted statement).append (lacks_ofList (by decide)) |>.append (lacks_quoted parameter)
      apply UnbrokenBut.single
      apply lacks_pushLine
      exact (names.enclosed (by decide)).followed (lacks_value value) (by decide)
  | .pushBody buffer body => .single (lacks_pushLine buffer (lacks_variable body))
  | .define target value =>
      .single (((lacks_variable target).enclosed (by decide)).followed (lacks_bound value) (by decide))
  | .defineIndex target counter =>
      .single (((lacks_variable target).enclosed (by decide)).followed (lacks_variable counter)
        (by decide))
  | .openBody body => .single ((lacks_variable body).enclosed (by decide))
  | .trimBody kind body => by
      have trim : Lacks lineBreaks (trimSource kind) := by
        cases kind <;> exact lacks_ofList (by decide)
      exact .single (((lacks_variable body).enclosed (by decide)).followed trim (by decide)
        |>.followed (lacks_variable body) (by decide))
  | .block inner => (unbroken_linesOfAll statement inner).block (lacks_ofList (by decide))
  | .branch [] none => .nil
  | .branch [] (some fallback) => (unbroken_linesOfAll statement fallback).block (lacks_ofList (by decide))
  | .branch ((test, inner) :: others) none => by
      have header : Lacks lineBreaks (openLine s!"if {test.source Variable.source}").text :=
        lacks_openLine ((lacks_ofList (by decide)).append (lacks_test test))
      have first := (unbroken_linesOfAll statement inner).plain header
      have both := first.append (unbroken_linesOfOthers statement others)
      rw [← List.map_append] at both
      exact both.close
  | .branch ((test, inner) :: others) (some fallback) => by
      have header : Lacks lineBreaks (openLine s!"if {test.source Variable.source}").text :=
        lacks_openLine ((lacks_ofList (by decide)).append (lacks_test test))
      have otherwise : Lacks lineBreaks (Line.reopening ("\x7d else" ++ openBrace)).text :=
        (lacks_ofList (by decide)).append (lacks_ofList (by decide))
      have first := (unbroken_linesOfAll statement inner).plain header
      have both := first.append (unbroken_linesOfOthers statement others)
      have all := both.append ((unbroken_linesOfAll statement fallback).plain otherwise)
      rw [← List.map_append, ← List.map_append] at all
      exact all.close
  | .ifNonempty body inner =>
      (unbroken_linesOfAll statement inner).block (lacks_openLine ((lacks_variable body).enclosed (by decide)))
  | .ifList items collection inner =>
      (unbroken_linesOfAll statement inner).block
        (lacks_openLine (((lacks_variable items).enclosed (by decide)).followed
          (lacks_variable collection) (by decide)))
  | .forEach counter item items inner =>
      (unbroken_linesOfAll statement inner).block
        (lacks_openLine (((lacks_variable counter).enclosed (by decide)).followed
          (lacks_variable item) (by decide) |>.followed (lacks_variable items) (by decide)))
  | .ifLater counter inner =>
      (unbroken_linesOfAll statement inner).block (lacks_openLine ((lacks_variable counter).enclosed (by decide)))
  | .remark fragment => .remark (referenceLine fragment) .nil

theorem unbroken_linesOfAll (statement : String) : (codes : List Code) →
    UnbrokenBut ((remarksOfAll codes).map referenceLine) (linesOfAll statement codes)
  | [] => .nil
  | code :: rest => by
      have both := (unbroken_lines statement code).append (unbroken_linesOfAll statement rest)
      rwa [← List.map_append] at both

theorem unbroken_linesOfOthers (statement : String) :
    (branches : List (TestCode Variable × List Code)) →
    UnbrokenBut ((remarksOfBranches branches).map referenceLine) (linesOfOthers statement branches)
  | [] => .nil
  | (test, inner) :: rest => by
      have header : Lacks lineBreaks
          (Line.reopening (s!"\x7d else if {test.source Variable.source}" ++ openBrace)).text :=
        (lacks_ofList (by decide)).append (lacks_test test) |>.append (lacks_ofList (by decide))
      have first := (unbroken_linesOfAll statement inner).plain header
      have both := first.append (unbroken_linesOfOthers statement rest)
      rwa [← List.map_append] at both

end

end Code

/-! ### Remarks on a template -/

variable {trusts : String → Bool} {buffer : Buffer}

@[simp]
theorem Code.remarksOfAll_append (first second : List Code) :
    Code.remarksOfAll (first ++ second) = Code.remarksOfAll first ++ Code.remarksOfAll second := by
  induction first with
  | nil => rfl
  | cons code rest ih => simp [Code.remarksOfAll, ih]

theorem remarks_spliceCode (locals : Scope Variable) (name : String) :
    Code.remarks (spliceCode trusts buffer locals name) = [] := by
  unfold spliceCode
  dsimp only
  split <;> rfl

theorem remarks_separatorCode (header : Loop) (counter : Variable) :
    Code.remarksOfAll (separatorCode buffer header counter) = [] := by
  unfold separatorCode
  split
  · rfl
  · split <;> rfl

theorem remarks_edgeCode (text : Option String) : Code.remarksOfAll (edgeCode buffer text) = [] := by
  cases text <;> rfl

theorem remarks_declareIndex (state : Generation) (header : Loop) (counter : Variable) :
    Code.remarksOfAll (state.declareIndex header counter).1 = [] := by
  unfold Generation.declareIndex
  split <;> rfl

open Node.Event (fragment?)

mutual

/-- The steps for a tree remark on its references, one after the other. -/
theorem remarks_generate (buffer : Buffer) (state : Generation) : (node : Node) →
    Code.remarksOfAll (generate trusts buffer state node).1 = node.events.filterMap fragment?
  | .text content => by
      rw [generate]
      split <;> rfl
  | .parameter name false => rfl
  | .parameter name true => by
      simp [generate, Code.remarksOfAll, remarks_spliceCode, Node.events, fragment?]
  | .bind name value => rfl
  | .reference fragment => rfl
  | .condition test children => by
      change _ = (Node.eventsOfAll children).filterMap fragment?
      rw [← remarks_generateAll buffer state children]
      simp [generate, Generation.closeBlock, Code.remarksOfAll, Code.remarks,
        Code.remarksOfBranches]
  | .choice branches none => by
      change _ = (Node.eventsOfBranches branches).filterMap fragment?
      rw [← remarks_generateBranches buffer state branches]
      simp [generate, Code.remarksOfAll, Code.remarks]
  | .choice branches (some children) => by
      change _ = (Node.eventsOfBranches branches ++ Node.eventsOfAll children).filterMap fragment?
      rw [List.filterMap_append, ← remarks_generateBranches buffer state branches,
        ← remarks_generateAll buffer (generateBranches trusts buffer state branches).2 children]
      simp [generate, Generation.closeBlock, Code.remarksOfAll, Code.remarks]
  | .clause kind children => by
      change _ = (Node.eventsOfAll children).filterMap fragment?
      rw [← remarks_generateAll (.side (state.fresh (.clause kind)).1)
        (state.fresh (.clause kind)).2 children]
      simp [generate, Generation.closeBlock, clauseCode, Code.remarksOfAll, Code.remarks]
  | .loop header children => by
      change _ = (Node.eventsOfAll children).filterMap fragment?
      have inside (entered : Generation) := remarks_generateAll buffer entered children
      simp [generate, Generation.closeBlock, Code.remarksOfAll, Code.remarks, remarks_edgeCode,
        remarks_separatorCode, remarks_declareIndex, inside]
  | .mixed children => remarks_generateAll buffer state children

theorem remarks_generateAll (buffer : Buffer) (state : Generation) : (nodes : List Node) →
    Code.remarksOfAll (generateAll trusts buffer state nodes).1 =
      (Node.eventsOfAll nodes).filterMap fragment?
  | [] => rfl
  | node :: rest => by
      have first := remarks_generate buffer state node
      have later := remarks_generateAll buffer (generate trusts buffer state node).2 rest
      simp [generateAll, Node.eventsOfAll, first, later]

theorem remarks_generateBranches (buffer : Buffer) (state : Generation) :
    (branches : List (String × List Node)) →
    Code.remarksOfBranches (generateBranches trusts buffer state branches).1 =
      (Node.eventsOfBranches branches).filterMap fragment?
  | [] => rfl
  | (test, children) :: rest => by
      have first := remarks_generateAll buffer state children
      have later (after : Generation) := remarks_generateBranches buffer after rest
      simp [generateBranches, Code.remarksOfBranches, Node.eventsOfBranches, List.filterMap_cons,
        first, later, Generation.closeBlock, fragment?]

end

/-! ### Lines of modules -/

def nameSpaceLine (nameSpace : String) : Line :=
  .plain s!"/// Statements of mapper `{nameSpace}`."

def statementLine (statement : String) : Line :=
  .plain s!"/// `{statement}`"

def Function.remarks (function : Function) : List Line :=
  statementLine function.statement :: (Code.remarksOfAll function.body).map referenceLine

/-- The remarks on a statement and its references. -/
def statementRemarks (mapper : Mapper) (statement : Statement) : List Line :=
  statementLine (mapper.qualify statement.id) :: statement.root.references.map referenceLine

def moduleRemarks (mapper : Mapper) : List Line :=
  nameSpaceLine mapper.nameSpace :: mapper.statements.flatMap (statementRemarks mapper)

theorem lacks_isBase {name : String} (base : IsBase name) : Lacks lineBreaks name :=
  lacks_of_test (by decide) (isNameChar_of_mem base.text)

theorem lacks_asIdentifier {name : String} (base : IsBase name) :
    Lacks lineBreaks (asIdentifier name) := by
  have free := lacks_isBase base
  unfold asIdentifier
  split
  · exact (lacks_ofList (by decide)).append free
  · split
    · exact free.append (lacks_ofList (by decide))
    · exact free

theorem lacks_of_mem_uniqueAll {table : NameTable} {ids : List String} {name : String}
    (member : name ∈ table.uniqueAll ids) : Lacks lineBreaks name := by
  obtain ⟨bases, -, -, shapes, given⟩ := table.uniqueAll_eq ids
  rw [given] at member
  obtain ⟨base, memberBase, rfl⟩ := List.mem_map.1 member
  exact lacks_asIdentifier (shapes base memberBase).1

theorem Function.unbroken_lines (function : Function) (free : Lacks lineBreaks function.name) :
    UnbrokenBut function.remarks function.lines := by
  have inner := Code.unbroken_linesOfAll function.statement function.body
  have ending : UnbrokenBut [] [.plain "Ok(RenderedSql::finish(&sql, params))", closeLine] :=
    .plain (lacks_ofList (by decide)) (.single (lacks_ofList (by decide)))
  refine UnbrokenBut.before ?_ ending
  refine .remark _ (.plain ?_ (.plain (lacks_ofList (by decide)) (.plain (lacks_ofList (by decide)) inner)))
  exact lacks_openLine ((free.enclosed (by decide)).followed (lacks_ofList (by decide)) (by decide)
    |>.append (lacks_ofList (by decide)))

theorem remarks_ofStatement (config : Config) (mapper : Mapper) (name : String)
    (statement : Statement) :
    (ofStatement config mapper name statement).remarks = statementRemarks mapper statement := by
  have references : Code.remarksOfAll (generate (config.trusts statement.id) .output {}
      statement.root).1 = statement.root.references :=
    remarks_generate .output {} statement.root
  simp only [Function.remarks, ofStatement, statementRemarks, references]

theorem unbroken_functions (config : Config) (mapper : Mapper) {names : List String}
    {statements : List Statement} (sameLength : names.length = statements.length)
    (free : ∀ name ∈ names, Lacks lineBreaks name) :
    UnbrokenBut (statements.flatMap (statementRemarks mapper))
      ((names.zipWith (ofStatement config mapper) statements).flatMap
        fun function => .blank :: function.lines) := by
  induction statements generalizing names with
  | nil =>
      rw [List.zipWith_nil_right]
      exact .nil
  | cons statement rest ih =>
      cases names with
      | nil => cases sameLength
      | cons name others =>
          rcases List.forall_mem_cons.1 free with ⟨here, later⟩
          have function := (ofStatement config mapper name statement).unbroken_lines here
          rw [remarks_ofStatement] at function
          have blank : Lacks lineBreaks Line.blank.text := lacks_ofList (by decide)
          exact (function.plain blank).append (ih (Nat.succ.inj sameLength) later)

/-- The lines of a module are free of line breaks but for the remarks. -/
theorem unbroken_ofMapper (config : Config) (mapper : Mapper) :
    UnbrokenBut (moduleRemarks mapper) (ofMapper config mapper).lines := by
  let names := NameTable.uniqueAll { used := reservedNames } (mapper.statements.map (·.id))
  have count : names.length = mapper.statements.length := by
    obtain ⟨bases, count, -, -, given⟩ :=
      NameTable.uniqueAll_eq { used := reservedNames } (mapper.statements.map (·.id))
    simpa [names, given] using count
  have functions := unbroken_functions config mapper count fun _ => lacks_of_mem_uniqueAll
  have header : UnbrokenBut [nameSpaceLine mapper.nameSpace] (ofMapper config mapper).header := by
    refine .remark _ (.plain ?_ (.plain ?_ ?_))
    · exact (lacks_ofList (by decide)).enclosed (by decide)
    · exact lacks_openLine
        ((lacks_ofList (by decide)).append (lacks_isBase (isBase_snakeCase mapper.nameSpace)))
    · iterate 4 refine .plain (lacks_ofList (by decide)) ?_
      exact .single ((lacks_ofList (by decide)).enclosed (by decide))
  exact (header.append functions).close

/-! ### Names in remarks -/

section Remarks

variable {marks : List Char}

theorem lacks_qualify_iff (within : marks ⊆ lineBreaks) (mapper : Mapper) (id : String) :
    Lacks marks (mapper.qualify id) ↔ Lacks marks mapper.nameSpace ∧ Lacks marks id := by
  unfold Mapper.qualify Mapper.qualifyIn
  split
  · rename_i unnamed
    rw [String.isEmpty_iff.1 unnamed]
    exact (and_iff_right lacks_empty).symm
  · have dot : Lacks marks "." := (lacks_ofList (by decide)).mono within
    rw [lacks_append, lacks_append, and_iff_left dot]

/-- Marks among the line breaks stand in the remarks on a mapper only where they stand in its names. -/
theorem lacks_moduleRemarks_iff (within : marks ⊆ lineBreaks) (mapper : Mapper) :
    (∀ line ∈ moduleRemarks mapper, Lacks marks line.text) ↔ mapper.AllNames (Lacks marks) := by
  have ofNameSpace : Lacks marks (nameSpaceLine mapper.nameSpace).text ↔
      Lacks marks mapper.nameSpace := lacks_enclosed_iff within (by decide)
  have ofStatement (statement : String) : Lacks marks (statementLine statement).text ↔
      Lacks marks statement := lacks_enclosed_iff within (by decide)
  have ofReference (fragment : String) : Lacks marks (referenceLine fragment).text ↔
      Lacks marks fragment := lacks_enclosed_iff within (by decide)
  simp only [moduleRemarks, statementRemarks, Mapper.AllNames, List.forall_mem_cons,
    List.forall_mem_flatMap, List.forall_mem_map, ofNameSpace, ofStatement, ofReference,
    lacks_qualify_iff within]
  apply and_congr_right
  intro named
  simp only [named, true_and]

end Remarks

/-! ### Lines of source -/

theorem Line.count_render (before : Nat) (line : Line) :
    (line.render before).toList.count '\n' = line.text.toList.count '\n' + 1 := by
  have spaces (width : Nat) : (List.replicate width ' ').count '\n' = 0 := by
    rw [List.count_replicate]
    exact if_neg (by decide)
  cases line <;> simp [Line.render, Line.text, spaces]

theorem Line.count_renderAll (before : Nat) (lines : List Line) :
    (Line.renderAll before lines).toList.count '\n' =
      (lines.flatMap fun line => line.text.toList).count '\n' + lines.length := by
  induction lines generalizing before with
  | nil => rfl
  | cons line rest ih =>
      simp only [Line.renderAll, String.toList_append, List.count_append, Line.count_render, ih,
        List.flatMap_cons, List.length_cons]
      omega

/-- Lines are written as that many lines if no newline is in any of them. -/
theorem Line.count_renderAll_eq_length_iff (before : Nat) (lines : List Line) :
    (Line.renderAll before lines).toList.count '\n' = lines.length ↔
      ∀ line ∈ lines, Lacks ['\n'] line.text := by
  rw [Line.count_renderAll, Nat.add_eq_right, List.count_eq_zero]
  constructor
  · intro absent line member c inside marked
    rw [List.mem_singleton.1 marked] at inside
    exact absent (List.mem_flatMap.2 ⟨line, member, inside⟩)
  · intro free inside
    rcases List.mem_flatMap.1 inside with ⟨line, member, found⟩
    exact free line member _ found List.mem_cons_self

/-- No generated line holds a line break, and source has as many lines as were written, if and only if
no name of the mapper that is repeated in a remark holds one. -/
theorem ofMapper_lines_unbroken_iff (config : Config) (mapper : Mapper) :
    let code := ofMapper config mapper
    ((∀ line ∈ code.lines, Lacks lineBreaks line.text) ↔ mapper.AllNames (Lacks lineBreaks)) ∧
      (code.source.toList.count '\n' = code.lines.length ↔ mapper.AllNames (Lacks ['\n'])) := by
  intro code
  have unbroken : UnbrokenBut (moduleRemarks mapper) code.lines := unbroken_ofMapper config mapper
  have newline : ['\n'] ⊆ lineBreaks := by decide
  constructor
  · rw [unbroken.lacks_iff (List.Subset.refl _), lacks_moduleRemarks_iff (List.Subset.refl _)]
  · rw [Module.source, Line.count_renderAll_eq_length_iff, unbroken.lacks_iff newline,
      lacks_moduleRemarks_iff newline]

/-- A namespace that an attribute value continues on a second line. -/
def twoLineSource : String :=
  "<mapper namespace=\"users&#10;const LEAK: u8 = 0; //\"><select id=\"all\">SELECT 1</select></mapper>"

/-- A source without findings whose namespace ends the remark on it and goes on as code. -/
theorem ofMapper_lines_broken :
    ∃ compiled, compile {} twoLineSource = .ok compiled ∧ compiled.diagnostics = [] ∧
      compiled.mapper.nameSpace = "users\nconst LEAK: u8 = 0; //" ∧
        ¬∀ line ∈ compiled.code.lines, Lacks lineBreaks line.text := by
  have found : (compile {} twoLineSource).toOption.any fun compiled =>
      compiled.diagnostics = [] ∧ compiled.mapper.nameSpace = "users\nconst LEAK: u8 = 0; //" ∧
        ¬∀ line ∈ compiled.code.lines, Lacks lineBreaks line.text := by
    decide +kernel
  cases outcome : compile {} twoLineSource with
  | error failure =>
      rw [outcome] at found
      cases found
  | ok compiled =>
      rw [outcome] at found
      exact ⟨compiled, rfl, of_decide_eq_true found⟩

end Generated

end SqlMapper
