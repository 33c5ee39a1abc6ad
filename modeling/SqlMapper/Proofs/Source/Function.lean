import SqlMapper.Proofs.Generated.Line
import SqlMapper.Proofs.Source.Block
import SqlMapper.Proofs.Source.Legible
import SqlMapper.Proofs.Template.Occurrence

/-!
# Reading functions

The source of a function is read as the canonical form of the function, wherever it stands in a file, as
long as no remark in it is broken.  What is executed and counted is therefore what was written.
-/

namespace SqlMapper.Generated

open Text

variable {function : Function}

/-- The source of a function at a depth. -/
def Function.source (function : Function) (depth : Nat) : String :=
  Line.renderAll depth function.lines

/-- The source of a function is read by the lines of the function, wherever it stands. -/
theorem Function.read?_renderAll (statement : String) (depth : Nat) :
    Function.read? statement (function.source depth) =
      (rowsOfLines? statement (Line.pieces function.lines)).bind (Function.ofRows? statement) :=
  congrArg (Option.bind · (Function.ofRows? statement)) (rowsOfLines?_renderAll depth function.lines)

/-- Whether the source of the function of a statement is read as another one, wherever it stands. -/
def Function.IsReadAs (function : Function) (statement : String) (read : Function) : Prop :=
  ∀ depth, Function.read? statement (function.source depth) = some read

theorem Function.isReadAs_iff {statement : String} {read : Function} :
    function.IsReadAs statement read ↔
      (rowsOfLines? statement (Line.pieces function.lines)).bind (Function.ofRows? statement) =
        some read := by
  simp only [Function.IsReadAs, Function.read?_renderAll, forall_const]

theorem Line.renderAll_append (depth : Nat) (first second : List Line) :
    Line.renderAll depth (first ++ second) =
      Line.renderAll depth first ++ Line.renderAll (first.foldl Line.depthAfter depth) second := by
  induction first generalizing depth with
  | nil => exact String.empty_append.symm
  | cons line rest ih =>
      rw [List.cons_append, Line.renderAll, Line.renderAll, ih, String.append_assoc]
      rfl

/-- The source of a function stands in the source of its module. -/
theorem Module.exists_source_eq {code : Module} (member : function ∈ code.functions) :
    ∃ depth before behind, code.source = before ++ function.source depth ++ behind := by
  rcases List.append_of_mem member with ⟨first, others, split⟩
  obtain ⟨front, back, whole⟩ : ∃ front back, code.lines = front ++ (function.lines ++ back) := by
    let lines (function : Function) : List Line := .blank :: function.lines
    refine ⟨code.header ++ first.flatMap lines ++ [.blank], others.flatMap lines ++ [closeLine], ?_⟩
    simp only [Module.lines, split, List.flatMap_append, List.flatMap_cons, List.append_assoc,
      List.cons_append, List.nil_append, lines]
  rw [Module.source, whole, Line.renderAll_append, Line.renderAll_append, ← String.append_assoc]
  exact ⟨_, _, _, rfl⟩

theorem stepsOfRows?_of_readAs {statement : String} {lines : List Line} {codes : List Code}
    (readAs : ReadAs statement lines codes) :
    ∃ rows, rowsOf? statement lines = some rows ∧
      stepsOfRows? rows = some codes := by
  rcases readAs with ⟨rows, read, steps⟩
  refine ⟨rows, read, ?_⟩
  rw [stepsOfRows?, steps]
  rfl

theorem Function.ofRows?_wrapped (statement name : String) {rows : List Row} {codes : List Code}
    (inner : stepsOfRows? rows = some codes) :
    Function.ofRows? statement (.function name :: .output :: .parameters :: (rows ++ [.result, .closing])) =
      some { name, statement, body := codes } := by
  simp [Function.ofRows?, inner]

/-- The line with the name of a function. -/
def Function.headerLine (function : Function) : Line :=
  openLine ("pub fn " ++ function.name ++ "(" ++ "param: &dyn ParameterAccessor, cx: &RenderContext" ++
    ") -> " ++ "Result<RenderedSql, GuardViolation>")

theorem Function.row_headerLine (statement : String) (legal : IsName function.name) :
    Scan.row statement function.headerLine.text.toList = some (.function function.name, []) := by
  have split : Scan.signature = "(" ++ ("param: &dyn ParameterAccessor, cx: &RenderContext" ++
      (") -> " ++ ("Result<RenderedSql, GuardViolation>" ++ openBrace))) := rfl
  have text : function.headerLine.text = "pub fn " ++ (function.name ++ Scan.signature) := by
    rw [split]
    simp only [Function.headerLine, openLine, Line.text, String.append_assoc]
  rw [text]
  exact (Scan.takes_functionHeader legal).whole

theorem rowsOfLine?_statementLine (statement named : String) :
    rowsOfLine? statement (statementLine named).text.toList = some [] := by
  have split : "/// `" = "//" ++ "/ `" := rfl
  have text : (statementLine named).text.toList = '/' :: '/' :: ("/ `" ++ named ++ "`").toList := by
    change ("/// `" ++ named ++ "`").toList = _
    simp only [split, String.append_assoc, String.toList_append]
    rfl
  rw [text]
  exact rowsOfLine?_remark _

/-- The lines in front of the steps of a function. -/
def Function.prologue (function : Function) : List Line :=
  [statementLine function.statement, function.headerLine, .plain "let mut sql = String::new();",
    .plain "let mut params = Vec::new();"]

/-- The lines behind the steps of a function. -/
def Function.epilogue : List Line :=
  [.plain "Ok(RenderedSql::finish(&sql, params))", closeLine]

theorem Function.lines_eq (function : Function) : function.lines = function.prologue ++
    (Code.linesOfAll function.statement function.body ++ Function.epilogue) :=
  List.append_assoc ..

theorem Function.rowsOf?_prologue (legal : IsName function.name) :
    rowsOf? function.statement function.prologue =
      some [.function function.name, .output, .parameters] :=
  rowsOf?_cons (rowsOfLine?_statementLine _ _) <|
    rowsOf?_row (Function.row_headerLine function.statement legal) <|
      rowsOf?_row (row_plain Scan.takes_output) <|
        rowsOf?_row (row_plain Scan.takes_parameters) rowsOf?_nil

theorem Function.rowsOf?_epilogue (statement : String) :
    rowsOf? statement Function.epilogue = some [.result, .closing] :=
  rowsOf?_row (row_plain Scan.takes_result) <| rowsOf?_row Scan.row_closing rowsOf?_nil

/-- A function is read as the steps that its lines come to, in pieces if they are broken. -/
theorem Function.isReadAs_of_pieces (legal : IsName function.name)
    (unbroken : ∀ line ∈ function.prologue, Lacks ['\n'] line.text) {rows : List Row} {codes : List Code}
    (read : rowsOfLines? function.statement
      (Line.pieces (Code.linesOfAll function.statement function.body)) = some rows)
    (steps : stepsOfRows? rows = some codes) :
    function.IsReadAs function.statement { function with body := codes } := by
  have unbrokenBehind : ∀ line ∈ Function.epilogue, Lacks ['\n'] line.text := by decide +kernel
  have front := (rowsOfLines?_pieces unbroken).trans (Function.rowsOf?_prologue legal)
  have behind := (rowsOfLines?_pieces unbrokenBehind).trans (Function.rowsOf?_epilogue function.statement)
  rw [Function.isReadAs_iff, Function.lines_eq, Line.pieces_append, Line.pieces_append,
    rowsOfLines?_append, rowsOfLines?_append, front, read, behind]
  exact Function.ofRows?_wrapped function.statement function.name steps

/-- The source of a function is read as the function. -/
theorem Function.isReadAs_canonical (legal : IsName function.name) (legible : Code.AreLegible function.body)
    (unbroken : ∀ line ∈ function.lines, Lacks ['\n'] line.text) :
    function.IsReadAs function.statement function.canonical := by
  rw [Function.lines_eq, List.forall_mem_append, List.forall_mem_append] at unbroken
  have inner := readAs_linesOfAll function.statement function.body legible
  rcases stepsOfRows?_of_readAs inner with ⟨rows, read, steps⟩
  exact Function.isReadAs_of_pieces legal unbroken.1 ((rowsOfLines?_pieces unbroken.2.1).trans read) steps

/-! ### Functions of statements -/

/-- Whether no remark in the function of a statement is broken.  The one in front of the function, which
documents it, admits no carriage return either. -/
structure UnbrokenRemarks (mapper : Mapper) (statement : Statement) : Prop where
  own : Lacks ['\n', '\r'] (mapper.qualify statement.id)
  others : ∀ fragment, statement.root.RefersTo fragment → Lacks ['\n'] fragment

theorem unbrokenRemarks_iff {mapper : Mapper} {statement : Statement} :
    UnbrokenRemarks mapper statement ↔
      Lacks ['\n', '\r'] (mapper.qualify statement.id) ∧
        ∀ fragment ∈ statement.root.references, Lacks ['\n'] fragment := by
  simp only [Node.mem_references]
  exact ⟨fun ⟨own, others⟩ => ⟨own, others⟩, fun ⟨own, others⟩ => ⟨own, others⟩⟩

instance (mapper : Mapper) (statement : Statement) : Decidable (UnbrokenRemarks mapper statement) :=
  decidable_of_iff _ unbrokenRemarks_iff.symm

theorem lacks_of_isName {name : String} (legal : IsName name) : Lacks lineBreaks name := by
  rcases legal with ⟨isText, -, -⟩ | ⟨word, reserved, -, rfl⟩
  · exact lacks_of_test (by decide) (isNameChar_of_mem isText)
  · have words : ∀ word ∈ reservedWords, Lacks lineBreaks ("r#" ++ word) := by decide +kernel
    exact words word reserved

theorem lacks_of_mem_lines (config : Config) {mapper : Mapper} {name : String} {statement : Statement}
    (legal : IsName name) (unbroken : UnbrokenRemarks mapper statement) :
    ∀ line ∈ (ofStatement config mapper name statement).lines, Lacks ['\n'] line.text := by
  have newline : ['\n'] ⊆ lineBreaks := by decide
  rcases unbrokenRemarks_iff.1 unbroken with ⟨own, others⟩
  have lines := Function.unbroken_lines (ofStatement config mapper name statement) (lacks_of_isName legal)
  rw [remarks_ofStatement] at lines
  rw [lines.lacks_iff newline, statementRemarks, List.forall_mem_cons, List.forall_mem_map]
  constructor
  · exact (lacks_enclosed_iff newline (by decide)).2 (own.mono (by decide))
  · exact fun fragment member => (lacks_enclosed_iff newline (by decide)).2 (others fragment member)

/-- The source of the function of a statement is read as that function. -/
theorem isReadAs_ofStatement (config : Config) {mapper : Mapper} {name : String} {statement : Statement}
    (legal : IsName name) (unbroken : UnbrokenRemarks mapper statement) :
    (ofStatement config mapper name statement).IsReadAs (mapper.qualify statement.id)
      (ofStatement config mapper name statement).canonical :=
  Function.isReadAs_canonical legal (areLegible_ofStatement config mapper name statement)
    (lacks_of_mem_lines config legal unbroken)

theorem functions_ofMapper (config : Config) {mapper : Mapper} {names : List String}
    (named : functionNames (mapper.statements.map (·.id)) = names) :
    (ofMapper config mapper).functions = names.zipWith (ofStatement config mapper) mapper.statements :=
  congrArg (List.zipWith (ofStatement config mapper) · mapper.statements) named

/-- The functions of a module are those of its statements, under names that may be declared. -/
theorem forall₂_functions (config : Config) (mapper : Mapper) :
    List.Forall₂ (fun statement function => ∃ name, IsName name ∧
        function = ofStatement config mapper name statement)
      mapper.statements (ofMapper config mapper).functions := by
  rcases NameTable.uniqueAll_eq { used := reservedNames } (mapper.statements.map (·.id))
    with ⟨bases, count, -, shapes, given⟩
  rw [List.length_map] at count
  rw [functions_ofMapper config given]
  apply forall₂_zipWith (ofStatement config mapper) (by rw [List.length_map, count])
  intro statement _ name among
  rcases List.mem_map.1 among with ⟨base, member, rfl⟩
  exact ⟨asIdentifier base, isName_asIdentifier (shapes base member).1, rfl⟩

end SqlMapper.Generated
