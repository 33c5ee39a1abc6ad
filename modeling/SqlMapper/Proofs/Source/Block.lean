import SqlMapper.Proofs.Source.Line

/-!
# Reading blocks

The lines of a function are read one after the other.  What is known between two lines is the steps of
the block that is open and of the blocks around it.
-/

namespace SqlMapper.Generated

/-- The step that a block is, given the steps in it. -/
def Frame.close (inner : List Code) : Frame → Code
  | .block => .block inner
  | .branch before test => .branch (before ++ [(test, inner)]) none
  | .fallback branches => .branch branches (some inner)
  | .nonempty body => .ifNonempty body inner
  | .list items collection => .ifList items collection inner
  | .each counter item items => .forEach counter item items inner
  | .later counter => .ifLater counter inner

/-- What is known between two lines. -/
structure Reading where
  /-- The steps so far of the block that is open. -/
  steps : List Code := []
  /-- The open blocks from the inside, each with the steps in front of it. -/
  outer : List (Frame × List Code) := []

namespace Reading

def take (reading : Reading) : Row → Option Reading
  | .step code => some { reading with steps := reading.steps ++ [code] }
  | .opening frame => some { steps := [], outer := (frame, reading.steps) :: reading.outer }
  | .otherTest next =>
    match reading.outer with
    | (.branch before test, steps) :: outer =>
      some { steps := [], outer := (.branch (before ++ [(test, reading.steps)]) next, steps) :: outer }
    | _ => none
  | .otherwise =>
    match reading.outer with
    | (.branch before test, steps) :: outer =>
      some { steps := [], outer := (.fallback (before ++ [(test, reading.steps)]), steps) :: outer }
    | _ => none
  | .closing =>
    match reading.outer with
    | (frame, steps) :: outer => some { steps := steps ++ [frame.close reading.steps], outer }
    | [] => none
  | .function _ | .output | .parameters | .result => none

def takeAll (reading : Reading) : List Row → Option Reading
  | [] => some reading
  | row :: rest => do
    let reading ← reading.take row
    reading.takeAll rest

end Reading

/-- The steps that lines between those of every function come to. -/
def stepsOfRows? (rows : List Row) : Option (List Code) := do
  let reading ← Reading.takeAll {} rows
  if reading.outer.isEmpty then some reading.steps else none

/-- The function that lines come to. -/
def Function.ofRows? (statement : String) : List Row → Option Function
  | .function name :: .output :: .parameters :: rows =>
    match rows.reverse with
    | .closing :: .result :: inner => do
      let body ← stepsOfRows? inner.reverse
      some { name, statement, body }
    | _ => none
  | _ => none

/-- Reads the source of the function of a statement. -/
def Function.read? (statement source : String) : Option Function := do
  let rows ← rowsOfLines? statement (Text.split (· == '\n') source.toList)
  Function.ofRows? statement rows

/-! ### Reading lines -/

/-- Whether lines are read as steps, whatever was read before. -/
def ReadAs (statement : String) (lines : List Line) (codes : List Code) : Prop :=
  ∃ rows, rowsOf? statement lines = some rows ∧
    ∀ reading : Reading,
      reading.takeAll rows = some { reading with steps := reading.steps ++ codes }

/-- Whether lines inside of a choice are read as further branches. -/
def ReadAsOthers (statement : String) (lines : List Line)
    (others : List (TestCode Variable × List Code)) : Prop :=
  ∃ rows, rowsOf? statement lines = some rows ∧
    ∀ before test inner steps outer, ∃ before' test' inner',
      before' ++ [(test', inner')] = before ++ (test, inner) :: others ∧
        Reading.takeAll ⟨inner, (.branch before test, steps) :: outer⟩ rows =
          some ⟨inner', (.branch before' test', steps) :: outer⟩

/-- Whether lines are read as a choice that is not closed yet. -/
def ReadAsChoice (statement : String) (lines : List Line)
    (branches : List (TestCode Variable × List Code)) : Prop :=
  ∃ rows, rowsOf? statement lines = some rows ∧
    ∀ reading : Reading, ∃ before test inner, before ++ [(test, inner)] = branches ∧
      reading.takeAll rows = some ⟨inner, (.branch before test, reading.steps) :: reading.outer⟩

section Lines

open Scan (row)

variable {statement : String} {lines more : List Line} {codes further : List Code} {line : Line}
  {branches : List (TestCode Variable × List Code)} {first : Row} {test : TestCode Variable}

theorem Reading.takeAll_append (reading : Reading) (rows others : List Row) :
    reading.takeAll (rows ++ others) = (reading.takeAll rows).bind (·.takeAll others) := by
  induction rows generalizing reading with
  | nil => rfl
  | cons row rest ih =>
      simp only [List.cons_append, takeAll, Option.bind_eq_bind, Option.bind_assoc]
      exact congrArg _ (funext ih)

theorem readAs_nil : ReadAs statement [] [] :=
  ⟨[], rfl, fun reading => by simp [Reading.takeAll]⟩

theorem ReadAs.append (one : ReadAs statement lines codes) (two : ReadAs statement more further) :
    ReadAs statement (lines ++ more) (codes ++ further) := by
  rcases one with ⟨rows, read, steps⟩
  rcases two with ⟨later, readLater, stepsLater⟩
  refine ⟨rows ++ later, rowsOf?_append read readLater, fun reading => ?_⟩
  rw [Reading.takeAll_append, steps, Option.bind_some, stepsLater, List.append_assoc]

theorem readAs_step {code : Code} (taken : row statement line.text.toList = some (.step code, [])) :
    ReadAs statement [line] [code] :=
  ⟨[.step code], rowsOf?_row taken rowsOf?_nil, fun _ => rfl⟩

theorem readAs_remark (text : String) : ReadAs statement [.plain ("//" ++ text)] [] := by
  have characters : (Line.plain ("//" ++ text)).text.toList = '/' :: '/' :: text.toList :=
    String.toList_append
  have skipped := (congrArg (rowsOfLine? statement) characters).trans (rowsOfLine?_remark text.toList)
  exact ⟨[], rowsOf?_cons skipped rowsOf?_nil, fun reading => by simp [Reading.takeAll]⟩

theorem ReadAs.block {frame : Frame} (inner : ReadAs statement lines codes)
    (opened : row statement line.text.toList = some (.opening frame, [])) :
    ReadAs statement (line :: lines ++ [closeLine]) [frame.close codes] := by
  rcases inner with ⟨rows, read, steps⟩
  refine ⟨.opening frame :: rows ++ [.closing], rowsOf?_closed (rowsOf?_row opened read), ?_⟩
  intro reading
  rw [List.cons_append, Reading.takeAll, Reading.take, Option.bind_eq_bind, Option.bind_some,
    Reading.takeAll_append, steps]
  rfl

theorem readAsOthers_nil : ReadAsOthers statement [] [] :=
  ⟨[], rfl, fun before test inner _ _ => ⟨before, test, inner, rfl, rfl⟩⟩

theorem ReadAs.others (inner : ReadAs statement lines codes)
    (opened : row statement line.text.toList = some (.otherTest test, []))
    (later : ReadAsOthers statement more branches) :
    ReadAsOthers statement (line :: lines ++ more) ((test, codes) :: branches) := by
  rcases inner with ⟨rows, read, steps⟩
  rcases later with ⟨others, readLater, branchesLater⟩
  refine ⟨.otherTest test :: rows ++ others, rowsOf?_append (rowsOf?_row opened read) readLater, ?_⟩
  intro before last written outside outer
  rcases branchesLater (before ++ [(last, written)]) test codes outside outer
    with ⟨before', test', inner', joined, taken⟩
  refine ⟨before', test', inner', ?_, ?_⟩
  · rw [joined, List.append_assoc]
    rfl
  · rw [List.cons_append, Reading.takeAll, Reading.take, Option.bind_eq_bind, Option.bind_some,
      Reading.takeAll_append, steps]
    exact taken

theorem ReadAs.choice (inner : ReadAs statement lines codes)
    (opened : row statement line.text.toList = some (.opening (.branch [] test), []))
    (later : ReadAsOthers statement more branches) :
    ReadAsChoice statement (line :: lines ++ more) ((test, codes) :: branches) := by
  rcases inner with ⟨rows, read, steps⟩
  rcases later with ⟨others, readLater, branchesLater⟩
  refine ⟨.opening (.branch [] test) :: rows ++ others,
    rowsOf?_append (rowsOf?_row opened read) readLater, ?_⟩
  intro reading
  rcases branchesLater [] test codes reading.steps reading.outer
    with ⟨before, last, written, joined, taken⟩
  refine ⟨before, last, written, joined, ?_⟩
  rw [List.cons_append, Reading.takeAll, Reading.take, Option.bind_eq_bind, Option.bind_some,
    Reading.takeAll_append, steps]
  exact taken

theorem ReadAsChoice.close (choice : ReadAsChoice statement lines branches) :
    ReadAs statement (lines ++ [closeLine]) [.branch branches none] := by
  rcases choice with ⟨rows, read, steps⟩
  refine ⟨rows ++ [.closing], rowsOf?_closed read, fun reading => ?_⟩
  rcases steps reading with ⟨before, last, written, joined, taken⟩
  rw [Reading.takeAll_append, taken, ← joined]
  rfl

theorem ReadAsChoice.fallback (choice : ReadAsChoice statement lines branches)
    (otherwise : ReadAs statement more codes) :
    ReadAs statement (lines ++ .reopening ("\x7d else" ++ openBrace) :: more ++ [closeLine])
      [.branch branches (some codes)] := by
  rcases choice with ⟨rows, read, steps⟩
  rcases otherwise with ⟨others, readLater, stepsLater⟩
  have text : (Line.reopening ("\x7d else" ++ openBrace)).text = "\x7d else \x7b" := rfl
  have reopened : row statement (Line.reopening ("\x7d else" ++ openBrace)).text.toList =
      some (.otherwise, []) := by
    rw [text]
    exact Scan.takes_otherwise.whole
  refine ⟨rows ++ .otherwise :: others ++ [.closing], ?_, fun reading => ?_⟩
  · exact rowsOf?_closed (rowsOf?_append read (rowsOf?_row reopened readLater))
  · rcases steps reading with ⟨before, last, written, joined, taken⟩
    rw [List.append_assoc, Reading.takeAll_append, taken, Option.bind_some, List.cons_append,
      Reading.takeAll, Reading.take, Option.bind_eq_bind, Option.bind_some, Reading.takeAll_append,
      stepsLater, joined]
    rfl

theorem ReadAs.plainBlock (inner : ReadAs statement lines codes) :
    ReadAs statement (.opening "\x7b" :: lines ++ [closeLine]) [.block codes] :=
  inner.block (row_opening Scan.takes_block)

end Lines

/-! ### Steps -/

open Scan

mutual

/-- The lines of a step are read as its canonical form. -/
theorem readAs_lines (statement : String) : (code : Code) → code.IsLegible →
    ReadAs statement (code.lines statement) code.canonical
  | .push buffer text, _ => readAs_step (takes_pushLine (takes_push text).word).whole
  | .pushMark buffer value, _ => readAs_step (takes_pushLine (takes_pushMark value).word).whole
  | .pushTrusted buffer value, _ => readAs_step (takes_pushLine (takes_pushTrusted value).word).whole
  | .pushGuarded buffer parameter value, _ => by
      have argument : Takes (argument statement buffer) _ (.pushGuarded buffer parameter value.canonical) :=
        takes_pushGuarded parameter value
      have taken := (takes_pushLine argument.word).whole
      simp only [← String.append_assoc] at taken
      exact readAs_step taken
  | .pushBody buffer body, _ => readAs_step (takes_pushLine (takesWord_pushBody body)).whole
  | .define target value, legible => readAs_step (takes_define target legible).whole
  | .defineIndex target counter, _ => readAs_step (takes_defineIndex target counter).whole
  | .openBody body, _ => readAs_step (takes_openBody body).whole
  | .trimBody kind body, _ => readAs_step (takes_trimBody kind body).whole
  | .block inner, legible => (readAs_linesOfAll statement inner legible).plainBlock
  | .branch [] none, _ => readAs_nil
  | .branch [] (some fallback), legible =>
      (readAs_linesOfAll statement fallback legible.2).plainBlock
  | .branch ((test, inner) :: others) none, legible =>
      ((readAs_linesOfAll statement inner legible.2.1).choice (takes_ifTest legible.1).whole
        (readAs_linesOfOthers statement others legible.2.2)).close
  | .branch ((test, inner) :: others) (some fallback), legible =>
      ((readAs_linesOfAll statement inner legible.1.2.1).choice (takes_ifTest legible.1.1).whole
        (readAs_linesOfOthers statement others legible.1.2.2)).fallback
          (readAs_linesOfAll statement fallback legible.2)
  | .ifNonempty body inner, legible =>
      (readAs_linesOfAll statement inner legible).block (takes_ifNonempty body).whole
  | .ifList items collection inner, legible =>
      (readAs_linesOfAll statement inner legible).block (takes_ifList items collection).whole
  | .forEach counter item items inner, legible =>
      (readAs_linesOfAll statement inner legible).block (takes_forEach counter item items).whole
  | .ifLater counter inner, legible =>
      (readAs_linesOfAll statement inner legible).block (takes_ifLater counter).whole
  | .remark fragment, _ => by
      have split : "// include `" = "//" ++ " include `" := rfl
      have read : ReadAs statement
          [.plain ("//" ++ (" include `" ++ fragment ++ "` was never resolved"))] [] :=
        readAs_remark _
      rw [String.append_assoc, ← String.append_assoc, ← split, ← String.append_assoc] at read
      exact read

theorem readAs_linesOfAll (statement : String) : (codes : List Code) → Code.AreLegible codes →
    ReadAs statement (Code.linesOfAll statement codes) (Code.canonicalOfAll codes)
  | [], _ => readAs_nil
  | code :: rest, legible =>
      (readAs_lines statement code legible.1).append (readAs_linesOfAll statement rest legible.2)

theorem readAs_linesOfOthers (statement : String) :
    (branches : List (TestCode Variable × List Code)) → Code.BranchesLegible branches →
    ReadAsOthers statement (Code.linesOfOthers statement branches)
      (Code.canonicalOfBranches branches)
  | [], _ => readAsOthers_nil
  | (_, inner) :: rest, legible =>
      (readAs_linesOfAll statement inner legible.2.1).others (takes_elseTest legible.1).whole
        (readAs_linesOfOthers statement rest legible.2.2)

end

end SqlMapper.Generated
