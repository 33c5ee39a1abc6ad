import SqlMapper.Proofs.Generated.Name
import SqlMapper.Proofs.Source.Expression

/-!
# Scanning lines

A line of a function is a step of its own, opens or closes a block, or stands at a fixed place of the
function.  Every line that is written is taken as what it was written for.
-/

namespace SqlMapper.Generated

/-- What the block around a line is. -/
inductive Frame where
  | block
  /-- A branch, behind others. -/
  | branch (before : List (TestCode Variable × List Code)) (test : TestCode Variable)
  | fallback (branches : List (TestCode Variable × List Code))
  | nonempty (body : Variable)
  | list (items collection : Variable)
  | each (counter item items : Variable)
  | later (counter : Variable)

/-- What a line holds. -/
inductive Row where
  | function (name : String)
  /-- Declares the SQL of the statement. -/
  | output
  /-- Declares the bound values. -/
  | parameters
  | step (code : Code)
  | opening (frame : Frame)
  /-- Closes a branch and opens the next one. -/
  | otherTest (test : TestCode Variable)
  /-- Closes the last branch and opens the fallback. -/
  | otherwise
  | closing
  /-- The result of the function. -/
  | result

namespace Scan

/-- Takes a name that may be declared. -/
def functionName : Scan String := fun text =>
  let name := String.ofList (text.takeWhile (· != '('))
  if IsName name then some (name, text.dropWhile (· != '(')) else none

/-- Takes what is written to a buffer, in a function of the given statement. -/
def argument (statement : String) (buffer : Buffer) : Scan Code :=
  (do
    let text ← quoted
    pure (.push buffer text)) <|>
  select [
    ("&cx.bind(&mut params, ", do
      let value ← value
      expect ")"
      pure (.pushMark buffer value)),
    ("&stringify(&", do
      let value ← value
      expect ")"
      pure (.pushTrusted buffer value)),
    ("&guard_identifier(", do
      expect (Text.quoted statement)
      expect ", "
      let parameter ← quoted
      expect ", &"
      let value ← value
      expect ")?"
      pure (.pushGuarded buffer parameter value))] <|> do
  let body ← «variable»
  pure (.pushBody buffer body)

/-- Takes the rest of a line that writes to a buffer. -/
def pushed (statement : String) (buffer : Buffer) : Scan Row := do
  expect ".push_str("
  let code ← argument statement buffer
  expect ");"
  pure (.step code)

def pushing (statement : String) : Scan Row :=
  (do
    expect "sql"
    pushed statement .output) <|> do
  let body ← «variable»
  pushed statement (.side body)

/-- Takes the name of the body of a clause that is mended, which stays its name. -/
def mended (kind : Clause) (target : Variable) : Scan Row := do
  expect "(&"
  let body ← «variable»
  expect ");"
  given (if body = target then some (.step (.trimBody kind body)) else none)

/-- Takes what a variable is declared to be. -/
def definition (target : Variable) : Scan Row :=
  (do
    let value ← bound
    expect ";"
    pure (.step (.define target value))) <|>
  select [
    ("Value::from(", do
      let counter ← «variable»
      expect ");"
      pure (.step (.defineIndex target counter))),
    ("trim_where_body", mended .whereClause target),
    ("trim_set_body", mended .setClause target)]

/-- Takes the rest of a declaration. -/
def declaration : Scan Row :=
  (do
    let target ← «variable»
    expect " = "
    definition target) <|>
  select [
    ("mut sql = String::new();", pure .output),
    ("mut params = Vec::new();", pure .parameters),
    ("mut ", do
      let body ← «variable»
      expect " = String::new();"
      pure (.step (.openBody body)))]

/-- Takes the rest of the header of a loop. -/
def loopHeader : Scan Row := do
  let counter ← «variable»
  expect ", "
  let item ← «variable»
  expect ") in "
  let items ← «variable»
  expect ".iter().enumerate()"
  expect openBrace
  pure (.opening (.each counter item items))

/-- Takes the rest of the header of a block that is not always run. -/
def conditionHeader : Scan Row :=
  (do
    let test ← test
    expect openBrace
    pure (.opening (.branch [] test))) <|>
  (do
    let counter ← «variable»
    expect " > 0"
    expect openBrace
    pure (.opening (.later counter))) <|>
  select [
    ("!", do
      let body ← «variable»
      expect ".is_empty()"
      expect openBrace
      pure (.opening (.nonempty body))),
    ("let Some(", do
      let items ← «variable»
      expect ") = items(&"
      let collection ← «variable»
      expect ")"
      expect openBrace
      pure (.opening (.list items collection)))]

/-- What follows the name of a function on its line. -/
def signature : String :=
  "(param: &dyn ParameterAccessor, cx: &RenderContext) -> Result<RenderedSql, GuardViolation> \x7b"

/-- Takes the rest of the line with the name of a function. -/
def functionHeader : Scan Row := do
  let name ← functionName
  expect signature
  pure (.function name)

/-- Takes a line that begins with a word or a brace. -/
def keyed : Scan Row :=
  select [
    ("let ", declaration),
    ("for (", loopHeader),
    ("if ", conditionHeader),
    ("\x7d else if ", do
      let test ← test
      expect openBrace
      pure (.otherTest test)),
    ("\x7d else \x7b", pure .otherwise),
    ("\x7d", pure .closing),
    ("\x7b", pure (.opening .block)),
    ("Ok(RenderedSql::finish(&sql, params))", pure .result),
    ("pub fn ", functionHeader)]

/-- Takes what a line holds. -/
def row (statement : String) : Scan Row :=
  pushing statement <|> keyed

/-! ### What is written is taken -/

section Argument

variable {statement text : String} {buffer : Buffer} {code : Code}

/-- Text that does not begin with a quote is no string. -/
theorem fails_quoted {characters : List Char} (noQuote : differ ['"'] characters) :
    Fails quoted (String.ofList characters) :=
  (differs_ofList noQuote).expect.bind

theorem fails_variable {characters : List Char} (noVariable : differ ['_', '_'] characters) :
    Fails «variable» (String.ofList characters) :=
  (differs_ofList noVariable).expect.bind

theorem append_source (before : String) (target : Variable) :
    ∃ more, before ++ target.source = before ++ "__" ++ more := by
  have text : target.source = "__" ++ (target.role.source ++ toString target.number) :=
    String.append_assoc ..
  exact ⟨_, (congrArg (before ++ ·) text).trans (String.append_assoc ..).symm⟩

/-- What fails on two underscores fails on variables. -/
theorem fails_source {α : Type} {scan : Scan α} (fails : Fails scan "__") (target : Variable) :
    Fails scan target.source := by
  rcases append_source "" target with ⟨more, text⟩
  rw [String.empty_append, String.empty_append] at text
  rw [text]
  exact fails.append

theorem takes_push (text : String) :
    Takes (argument statement buffer) (Text.quoted text) (.push buffer text) :=
  (takes_quoted text).last.orElse

theorem takes_pushMark (value : ValueCode Variable) :
    Takes (argument statement buffer) s!"&cx.bind(&mut params, {value.source Variable.source})"
      (.pushMark buffer value.canonical) := by
  have refused : Fails quoted "&cx.bind(&mut params, " := fails_quoted (by decide)
  simp only [String.append_assoc]
  refine Takes.orElse_later ?_ refused.bind.append
  exact (takes_select <| (takes_value value).bind (takes_expect _).last).orElse

theorem takes_pushTrusted (value : ValueCode Variable) :
    Takes (argument statement buffer) s!"&stringify(&{value.source Variable.source})"
      (.pushTrusted buffer value.canonical) := by
  have refused : Fails quoted "&stringify(&" := fails_quoted (by decide)
  simp only [String.append_assoc]
  refine Takes.orElse_later (Takes.orElse ?_) refused.bind.append
  refine Takes.select_later ?_ (differs_ofList (by decide)).append
  exact takes_select <| (takes_value value).bind (takes_expect _).last

theorem takes_pushGuarded (parameter : String) (value : ValueCode Variable) :
    Takes (argument statement buffer)
      ("&guard_identifier(" ++ (Text.quoted statement ++ (", " ++ (Text.quoted parameter ++
        (", &" ++ (value.source Variable.source ++ ")?"))))))
      (.pushGuarded buffer parameter value.canonical) := by
  have refused : Fails quoted "&guard_identifier(" := fails_quoted (by decide)
  refine Takes.orElse_later (Takes.orElse ?_) refused.bind.append
  iterate 2 refine Takes.select_later ?_ (differs_ofList (by decide)).append
  refine takes_select <| (takes_expect _).bind <| (takes_expect _).bind <| (takes_quoted parameter).bind ?_
  exact (takes_expect _).bind <| (takes_value value).bind (takes_expect _).last

theorem takesWord_pushBody (body : Variable) :
    TakesWord (argument statement buffer) body.source (.pushBody buffer body) := by
  have noString : Fails quoted "__" := fails_quoted (by decide)
  refine TakesWord.orElse_later (TakesWord.orElse_later ?_ ?_) (fails_source noString body).bind
  · exact (takesWord_variable body).last
  · exact fails_source (fails_select (by simp [differ])) body

theorem takes_pushed (argument : TakesWord (argument statement buffer) text code) :
    Takes (pushed statement buffer) (".push_str(" ++ (text ++ ");")) (.step code) :=
  (takes_expect _).bind <| argument.bind (ends_ofList (by decide)) (takes_expect _).last

theorem takes_pushLine (argument : TakesWord (argument statement buffer) text code) :
    Takes (row statement) (pushLine buffer text).text (.step code) := by
  change Takes (row statement) (buffer.source ++ ".push_str(" ++ text ++ ");") _
  simp only [String.append_assoc]
  refine Takes.orElse ?_
  cases buffer with
  | output => exact ((takes_expect _).bind (takes_pushed argument)).orElse
  | side body =>
      have refused : Fails (expect "sql") "__" := (differs_ofList (by decide)).expect
      refine Takes.orElse_later ?_ (fails_source refused body).bind.append
      exact (takesWord_variable body).bind (ends_ofList (by decide)).append (takes_pushed argument)

end Argument

section Keyed

variable {statement : String}

/-- A line that begins with neither the SQL nor a body writes to no buffer. -/
theorem fails_pushing {characters : List Char} (noOutput : differ ['s', 'q', 'l'] characters)
    (noVariable : differ ['_', '_'] characters) :
    Fails (pushing statement) (String.ofList characters) :=
  (differs_ofList noOutput).expect.bind.orElse (fails_variable noVariable).bind

theorem Takes.row {characters : List Char} {text : String} {row : Row}
    (taken : Takes keyed (String.ofList characters ++ text) row)
    (noOutput : differ ['s', 'q', 'l'] characters) (noVariable : differ ['_', '_'] characters) :
    Takes (Scan.row statement) (String.ofList characters ++ text) row :=
  taken.orElse_later (fails_pushing noOutput noVariable).append

theorem takes_define (target : Variable) {value : BindCode Variable} (legible : value.IsLegible) :
    Takes (row statement) s!"let {target.source} = {value.source Variable.source};"
      (.step (.define target value.canonical)) := by
  simp only [String.append_assoc]
  refine Takes.row (takes_select (Takes.orElse ?_)) (by decide) (by decide)
  exact (takesWord_variable target).bind (ends_ofList (by decide)).append <| (takes_expect _).bind <|
    ((takes_bound legible).bind (takes_expect _).last).orElse

/-- What a declaration of another kind begins with is no expression. -/
theorem fails_bound {characters : List Char} (noValue : Fails value (String.ofList characters))
    (noJoin : differ "Value::String([".toList characters) : Fails bound (String.ofList characters) :=
  noValue.bind.orElse (differs_ofList noJoin).expect.bind

theorem takes_defineIndex (target counter : Variable) :
    Takes (row statement) s!"let {target.source} = Value::from({counter.source});"
      (.step (.defineIndex target counter)) := by
  have split : " = Value::from(" = " = " ++ "Value::from(" := rfl
  have noLiteral : Fails literal "Value::from(__" := fun _ => rfl
  have noBound : Fails bound ("Value::from(" ++ (counter.source ++ ");")) := by
    rcases append_source "Value::from(" counter with ⟨more, text⟩
    rw [← String.append_assoc, text]
    have refused : Fails bound "Value::from(__" :=
      fails_bound (fails_value noLiteral (by decide) (by decide)) (by decide)
    exact refused.append.append
  simp only [String.append_assoc]
  change Takes (row statement)
    ("let " ++ (target.source ++ (" = Value::from(" ++ (counter.source ++ ");")))) _
  rw [split, String.append_assoc]
  refine Takes.row (takes_select (Takes.orElse ?_)) (by decide) (by decide)
  refine (takesWord_variable target).bind (ends_ofList (by decide)).append <| (takes_expect _).bind <|
    Takes.orElse_later ?_ noBound.bind
  exact takes_select <| (takesWord_variable counter).bind (ends_ofList (by decide)) (takes_expect _).last

theorem takes_trimBody (kind : Clause) (body : Variable) :
    Takes (row statement) s!"let {body.source} = {trimSource kind}(&{body.source});"
      (.step (.trimBody kind body)) := by
  have mended : Takes (mended kind body) ("(&" ++ (body.source ++ ");")) (.step (.trimBody kind body)) :=
    (takes_expect _).bind <| (takesWord_variable body).bind (ends_ofList (by decide)) <|
      (takes_expect _).given (if_pos rfl)
  have taken : Takes (definition body) (trimSource kind ++ ("(&" ++ (body.source ++ ");")))
      (.step (.trimBody kind body)) := by
    cases kind with
    | whereClause =>
        have noBound : Fails bound "trim_where_body" :=
          fails_bound (fails_value (fails_select rfl) (by decide) (by decide)) (by decide)
        refine Takes.orElse_later ?_ noBound.bind.append
        exact (takes_select mended).select_later (differs_ofList (by decide)).append
    | setClause =>
        have noBound : Fails bound "trim_set_body" :=
          fails_bound (fails_value (fails_select rfl) (by decide) (by decide)) (by decide)
        refine Takes.orElse_later ?_ noBound.bind.append
        iterate 2 refine Takes.select_later ?_ (differs_ofList (by decide)).append
        exact takes_select mended
  simp only [String.append_assoc]
  refine Takes.row (takes_select (Takes.orElse ?_)) (by decide) (by decide)
  exact (takesWord_variable body).bind (ends_ofList (by decide)).append <| (takes_expect _).bind taken

theorem takes_openBody (body : Variable) :
    Takes (row statement) s!"let mut {body.source} = String::new();" (.step (.openBody body)) := by
  have split : "let mut " = "let " ++ "mut " := rfl
  have noVariable : Fails «variable» "mut " := fails_variable (by decide)
  have differs {mark : List Char} (different : differ mark ['m', 'u', 't', ' ', '_', '_']) :
      Differs (String.ofList mark) ("mut " ++ (body.source ++ " = String::new();")) := by
    rcases append_source "mut " body with ⟨more, text⟩
    rw [← String.append_assoc, text]
    have refused : Differs (String.ofList mark) "mut __" := differs_ofList different
    exact refused.append.append
  simp only [String.append_assoc]
  change Takes (row statement) ("let mut " ++ (body.source ++ " = String::new();")) _
  rw [split, String.append_assoc]
  refine Takes.row (takes_select (Takes.orElse_later ?_ noVariable.bind.append)) (by decide) (by decide)
  refine ((takes_select ?_).select_later (differs (by decide))).select_later (differs (by decide))
  exact (takesWord_variable body).bind (ends_ofList (by decide)) (takes_expect _).last

theorem takes_forEach (counter item items : Variable) :
    Takes (row statement)
      (openLine s!"for ({counter.source}, {item.source}) in {items.source}.iter().enumerate()").text
      (.opening (.each counter item items)) := by
  simp only [openLine, Line.text, String.append_assoc]
  refine Takes.row ?_ (by decide) (by decide)
  refine Takes.select_later (takes_select ?_) (differs_ofList (by decide)).append
  exact (takesWord_variable counter).bind (ends_ofList (by decide)).append <| (takes_expect _).bind <|
    (takesWord_variable item).bind (ends_ofList (by decide)).append <| (takes_expect _).bind <|
      (takesWord_variable items).bind (ends_ofList (by decide)).append <|
        (takes_expect _).bind (takes_expect _).last

theorem Takes.ifRow {text : String} {row : Row} (taken : Takes conditionHeader text row) :
    Takes (Scan.row statement) ("if " ++ text) row := by
  refine Takes.row ?_ (by decide) (by decide)
  iterate 2 refine Takes.select_later ?_ (differs_ofList (by decide)).append
  exact takes_select taken

theorem takes_ifTest {test : TestCode Variable} (legible : test.IsLegible) :
    Takes (row statement) (openLine s!"if {test.source Variable.source}").text
      (.opening (.branch [] test.canonical)) := by
  simp only [openLine, Line.text, String.append_assoc]
  refine Takes.ifRow (Takes.orElse ?_)
  exact (takes_test legible).bind (takes_expect _).last

/-- What the header of a block of another kind begins with is no test. -/
theorem fails_test {characters : List Char} (noCondition : Fails condition (String.ofList characters))
    (noSeveral : differ ['('] characters) : Fails test (String.ofList characters) :=
  noCondition.bind.orElse (differs_ofList noSeveral).expect.bind

theorem takes_ifLater (counter : Variable) :
    Takes (row statement) (openLine s!"if {counter.source} > 0").text (.opening (.later counter)) := by
  have noTest : Fails test "__" := fails_test (fails_select rfl) (by decide)
  simp only [openLine, Line.text, String.append_assoc]
  refine Takes.ifRow (Takes.orElse_later (Takes.orElse ?_) ?_)
  · exact (takesWord_variable counter).bind (ends_ofList (by decide)).append <|
      (takes_expect _).bind (takes_expect _).last
  · exact (fails_source noTest counter).bind.append

/-- A header that begins with neither a test nor a variable. -/
theorem takes_ifNonempty (body : Variable) :
    Takes (row statement) (openLine s!"if !{body.source}.is_empty()").text
      (.opening (.nonempty body)) := by
  have split : "if !" = "if " ++ "!" := rfl
  have noTest : Fails test "!" := fails_test (fails_select rfl) (by decide)
  have noVariable : Fails «variable» "!" := fails_variable (by decide)
  simp only [openLine, Line.text, String.append_assoc]
  change Takes (row statement) ("if !" ++ (body.source ++ (".is_empty()" ++ openBrace))) _
  rw [split, String.append_assoc]
  refine Takes.ifRow (Takes.orElse_later (Takes.orElse_later ?_ ?_) ?_)
  · exact takes_select <| (takesWord_variable body).bind (ends_ofList (by decide)).append <|
      (takes_expect _).bind (takes_expect _).last
  · exact noVariable.bind.append
  · exact noTest.bind.append

theorem takes_ifList (items collection : Variable) :
    Takes (row statement)
      (openLine s!"if let Some({items.source}) = items(&{collection.source})").text
      (.opening (.list items collection)) := by
  have split : "if let Some(" = "if " ++ "let Some(" := rfl
  have noTest : Fails test "let Some(" := fails_test (fails_select rfl) (by decide)
  have noVariable : Fails «variable» "let Some(" := fails_variable (by decide)
  simp only [openLine, Line.text, String.append_assoc]
  change Takes (row statement) ("if let Some(" ++ (items.source ++ (") = items(&" ++
    (collection.source ++ (")" ++ openBrace))))) _
  rw [split, String.append_assoc]
  refine Takes.ifRow (Takes.orElse_later (Takes.orElse_later ?_ ?_) ?_)
  · refine Takes.select_later (takes_select ?_) (differs_ofList (by decide)).append
    exact (takesWord_variable items).bind (ends_ofList (by decide)).append <| (takes_expect _).bind <|
      (takesWord_variable collection).bind (ends_ofList (by decide)).append <|
        (takes_expect _).bind (takes_expect _).last
  · exact noVariable.bind.append
  · exact noTest.bind.append

theorem takes_elseTest {test : TestCode Variable} (legible : test.IsLegible) :
    Takes (row statement) (s!"\x7d else if {test.source Variable.source}" ++ openBrace)
      (.otherTest test.canonical) := by
  simp only [String.append_assoc]
  refine Takes.row ?_ (by decide) (by decide)
  iterate 3 refine Takes.select_later ?_ (differs_ofList (by decide)).append
  exact takes_select <| (takes_test legible).bind (takes_expect _).last

theorem Takes.rowAlone {characters : List Char} {row : Row}
    (taken : Takes keyed (String.ofList characters) row)
    (noOutput : differ ['s', 'q', 'l'] characters) (noVariable : differ ['_', '_'] characters) :
    Takes (Scan.row statement) (String.ofList characters) row :=
  taken.orElse_later (fails_pushing noOutput noVariable)

theorem takes_output : Takes (row statement) "let mut sql = String::new();" .output := by
  have split : "let mut sql = String::new();" = "let " ++ "mut sql = String::new();" := rfl
  have noVariable : Fails «variable» "mut sql = String::new();" := fails_variable (by decide)
  rw [split]
  exact Takes.row (takes_select (takes_mark.orElse_later noVariable.bind)) (by decide) (by decide)

theorem takes_parameters : Takes (row statement) "let mut params = Vec::new();" .parameters := by
  have split : "let mut params = Vec::new();" = "let " ++ "mut params = Vec::new();" := rfl
  have noVariable : Fails «variable» "mut params = Vec::new();" := fails_variable (by decide)
  rw [split]
  refine Takes.row (takes_select (Takes.orElse_later ?_ noVariable.bind)) (by decide) (by decide)
  exact takes_mark.select_later (differs_ofList (by decide))

theorem takes_otherwise : Takes (row statement) "\x7d else \x7b" .otherwise := by
  refine Takes.rowAlone ?_ (by decide) (by decide)
  iterate 4 refine Takes.select_later ?_ (differs_ofList (by decide))
  exact takes_mark

theorem takes_block : Takes (row statement) "\x7b" (.opening .block) := by
  refine Takes.rowAlone ?_ (by decide) (by decide)
  iterate 6 refine Takes.select_later ?_ (differs_ofList (by decide))
  exact takes_mark

theorem takes_result : Takes (row statement) "Ok(RenderedSql::finish(&sql, params))" .result := by
  refine Takes.rowAlone ?_ (by decide) (by decide)
  iterate 7 refine Takes.select_later ?_ (differs_ofList (by decide))
  exact takes_mark

theorem row_closing : row statement closeLine.text.toList = some (.closing, []) := by
  have refused : Fails (pushing statement) "\x7d" := fails_pushing (by decide) (by decide)
  have fails := refused []
  rw [List.append_nil] at fails
  have text : closeLine.text = "\x7d" := rfl
  rw [text, row, orElse_apply, fails]
  rfl

theorem ne_parenthesis_of_isName {name : String} (legal : IsName name) : ∀ c ∈ name.toList, c != '(' := by
  rcases legal with ⟨isText, -, -⟩ | ⟨word, reserved, -, rfl⟩
  · intro c member
    have allowed := isNameChar_of_mem isText c member
    rw [bne_iff_ne]
    rintro rfl
    cases allowed
  · have words : reservedWords.all fun word => ("r#" ++ word).toList.all (· != '(') := by rfl
    exact List.all_eq_true.1 (List.all_eq_true.1 words word reserved)

theorem takes_functionHeader {name : String} (legal : IsName name) :
    Takes (row statement) ("pub fn " ++ (name ++ signature)) (.function name) := by
  have taken : Takes functionHeader (name ++ signature) (.function name) := by
    intro rest
    have free := ne_parenthesis_of_isName legal
    have stops : (signature.toList ++ rest).takeWhile (· != '(') = [] ∧
        (signature.toList ++ rest).dropWhile (· != '(') = signature.toList ++ rest := ⟨rfl, rfl⟩
    have named : functionName (name.toList ++ (signature.toList ++ rest)) =
        some (name, signature.toList ++ rest) := by
      simp only [functionName, List.takeWhile_append_of_pos free, List.dropWhile_append_of_pos free,
        stops, List.append_nil, String.ofList_toList, if_pos legal]
    have closed := takes_expect signature rest
    rw [String.toList_append, List.append_assoc, functionHeader, bind_apply, named, Option.bind_some,
      bind_apply, closed]
    rfl
  refine Takes.row ?_ (by decide) (by decide)
  iterate 8 refine Takes.select_later ?_ (differs_ofList (by decide)).append
  exact takes_select taken

end Keyed

end Scan

end SqlMapper.Generated
