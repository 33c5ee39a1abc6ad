import SqlMapper.Proofs.Generated.Injection
import SqlMapper.Proofs.Source.Remark

/-!
# What the written functions do

What holds of the functions that are generated for a mapper holds of the functions that are read from
their source, as long as no remark in it is broken: they render, they admit no injection, and they splice
where the template does.  An include id with a line break ends the remark on it, and what stands behind
the break is read as steps of the function.
-/

namespace SqlMapper.Generated

open Text

variable (config : Config) (mapper : Mapper)

theorem map_eq_ok_iff {ε α β : Type} {f : α → β} {outcome : Except ε α} {result : β} :
    outcome.map f = .ok result ↔ ∃ value, outcome = .ok value ∧ f value = result := by
  cases outcome <;> simp [Except.map]

theorem map_eq_error_iff {ε α β : Type} {f : α → β} {outcome : Except ε α} {fault : ε} :
    outcome.map f = .error fault ↔ outcome = .error fault := by
  cases outcome <;> simp [Except.map]

/-- What is read from the source of the function of a statement runs and splices like that function. -/
theorem exists_isReadAs {name : String} (legal : IsName name) {statement : Statement}
    (unbroken : UnbrokenRemarks mapper statement) :
    ∃ read, (ofStatement config mapper name statement).IsReadAs (mapper.qualify statement.id) read ∧
      (∀ style parameter members, read.run style parameter members =
        (ofStatement config mapper name statement).run style parameter members) ∧
      read.splices = (ofStatement config mapper name statement).splices :=
  ⟨_, isReadAs_ofStatement config legal unbroken, Function.run_canonical _, Function.splices_canonical _⟩

/-- The function that is written for a statement comes to the rendering of the statement, with the same
members in the cache, unless a raw substitution is reached that is neither trusted nor a checked
identifier: the first of these is refused.  Nothing else stops it.  Texts, names, kinds, digits and
places of values are the same; the sign of a decimal zero, which no comparison sees, is left out, since a
constant in a function is written by its units. -/
theorem run_written :
    List.Forall₂ (fun statement function => UnbrokenRemarks mapper statement →
        ∃ read, function.IsReadAs (mapper.qualify statement.id) read ∧
          ∀ style parameter members expressions,
            let context : RenderContext := { style, parameter }
            let rendered := statement.render context members expressions
            let refused := (statement.reached context members expressions).findSome?
              (·.violation? (config.trusts statement.id) (mapper.qualify statement.id))
            (read.run style parameter members).map (fun result => (result.1.dropZeroSign, result.2)) =
              match refused with
              | none => .ok (rendered.1.dropZeroSign, rendered.2.1)
              | some violation => .error (.refused violation))
      mapper.statements (ofMapper config mapper).functions := by
  apply (forall₂_functions config mapper).imp
  rintro statement _ ⟨name, legal, rfl⟩ unbroken
  rcases exists_isReadAs config mapper legal unbroken with ⟨read, source, same, -⟩
  refine ⟨read, source, ?_⟩
  intro style parameter members expressions
  rw [same]
  exact run_ofStatement config mapper name statement style parameter members expressions

/-- A statement that is sorted by a column of the caller's choice, with a reference left in it. -/
def sortedStatement : Statement where
  id := "sorted"
  root := .mixed [.text "SELECT * FROM users",
    .clause .whereClause [.text "AND id = ", .parameter "id" false],
    .text " ORDER BY (", .parameter "column" true, .text ")", .reference "paging"]

def sortedMapper : Mapper where
  nameSpace := "users"
  statements := [sortedStatement]

def sortedFunction : Function :=
  ofStatement {} sortedMapper "sorted" sortedStatement

def sortedParameter : Accessor :=
  .ofPairs [("id", .int 7),
    ("column", .identifier { text := "users.name", sound := by decide +kernel })]

theorem mem_zip_sorted :
    (sortedStatement, sortedFunction) ∈
      sortedMapper.statements.zip (ofMapper {} sortedMapper).functions := by
  have named : functionNames (sortedMapper.statements.map (·.id)) = ["sorted"] := by decide +kernel
  rw [functions_ofMapper {} named]
  exact List.mem_cons_self

theorem run_written_sorted :
    UnbrokenRemarks sortedMapper sortedStatement ∧
      ∃ read, sortedFunction.IsReadAs "users.sorted" read ∧
        (∃ result, read.run .question sortedParameter {} = .ok result ∧
          result.1.sql = "SELECT * FROM users WHERE id = ? ORDER BY (users.name)") ∧
        read.run .question (.ofPairs [("column", .string "name); --")]) {} =
          .error (.refused { statement := "users.sorted", parameter := "column", found := .string }) := by
  have unbroken : UnbrokenRemarks sortedMapper sortedStatement := by decide +kernel
  rcases (List.forall₂_iff_zip.1 (run_written {} sortedMapper)).2 mem_zip_sorted unbroken
    with ⟨read, source, behaves⟩
  refine ⟨unbroken, read, source, ?_, ?_⟩
  · have outcome := behaves .question sortedParameter {} {}
    have passed : (sortedStatement.reached { parameter := sortedParameter } {} {}).findSome?
        (·.violation? (({} : Config).trusts sortedStatement.id)
          (sortedMapper.qualify sortedStatement.id)) = none := by
      decide +kernel
    have sql : (sortedStatement.render { parameter := sortedParameter } {} {}).1.sql =
        "SELECT * FROM users WHERE id = ? ORDER BY (users.name)" := by
      decide +kernel
    dsimp only at outcome
    rw [passed] at outcome
    rcases map_eq_ok_iff.1 outcome with ⟨result, ran, same⟩
    exact ⟨result, ran, (congrArg (·.1.sql) same).trans sql⟩
  · have outcome := behaves .question (.ofPairs [("column", .string "name); --")]) {} {}
    have refused : (sortedStatement.reached
        { parameter := .ofPairs [("column", .string "name); --")] } {} {}).findSome?
          (·.violation? (({} : Config).trusts sortedStatement.id)
            (sortedMapper.qualify sortedStatement.id)) =
        some { statement := "users.sorted", parameter := "column", found := .string } := by
      decide +kernel
    dsimp only at outcome
    rw [refused] at outcome
    exact map_eq_error_iff.1 outcome

/-- A statement that refers to a fragment that is never declared. -/
def referring (fragment : String) : Statement where
  id := "all"
  root := .mixed [.text "SELECT 1", .reference fragment]

/-- The mapper of one statement that refers to a fragment. -/
def referringMapper (fragment : String) : Mapper where
  nameSpace := "users"
  statements := [referring fragment]

def referringFunction (fragment : String) : Function :=
  ofStatement {} (referringMapper fragment) "all" (referring fragment)

theorem mem_zip_referring (fragment : String) :
    (referring fragment, referringFunction fragment) ∈
      (referringMapper fragment).statements.zip (ofMapper {} (referringMapper fragment)).functions := by
  have named : functionNames ((referringMapper fragment).statements.map (·.id)) = ["all"] :=
    (by decide +kernel : functionNames ["all"] = ["all"])
  rw [functions_ofMapper {} named]
  exact List.mem_cons_self

theorem referringFunction_eq (fragment : String) : referringFunction fragment =
    { name := "all", statement := "users.all", body := [.push .output "SELECT 1", .remark fragment] } :=
  rfl

/-- The function that is read if a reference to a fragment is a step of its own. -/
def intruded (code : Code) : Function where
  name := "all"
  statement := "users.all"
  body := [.push .output "SELECT 1", code]

theorem isReadAs_intruded {code : Code} {text : String} (unbroken : Lacks ['\n'] text)
    (taken : Scan.Takes (Scan.row "users.all") text (.step code)) :
    (referringFunction (breakingId "x`" text)).IsReadAs "users.all" (intruded code) := by
  let plain : Function := { name := "all", statement := "users.all", body := [.push .output "SELECT 1"] }
  have legal : IsName plain.name := by decide +kernel
  have unbrokenRemark : ∀ line ∈ plain.remarks, Lacks ['\n'] line.text := by decide +kernel
  have newline : ['\n'] ⊆ lineBreaks := by decide
  have unbrokenLines := (Function.unbroken_lines plain (lacks_of_isName legal)).lacks_iff newline
  have unbrokenBefore : Lacks ['\n'] "x`" := by decide +kernel
  have steps : plain.body = [.push .output "SELECT 1"] ++ [] := rfl
  have legible : Code.AreLegible plain.body := ⟨trivial, trivial⟩
  have read := Function.isReadAs_of_breakingId steps legal legible (unbrokenLines.2 unbrokenRemark)
    unbrokenBefore unbroken taken
  simp only [Code.canonicalOfAll, Code.canonical, List.cons_append, List.nil_append] at read
  rw [referringFunction_eq]
  exact read

/-- The id of a fragment with a line break, behind which SQL is appended. -/
def appendingId : String :=
  breakingId "x`" "sql.push_str(\"; --\");"

/-- What is read from the function that refers to that fragment. -/
def appended : Function :=
  intruded (.push .output "; --")

theorem isReadAs_appended : (referringFunction appendingId).IsReadAs "users.all" appended := by
  have text : (pushLine .output (Text.quoted "; --")).text =
      "sql.push_str(\"; --\");" := by decide +kernel
  have taken : Scan.Takes (Scan.row "users.all") (pushLine .output (Text.quoted "; --")).text
      (.step (.push .output "; --")) := Scan.takes_pushLine (Scan.takes_push _).word
  rw [text] at taken
  exact isReadAs_intruded (by decide +kernel) taken

theorem exists_run_appended : ∃ result, appended.run .question (.ofPairs []) {} = .ok result ∧
    result.1.sql = "SELECT 1; --" := by
  rw [← map_eq_ok_iff]
  decide +kernel

/-- A written function whose SQL is not what the statement renders. -/
theorem run_written_broken :
    (referring appendingId, referringFunction appendingId) ∈
        (referringMapper appendingId).statements.zip
          (ofMapper {} (referringMapper appendingId)).functions ∧
      ((referring appendingId).render { parameter := .ofPairs [] } {} {}).1.sql = "SELECT 1" ∧
      (referringFunction appendingId).IsReadAs "users.all" appended ∧
      ∃ result, appended.run .question (.ofPairs []) {} = .ok result ∧
        result.1.sql = "SELECT 1; --" :=
  ⟨mem_zip_referring appendingId, by decide +kernel, isReadAs_appended, exists_run_appended⟩

/-- Whatever is no name, mark or space in the SQL of a written function without trusted substitutions
stands in a fixed text of its template; all syntax of strings, comments and groups does so. -/
theorem literal_of_written :
    List.Forall₂ (fun statement function => UnbrokenRemarks mapper statement →
        (∀ path, config.declaredType? statement.id path ≠ some safeIdentifierType) →
        ∃ read, function.IsReadAs (mapper.qualify statement.id) read ∧
          ∀ style parameter members result, read.run style parameter members = .ok result →
            (∀ c ∈ result.1.sql.toList, ¬isPlainChar c →
              ∃ literal ∈ statement.root.literals, c ∈ literal.toList) ∧
            ∀ c ∈ syntaxChars, c ∈ result.1.sql.toList →
              ∃ literal ∈ statement.root.literals, c ∈ literal.toList)
      mapper.statements (ofMapper config mapper).functions := by
  apply (forall₂_functions config mapper).imp
  rintro statement _ ⟨name, legal, rfl⟩ unbroken untrusted
  rcases exists_isReadAs config mapper legal unbroken with ⟨read, source, same, -⟩
  refine ⟨read, source, ?_⟩
  intro style parameter members result ran
  rw [same] at ran
  exact literal_of_run config mapper name statement style parameter members result untrusted ran

theorem literal_of_written_sorted :
    UnbrokenRemarks sortedMapper sortedStatement ∧
      (∀ path, ({} : Config).declaredType? "sorted" path ≠ some safeIdentifierType) ∧
      ∃ read, sortedFunction.IsReadAs "users.sorted" read ∧
        ∃ result, read.run .question sortedParameter {} = .ok result ∧ ';' ∉ result.1.sql.toList := by
  have unbroken : UnbrokenRemarks sortedMapper sortedStatement := by decide +kernel
  have untrusted : ∀ path, ({} : Config).declaredType? "sorted" path ≠ some safeIdentifierType := by
    simp [Config.declaredType?]
  rcases (List.forall₂_iff_zip.1 (literal_of_written {} sortedMapper)).2 mem_zip_sorted unbroken untrusted
    with ⟨read, source, holds⟩
  have legal : IsName "sorted" := by decide +kernel
  rcases exists_isReadAs {} sortedMapper legal unbroken with ⟨again, sourceAgain, same, -⟩
  obtain rfl : read = again := Option.some.inj ((source 0).symm.trans (sourceAgain 0))
  have accepted : (sortedFunction.run .question sortedParameter {}).map (·.1.sql) =
      .ok "SELECT * FROM users WHERE id = ? ORDER BY (users.name)" := by decide +kernel
  rw [sortedFunction, ← same] at accepted
  rcases map_eq_ok_iff.1 accepted with ⟨result, ran, -⟩
  refine ⟨unbroken, untrusted, read, source, result, ran, fun member => ?_⟩
  rcases (holds .question sortedParameter {} result ran).2 ';' (by decide) member
    with ⟨literal, among, inside⟩
  have absent : ∀ literal ∈ sortedStatement.root.literals, ';' ∉ literal.toList := by decide +kernel
  exact absent literal among inside

/-- A written function without trusted substitutions whose SQL has syntax that no text of the template
has. -/
theorem literal_of_written_broken :
    (referring appendingId, referringFunction appendingId) ∈
        (referringMapper appendingId).statements.zip
          (ofMapper {} (referringMapper appendingId)).functions ∧
      (∀ path, ({} : Config).declaredType? "all" path ≠ some safeIdentifierType) ∧
      (∀ literal ∈ (referring appendingId).root.literals, ';' ∉ literal.toList) ∧
      (referringFunction appendingId).IsReadAs "users.all" appended ∧
      ∃ result, appended.run .question (.ofPairs []) {} = .ok result ∧ ';' ∈ result.1.sql.toList := by
  refine ⟨mem_zip_referring appendingId, by simp [Config.declaredType?], by decide +kernel,
    isReadAs_appended, ?_⟩
  rcases exists_run_appended with ⟨result, ran, sql⟩
  exact ⟨result, ran, by rw [sql]; decide +kernel⟩

/-- The function that is written for a statement splices each raw placeholder of its tree once and in its
order, with a guard for its path unless that is declared a checked identifier.  A path is found unsafe in
the statement if there is a guard for it and it is no constant. -/
theorem splices_written (distinct : (mapper.statements.map (·.id)).Nodup) :
    List.Forall₂ (fun statement function => UnbrokenRemarks mapper statement →
        ∃ read, function.IsReadAs (mapper.qualify statement.id) read ∧
          read.splices = statement.root.rawParameters.map (fun name =>
            let path := (Path.ofPlaceholder name).toText
            if config.declaredType? statement.id path = some safeIdentifierType then .trusted
            else .guarded path) ∧
          ∀ parameter,
            { nameSpace := mapper.nameSpace, statement := statement.id, parameter } ∈
                mapper.unsafeSubstitutions config ↔
              .guarded parameter ∈ read.splices ∧ config.isSafeConstant parameter = false)
      mapper.statements (ofMapper config mapper).functions := by
  refine List.Forall₂.mp ?_ (forall₂_functions config mapper) (splices_ofMapper config mapper distinct)
  rintro statement _ ⟨name, legal, rfl⟩ ⟨-, splices, findings⟩ unbroken
  rcases exists_isReadAs config mapper legal unbroken with ⟨read, source, -, same⟩
  rw [← same] at splices findings
  exact ⟨read, source, splices, findings⟩

/-- A statement with a raw substitution in a loop, one declared a checked identifier, and a constant. -/
def reportStatement : Statement where
  id := "report"
  root := .mixed [
    .loop { collection := "columns", item := "column" } [.parameter "column" true],
    .choice [("desc", [.parameter "sort.column" true])] (some [.parameter "table" true])]

def reportMapper : Mapper where
  nameSpace := "orders"
  statements := [reportStatement, { id := "count", root := .text "SELECT COUNT(*) FROM orders" }]

def reportConfig : Config :=
  (({} : Config).addSafeConstant "Table").declareType "sort.column" safeIdentifierType

def reportFunction : Function :=
  ofStatement reportConfig reportMapper "report" reportStatement

theorem splices_written_report :
    (reportMapper.statements.map (·.id)).Nodup ∧ UnbrokenRemarks reportMapper reportStatement ∧
      (reportStatement, reportFunction) ∈
        reportMapper.statements.zip (ofMapper reportConfig reportMapper).functions ∧
      ∃ read, reportFunction.IsReadAs "orders.report" read ∧
        read.splices = [.guarded "column", .trusted, .guarded "table"] ∧
        { nameSpace := "orders", statement := "report", parameter := "column" } ∈
          reportMapper.unsafeSubstitutions reportConfig := by
  have distinct : (reportMapper.statements.map (·.id)).Nodup := by decide
  have unbroken : UnbrokenRemarks reportMapper reportStatement := by decide +kernel
  have written : (reportStatement, reportFunction) ∈
      reportMapper.statements.zip (ofMapper reportConfig reportMapper).functions := by
    have named : functionNames (reportMapper.statements.map (·.id)) = ["report", "count"] := by
      decide +kernel
    rw [functions_ofMapper reportConfig named]
    exact List.mem_cons_self
  have functions := splices_written reportConfig reportMapper distinct
  rcases (List.forall₂_iff_zip.1 functions).2 written unbroken with ⟨read, source, splices, findings⟩
  have expected : read.splices = [.guarded "column", .trusted, .guarded "table"] :=
    splices.trans (by decide +kernel)
  refine ⟨distinct, unbroken, written, read, source, expected, (findings "column").2 ⟨?_, ?_⟩⟩
  · rw [expected]
    exact List.mem_cons_self
  · decide +kernel

/-- The id of a fragment with a line break, behind which a value is spliced without a guard. -/
def splicingId : String :=
  breakingId "x`" "sql.push_str(&stringify(&cx.member(param, \"name\").unwrap_or_default()));"

/-- What is read from the function that refers to that fragment. -/
def spliced : Function :=
  intruded (.pushTrusted .output (.read (.parameter { name := "name", counts := false }) []))

theorem isReadAs_spliced : (referringFunction splicingId).IsReadAs "users.all" spliced := by
  let value : ValueCode Variable := .read (.parameter { name := "name", counts := false }) []
  have text : (pushLine .output s!"&stringify(&{value.source Variable.source})").text =
      "sql.push_str(&stringify(&cx.member(param, \"name\").unwrap_or_default()));" := by decide +kernel
  have taken : Scan.Takes (Scan.row "users.all")
      (pushLine .output s!"&stringify(&{value.source Variable.source})").text
      (.step (.pushTrusted .output value)) := Scan.takes_pushLine (Scan.takes_pushTrusted value).word
  rw [text] at taken
  exact isReadAs_intruded (by decide +kernel) taken

/-- A written function with a splice for which there is no raw placeholder in the template. -/
theorem splices_written_broken :
    (referring splicingId, referringFunction splicingId) ∈
        (referringMapper splicingId).statements.zip
          (ofMapper {} (referringMapper splicingId)).functions ∧
      ((referringMapper splicingId).statements.map (·.id)).Nodup ∧
      (referring splicingId).root.rawParameters = [] ∧
      (referringFunction splicingId).IsReadAs "users.all" spliced ∧ spliced.splices = [.trusted] :=
  ⟨mem_zip_referring splicingId, List.nodup_singleton _, by decide +kernel, isReadAs_spliced, rfl⟩

end SqlMapper.Generated
