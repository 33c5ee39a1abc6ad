import SqlMapper.Proofs.Generated.Equivalence
import SqlMapper.Proofs.Render.Provenance

/-!
# Functions without trusted substitutions are safe from injection

If no raw substitution of a statement is trusted, its function writes checked identifiers and marks
only.  All syntax in its SQL is then written by the template.
-/

namespace SqlMapper

theorem isPlainChar_of_isIdentifierChar {c : Char}
    (allowed : SafeIdentifier.isIdentifierChar c = true) : isPlainChar c = true := by
  simp only [SafeIdentifier.isIdentifierChar, SafeIdentifier.isSegmentChar, Bool.or_eq_true,
    beq_iff_eq] at allowed
  rcases allowed with (alphanumeric | rfl) | rfl
  · simp [isPlainChar, alphanumeric]
  · decide
  · decide

theorem not_isPlainChar_of_mem_syntaxChars : ∀ c ∈ syntaxChars, ¬isPlainChar c := by
  have foreign : syntaxChars.all (!isPlainChar ·) := by decide
  intro c member
  simpa using List.all_eq_true.1 foreign c member

/-- A value that passes its guard has plain characters only. -/
theorem isPlainChar_of_violation?_eq_none {trusts : String → Bool} {statement : String}
    {substitution : Substitution} (untrusted : trusts substitution.parameter = false)
    (passed : substitution.violation? trusts statement = none) :
    ∀ c ∈ substitution.value.toText.toList, isPlainChar c := by
  simp only [Substitution.violation?, untrusted, Bool.false_eq_true, if_false] at passed
  split at passed
  · rename_i name held
    intro c member
    rw [held] at member
    exact isPlainChar_of_isIdentifierChar (name.isIdentifierChar_of_mem member)
  · cases passed

/-- If no value is spliced but plain ones, all other characters are those of the template. -/
theorem ComesFrom.of_plain_values {literals : List String} {spliced : List Substitution}
    {text : String} (comes : ComesFrom literals spliced text)
    (plain : ∀ substitution ∈ spliced, ∀ c ∈ substitution.value.toText.toList, isPlainChar c) :
    ComesFrom literals [] text := by
  intro c member
  rcases comes c member with isPlain | fixed | ⟨substitution, found, inside⟩
  · exact .inl isPlain
  · exact .inr (.inl fixed)
  · exact .inl (plain substitution found c inside)

namespace Generated

theorem violation?_eq_none_of_askGuards {trusts : String → Bool} {statement : String}
    {reached : List Substitution} (passed : askGuards trusts statement reached = .ok ()) :
    ∀ substitution ∈ reached, substitution.violation? trusts statement = none := by
  simp only [askGuards] at passed
  split at passed
  · rename_i none_refused
    exact List.findSome?_eq_none_iff.1 none_refused
  · cases passed

theorem ok_of_bind_askGuards {α : Type} {trusts : String → Bool} {statement : String}
    {reached : List Substitution} {value result : α}
    (ran : (do askGuards trusts statement reached; .ok value) = Except.ok result) :
    askGuards trusts statement reached = .ok () ∧ value = result := by
  cases asked : askGuards trusts statement reached with
  | error fault =>
      rw [asked] at ran
      cases ran
  | ok checked =>
      rw [asked] at ran
      exact ⟨rfl, Except.ok.inj ran⟩

/-- Whatever is no name, mark or space in the SQL of a function without trusted substitutions
stands in a fixed text of its template; all syntax of strings, comments and groups does so. -/
theorem literal_of_run (config : Config) (mapper : Mapper) (name : String)
    (statement : Statement) (style : MarkerStyle) (parameter : Accessor) (members : MemberCache)
    (result : RenderedSql × MemberCache)
    (untrusted : ∀ path, config.declaredType? statement.id path ≠ some safeIdentifierType)
    (ran : (ofStatement config mapper name statement).run style parameter members = .ok result) :
    (∀ c ∈ result.1.sql.toList, ¬isPlainChar c →
      ∃ literal ∈ statement.root.literals, c ∈ literal.toList) ∧
    ∀ c ∈ syntaxChars, c ∈ result.1.sql.toList →
      ∃ literal ∈ statement.root.literals, c ∈ literal.toList := by
  let context : RenderContext := { style, parameter }
  rcases run_eq_askGuards config mapper name statement style parameter members {}
    with ⟨outcome, asked, same, _⟩
  rw [asked] at ran
  rcases ok_of_bind_askGuards ran with ⟨passed, rfl⟩
  have values : ∀ substitution ∈ statement.reached context members {},
      ∀ c ∈ substitution.value.toText.toList, isPlainChar c := by
    intro substitution found
    have distrusted : config.trusts statement.id substitution.parameter = false :=
      beq_eq_false_iff_ne.2 (untrusted _)
    exact isPlainChar_of_violation?_eq_none distrusted
      (violation?_eq_none_of_askGuards passed substitution found)
  have rendered := context.comesFrom_render { members } statement.root
  have comes : ComesFrom statement.root.literals [] (context.render { members } statement.root).1 :=
    rendered.of_plain_values values
  have sql : outcome.1.sql = Text.trimmed (context.render { members } statement.root).1 := by
    have texts := congrArg RenderedSql.sql same
    exact texts
  have fixed : ∀ c ∈ outcome.1.sql.toList, ¬isPlainChar c →
      ∃ literal ∈ statement.root.literals, c ∈ literal.toList := by
    intro c member special
    rw [sql, Text.trimmed, String.toList_ofList] at member
    rcases comes c (Text.trim_subset _ member) with plain | literal | ⟨_, none, _⟩
    · exact absurd plain special
    · exact literal
    · cases none
  constructor
  · exact fixed
  · intro c syntactic member
    exact fixed c member (not_isPlainChar_of_mem_syntaxChars c syntactic)

end Generated

end SqlMapper
