import SqlMapper.Text.Blank

/-!
# Clauses

A clause is written only if its body comes out nonempty.  The body of a `where` clause loses a
junction in front, so that conditions may all begin with one; the body of a `set` clause loses a
comma behind.
-/

namespace SqlMapper

/-- The clauses that mend their bodies. -/
inductive Clause where
  | whereClause
  | setClause
deriving DecidableEq

namespace Clause

/-- The keyword of a clause, set off by spaces. -/
def keyword : Clause → String
  | .whereClause => " WHERE "
  | .setClause => " SET "

/-- What follows a word at the beginning of a text, in any case and before white space. -/
def afterWord? (word text : List Char) : Option (List Char) :=
  let rest := text.drop word.length
  if (text.take word.length).map Char.toLower == word.map Char.toLower &&
      rest.head?.any Text.isBlank
  then some rest
  else none

/-- A `where` body without white space around it and without one leading `AND` or `OR`. -/
def trimWhere (body : List Char) : List Char :=
  let body := Text.trim body
  match afterWord? ['A', 'N', 'D'] body <|> afterWord? ['O', 'R'] body with
  | some rest => Text.trimStart rest
  | none => body

/-- A `set` body without white space around it and without one trailing comma. -/
def trimSet (body : List Char) : List Char :=
  let body := Text.trim body
  if body.getLast? == some ',' then Text.trimEnd body.dropLast else body

def trimBody (clause : Clause) (body : String) : String :=
  match clause with
  | .whereClause => String.ofList (trimWhere body.toList)
  | .setClause => String.ofList (trimSet body.toList)

theorem afterWord?_nil (text : List Char) :
    afterWord? [] text = if text.head?.any Text.isBlank then some text else none := by
  simp [afterWord?]

theorem afterWord?_cons_nil (letter : Char) (word : List Char) :
    afterWord? (letter :: word) [] = none := by
  simp [afterWord?]

theorem afterWord?_cons_cons (letter c : Char) (word text : List Char) :
    afterWord? (letter :: word) (c :: text) =
      if c.toLower = letter.toLower then afterWord? word text else none := by
  by_cases same : c.toLower = letter.toLower <;> simp [afterWord?, same]

theorem suffix_of_afterWord? {word text rest : List Char} (found : afterWord? word text = some rest) :
    rest <:+ text := by
  simp only [afterWord?] at found
  split at found
  · rw [← Option.some.inj found]
    exact List.drop_suffix _ _
  · cases found

theorem trimWhere_subset (body : List Char) : trimWhere body ⊆ body := by
  refine List.Subset.trans ?_ (Text.trim_subset body)
  simp only [trimWhere]
  split
  · rename_i rest found
    have suffix : rest <:+ Text.trim body := by
      simp only [Option.orElse_eq_orElse, Option.orElse_eq_or, Option.or_eq_some_iff] at found
      rcases found with first | ⟨_, second⟩
      · exact suffix_of_afterWord? first
      · exact suffix_of_afterWord? second
    exact ((Text.trimStart_suffix rest).trans suffix).subset
  · exact List.Subset.refl _

theorem trimSet_subset (body : List Char) : trimSet body ⊆ body := by
  refine List.Subset.trans ?_ (Text.trim_subset body)
  simp only [trimSet]
  split
  · exact List.Subset.trans (Text.trimEnd_subset _) (List.dropLast_subset _)
  · exact List.Subset.refl _

/-- Mending a body adds nothing to it. -/
theorem trimBody_subset (clause : Clause) (body : String) :
    (clause.trimBody body).toList ⊆ body.toList := by
  cases clause with
  | whereClause =>
      rw [trimBody, String.toList_ofList]
      exact trimWhere_subset body.toList
  | setClause =>
      rw [trimBody, String.toList_ofList]
      exact trimSet_subset body.toList

/-- The clause with the given body; nothing if nothing remains of the body. -/
def wrap (clause : Clause) (body : String) : String :=
  let trimmed := clause.trimBody body
  if trimmed.isEmpty then "" else clause.keyword ++ trimmed

end Clause

end SqlMapper
