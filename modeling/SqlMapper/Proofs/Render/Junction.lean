import SqlMapper.Proofs.Text.Trim
import SqlMapper.Render

/-!
# Junctions in front of conditions

All conditions of a `where` clause may begin with a junction, since the first one of the body is dropped.
It is looked for after the body has been trimmed, though, and counts only before white space.  A
junction that nothing but white space follows is therefore kept, and the clause is written for its sake.
-/

namespace SqlMapper

theorem Text.toLower_of_isBlank {c : Char} (blank : isBlank c) : c.toLower = c := by
  have noCapital : ¬(65 ≤ c.toNat ∧ c.toNat ≤ 90) := by
    simp [isBlank, inRanges, blankRanges] at blank
    omega
  unfold Char.toLower
  split
  · rename_i capital
    exact absurd ⟨UInt32.le_iff_toNat_le.1 capital.1, UInt32.le_iff_toNat_le.1 capital.2⟩ noCapital
  · rfl

namespace Clause

/-- Whether a word joins conditions, in whatever case. -/
def IsJunction (word : List Char) : Prop :=
  word.map Char.toLower ∈ [['a', 'n', 'd'], ['o', 'r']]

instance (word : List Char) : Decidable (IsJunction word) :=
  inferInstanceAs (Decidable (_ ∈ _))

variable {word before rest : List Char} {gap : Char}

namespace IsJunction

theorem ne_nil (joins : IsJunction word) : word ≠ [] := by
  rintro rfl
  simp [IsJunction] at joins

theorem solid (joins : IsJunction word) : ∀ c ∈ word, Text.isBlank c = false := by
  intro c member
  have lower : c.toLower ∈ word.map Char.toLower := List.mem_map_of_mem member
  have letter : Text.isBlank c.toLower = false := by
    simp only [IsJunction, List.mem_cons, List.not_mem_nil, or_false] at joins
    rcases joins with conjunction | disjunction
    · rw [conjunction] at lower
      simp only [List.mem_cons, List.not_mem_nil, or_false] at lower
      rcases lower with a | n | d <;> simp [*] <;> decide
    · rw [disjunction] at lower
      simp only [List.mem_cons, List.not_mem_nil, or_false] at lower
      rcases lower with o | r <;> simp [*] <;> decide
  cases blank : Text.isBlank c with
  | false => rfl
  | true =>
      rw [Text.toLower_of_isBlank blank, blank] at letter
      cases letter

end IsJunction

/-- A word is found where a text begins with it, in whatever case, and white space follows. -/
theorem afterWord?_append {key : List Char} (same : word.map Char.toLower = key.map Char.toLower)
    (text : List Char) :
    afterWord? key (word ++ text) = if text.head?.any Text.isBlank then some text else none := by
  have equal : word.length = key.length := by
    simpa using congrArg List.length same
  simp [afterWord?, ← equal, same]

theorem afterWord?_of_head_ne {letter c : Char} (other : c.toLower ≠ letter.toLower)
    (key text : List Char) : afterWord? (letter :: key) (c :: text) = none := by
  rw [afterWord?_cons_cons, if_neg other]

theorem IsJunction.after (joins : IsJunction word) (text : List Char) :
    (afterWord? ['A', 'N', 'D'] (word ++ text) <|> afterWord? ['O', 'R'] (word ++ text)) =
      if text.head?.any Text.isBlank then some text else none := by
  obtain ⟨c, letters, rfl⟩ := List.exists_cons_of_ne_nil joins.ne_nil
  simp only [IsJunction, List.mem_cons, List.not_mem_nil, or_false] at joins
  rcases joins with conjunction | disjunction
  · have first : c.toLower = 'a' := by simpa using congrArg List.head? conjunction
    have other : c.toLower ≠ 'O'.toLower := by
      rw [first]
      decide
    have same : (c :: letters).map Char.toLower = ['A', 'N', 'D'].map Char.toLower := conjunction
    rw [afterWord?_append same, List.cons_append, afterWord?_of_head_ne other]
    simp
  · have first : c.toLower = 'o' := by simpa using congrArg List.head? disjunction
    have other : c.toLower ≠ 'A'.toLower := by
      rw [first]
      decide
    have same : (c :: letters).map Char.toLower = ['O', 'R'].map Char.toLower := disjunction
    rw [afterWord?_append same, List.cons_append, afterWord?_of_head_ne other]
    simp

theorem trimWhere_of_trim (joins : IsJunction word) {body text : List Char}
    (trimmed : Text.trim body = word ++ text) :
    trimWhere body = if text.head?.any Text.isBlank then Text.trimStart text else word ++ text := by
  simp only [trimWhere, trimmed, joins.after]
  cases text.head?.any Text.isBlank <;> rfl

/-- Behind a junction the rest of a body is trimmed; if there is none, the junction itself is left. -/
theorem trimWhere_junction (blank : ∀ c ∈ before, Text.isBlank c) (joins : IsJunction word)
    (space : Text.isBlank gap) :
    trimWhere (before ++ word ++ gap :: rest) =
      if Text.trim rest = [] then word else Text.trim rest := by
  have first : ∀ text, ∀ c ∈ (word ++ text).head?, Text.isBlank c = false := by
    intro text c head
    obtain ⟨letter, letters, rfl⟩ := List.exists_cons_of_ne_nil joins.ne_nil
    cases head
    exact joins.solid c List.mem_cons_self
  obtain ⟨early, late, blankEarly, blankLate, whole⟩ := Text.exists_around_trim rest
  have blankGap : ∀ c ∈ gap :: early, Text.isBlank c := List.forall_mem_cons.2 ⟨space, blankEarly⟩
  by_cases nothing : Text.trim rest = []
  · have trimmed : Text.trim (before ++ word ++ gap :: rest) = word ++ [] := by
      rw [List.append_nil]
      apply Text.trim_eq_of_blank_around blank
      · exact List.forall_mem_cons.2 ⟨space, Text.trim_eq_nil_iff.1 nothing⟩
      · simpa using first []
      · intro c last
        exact joins.solid c (List.mem_of_getLast? last)
    rw [trimWhere_of_trim joins trimmed, if_pos nothing]
    simp
  · have parts : before ++ word ++ gap :: rest =
        before ++ (word ++ (gap :: early ++ Text.trim rest)) ++ late := by
      have behind : gap :: rest = gap :: (early ++ Text.trim rest ++ late) := by rw [whole]
      rw [behind]
      simp
    have trimmed :
        Text.trim (before ++ word ++ gap :: rest) = word ++ (gap :: early ++ Text.trim rest) := by
      rw [parts]
      apply Text.trim_eq_of_blank_around blank blankLate (first _)
      intro c last
      apply Text.solid_getLast?_trim rest
      have ends : (Text.trim rest).getLast?.isSome := by simpa using nothing
      rwa [← List.append_assoc, List.getLast?_append, Option.or_of_isSome ends] at last
    have dropped : Text.trimStart (gap :: early ++ Text.trim rest) = Text.trim rest := by
      rw [Text.trimStart_append_of_blank blankGap]
      apply Text.trimStart_eq_self
      apply Text.solid_head?_trim
    rw [trimWhere_of_trim joins trimmed, if_neg nothing, dropped]
    simp [space]

/-- A junction in front of something else is dropped from the body of a `where` clause, and with nothing
behind it the junction is kept.  Either way the clause is written. -/
theorem trimWhere_eq_trim_iff (blank : ∀ c ∈ before, Text.isBlank c) (joins : IsJunction word)
    (space : Text.isBlank gap) :
    (trimWhere (before ++ word ++ gap :: rest) = Text.trim rest ↔ ∃ c ∈ rest, Text.isBlank c = false) ∧
      ∀ (context : RenderContext) (state : RenderState) (children : List Node),
        (context.renderAll state children).1 = String.ofList (before ++ word ++ gap :: rest) →
        (context.render state (.clause .whereClause children)).1 =
          " WHERE " ++ String.ofList (if Text.trim rest = [] then word else Text.trim rest) := by
  have something : Text.trim rest ≠ [] ↔ ∃ c ∈ rest, Text.isBlank c = false := by
    rw [Ne, Text.trim_eq_nil_iff]
    simp
  constructor
  · rw [trimWhere_junction blank joins space, ← something]
    split
    · rename_i nothing
      simp [nothing, joins.ne_nil]
    · rename_i rests
      simp [rests]
  · intro context state children body
    have mended : trimBody .whereClause (String.ofList (before ++ word ++ gap :: rest)) =
        String.ofList (if Text.trim rest = [] then word else Text.trim rest) := by
      rw [trimBody, String.toList_ofList, trimWhere_junction blank joins space]
    have written : (if Text.trim rest = [] then word else Text.trim rest) ≠ [] := by
      split
      · exact joins.ne_nil
      · assumption
    have rendered : (context.render state (.clause .whereClause children)).1 =
        wrap .whereClause (context.renderAll state children).1 := by
      simp only [RenderContext.render, RenderContext.closeScope]
    rw [rendered, body, wrap, mended]
    simp [written, keyword]

/-- A junction in mixed case between line breaks. -/
theorem trimWhere_eq_trim_iff_line :
    let parameter : Accessor := .ofPairs [("name", .string "Emma")]
    let children : List Node :=
      [.text "\n ", .condition "name != null" [.text "Or\n name = ", .parameter "name" false]]
    let condition : List Char := " name = ?".toList
    let body : List Char := ['\n', ' '] ++ ['O', 'r'] ++ '\n' :: condition
    (RenderContext.renderAll { parameter } {} children).1 = String.ofList body ∧
      (trimWhere body = Text.trim condition ↔ ∃ c ∈ condition, Text.isBlank c = false) ∧
        (RenderContext.render { parameter } {} (.clause .whereClause children)).1 = " WHERE " ++
          String.ofList (if Text.trim condition = [] then ['O', 'r'] else Text.trim condition) := by
  intro parameter children condition body
  have rendered : (RenderContext.renderAll { parameter } {} children).1 = String.ofList body := by
    decide +kernel
  have blank : ∀ c ∈ ['\n', ' '], Text.isBlank c :=
    List.forall_mem_cons.2 ⟨by decide, List.forall_mem_singleton.2 (by decide)⟩
  have law := @trimWhere_eq_trim_iff ['O', 'r'] ['\n', ' '] condition '\n' blank (by decide) (by decide)
  exact ⟨rendered, law.1, law.2 _ _ _ rendered⟩

/-- A body that comes out as a junction alone is not empty, and the clause is written. -/
theorem junction_alone_kept :
    IsJunction ['A', 'N', 'D'] ∧ trimWhere ([' '] ++ ['A', 'N', 'D'] ++ ' ' :: []) ≠ Text.trim [] ∧
      (RenderContext.render { parameter := .ofPairs [] } {}
        (.clause .whereClause [.text " AND ", .condition "name != null" [.text "name = 1"]])).1 =
          " WHERE AND" :=
  ⟨by decide, by decide, by decide +kernel⟩

end Clause

end SqlMapper
