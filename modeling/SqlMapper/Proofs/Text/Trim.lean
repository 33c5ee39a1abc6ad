import SqlMapper.Text.Blank

/-!
# What trimming leaves

A text is its trimmed form with white space around it, and the trimmed form neither begins nor ends with
white space.  A place in a text that consists of two parts lies in one of them.
-/

namespace SqlMapper.Text

/-- A place in a text lies behind the first block or inside it. -/
theorem append_eq_cases {front behind block after : List Char}
    (same : front ++ behind = block ++ after) :
    (∃ later, front = block ++ later ∧ after = later ++ behind) ∨
      ∃ tail, tail ≠ [] ∧ block = front ++ tail ∧ behind = tail ++ after := by
  rcases List.append_eq_append_iff.1 same with ⟨tail, inside, rfl⟩ | ⟨later, rfl, rest⟩
  · cases tail with
    | nil => exact .inl ⟨[], by simpa using inside.symm, rfl⟩
    | cons c more => exact .inr ⟨c :: more, by simp, inside, rfl⟩
  · exact .inl ⟨later, rfl, rest⟩

theorem solid_head?_trimStart (text : List Char) :
    ∀ c ∈ (trimStart text).head?, isBlank c = false := by
  intro c first
  have stopped := List.head?_dropWhile_not isBlank text
  rw [Option.mem_def, trimStart] at first
  rw [first] at stopped
  exact stopped

theorem head?_trimEnd {text : List Char} : ∀ c ∈ (trimEnd text).head?, c ∈ text.head? := by
  intro c first
  obtain ⟨after, -, whole⟩ := exists_append_trimEnd text
  rw [← whole, List.head?_append, Option.mem_def.1 first]
  rfl

theorem solid_head?_trim (text : List Char) : ∀ c ∈ (trim text).head?, isBlank c = false := by
  intro c first
  apply solid_head?_trimStart text
  exact head?_trimEnd c first

theorem solid_getLast?_trim (text : List Char) : ∀ c ∈ (trim text).getLast?, isBlank c = false := by
  intro c last
  rw [trim, trimEnd, List.getLast?_reverse] at last
  exact solid_head?_trimStart (trimStart text).reverse c last

theorem trim_trim (text : List Char) : trim (trim text) = trim text := by
  apply trim_eq_self
  · apply solid_head?_trim
  · apply solid_getLast?_trim

theorem exists_around_trim (text : List Char) :
    ∃ before after, (∀ c ∈ before, isBlank c) ∧ (∀ c ∈ after, isBlank c) ∧
      before ++ trim text ++ after = text := by
  obtain ⟨after, blankAfter, rest⟩ := exists_append_trimEnd (trimStart text)
  refine ⟨text.takeWhile isBlank, after, ?_, blankAfter, ?_⟩
  · intro c member
    exact List.all_eq_true.1 List.all_takeWhile c member
  · rw [List.append_assoc, trim, rest, trimStart, List.takeWhile_append_dropWhile]

theorem trim_eq_nil_iff {text : List Char} : trim text = [] ↔ ∀ c ∈ text, isBlank c := by
  constructor
  · intro trimmed
    obtain ⟨before, after, blankBefore, blankAfter, whole⟩ := exists_around_trim text
    rw [trimmed, List.append_nil] at whole
    intro c member
    rw [← whole, List.mem_append] at member
    exact member.elim (blankBefore c) (blankAfter c)
  · intro blank
    have trimmed : trim (text ++ [] ++ []) = [] :=
      trim_eq_of_blank_around blank (by simp) (by simp) (by simp)
    simpa using trimmed

end SqlMapper.Text
