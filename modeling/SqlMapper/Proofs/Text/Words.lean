import SqlMapper.Proofs.Text.Trim
import SqlMapper.Text.Split

/-!
# Words of a text

The words of a text are its parts between white space.  All follows from one equation: white space
between two texts keeps their words apart.
-/

namespace SqlMapper.Text

variable {word text front rest gap : List Char}

theorem split_append_cons {separates : Char → Bool} {c : Char} (isSeparator : separates c)
    (front rest : List Char) :
    split separates (front ++ c :: rest) = split separates front ++ split separates rest := by
  induction front with
  | nil => simp [split, isSeparator]
  | cons d more ih =>
      simp only [List.cons_append, split, ih]
      split
      · rfl
      · cases first : split separates more with
        | nil => exact absurd first (split_ne_nil separates more)
        | cons piece pieces => rfl

theorem words_append_cons {c : Char} (blank : isBlank c) (front rest : List Char) :
    words (front ++ c :: rest) = words front ++ words rest := by
  simp only [words, split_append_cons blank, List.filter_append]

theorem words_cons {c : Char} (blank : isBlank c) (rest : List Char) : words (c :: rest) = words rest :=
  words_append_cons blank [] rest

theorem words_of_blank (blank : ∀ c ∈ text, isBlank c) : words text = [] := by
  induction text with
  | nil => rfl
  | cons c rest ih =>
      rw [List.forall_mem_cons] at blank
      rw [words_cons blank.1, ih blank.2]

theorem words_of_solid (nonempty : word ≠ []) (solid : ∀ c ∈ word, isBlank c = false) :
    words word = [word] := by
  simp [words, split_of_none solid, nonempty]

theorem words_append_of_blank (blank : ∀ c ∈ gap, isBlank c) (text : List Char) :
    words (gap ++ text) = words text ∧ words (text ++ gap) = words text := by
  constructor
  · induction gap with
    | nil => rfl
    | cons c rest ih =>
        rw [List.forall_mem_cons] at blank
        rw [List.cons_append, words_cons blank.1, ih blank.2]
  · cases gap with
    | nil => rw [List.append_nil]
    | cons c rest =>
        rw [List.forall_mem_cons] at blank
        rw [words_append_cons blank.1, words_of_blank blank.2, List.append_nil]

@[simp]
theorem words_trim (text : List Char) : words (trim text) = words text := by
  obtain ⟨before, after, blankBefore, blankAfter, whole⟩ := exists_around_trim text
  have behind := (words_append_of_blank blankAfter (before ++ trim text)).2
  rw [whole] at behind
  rw [behind, (words_append_of_blank blankBefore _).1]

/-- A text up to its first white space. -/
theorem exists_solid_front (text : List Char) :
    ∃ front rest, text = front ++ rest ∧ (∀ c ∈ front, isBlank c = false) ∧
      ∀ c ∈ rest.head?, isBlank c := by
  refine ⟨text.takeWhile (!isBlank ·), text.dropWhile (!isBlank ·), ?_, ?_, ?_⟩
  · exact List.takeWhile_append_dropWhile.symm
  · intro c member
    have passed := List.all_eq_true.1 List.all_takeWhile c member
    simpa using passed
  · intro c first
    have stopped := List.head?_dropWhile_not (!isBlank ·) text
    rw [Option.mem_def.1 first] at stopped
    simpa using stopped

/-- Whether a word stands between white space or the ends of a text. -/
def Encloses (before : List Char) (after : List Char) : Prop :=
  (∀ c ∈ before.getLast?, isBlank c) ∧ ∀ c ∈ after.head?, isBlank c

theorem eq_of_mem_words_of_solid (solid : ∀ c ∈ text, isBlank c = false) (member : word ∈ words text) :
    word = text ∧ text ≠ [] := by
  by_cases nonempty : text = []
  · subst nonempty
    cases member
  · rw [words_of_solid nonempty solid] at member
    exact ⟨List.mem_singleton.1 member, nonempty⟩

/-- Each word is a part of the text without white space, and white space or nothing is around it. -/
theorem exists_of_mem_words (member : word ∈ words text) :
    word ≠ [] ∧ (∀ c ∈ word, isBlank c = false) ∧
      ∃ before after, text = before ++ word ++ after ∧ Encloses before after := by
  induction measured : text.length using Nat.strongRecOn generalizing text with
  | ind size ih =>
      obtain ⟨front, rest, rfl, solid, stops⟩ := exists_solid_front text
      cases rest with
      | nil =>
          rw [List.append_nil] at member
          obtain ⟨rfl, nonempty⟩ := eq_of_mem_words_of_solid solid member
          exact ⟨nonempty, solid, [], [], by simp, by simp, by simp⟩
      | cons c rest =>
          have blank : isBlank c := stops c rfl
          rw [words_append_cons blank, List.mem_append] at member
          rcases member with inFront | inRest
          · obtain ⟨rfl, nonempty⟩ := eq_of_mem_words_of_solid solid inFront
            refine ⟨nonempty, solid, [], c :: rest, by simp, by simp, ?_⟩
            simpa using blank
          · have shorter : rest.length < size := by
              simp only [List.length_append, List.length_cons] at measured
              omega
            obtain ⟨nonempty, solidWord, before, after, rfl, encloses⟩ := ih _ shorter inRest rfl
            refine ⟨nonempty, solidWord, front ++ c :: before, after, by simp, ?_, encloses.2⟩
            intro last isLast
            rw [List.getLast?_append, List.getLast?_cons, Option.some_or, Option.mem_some] at isLast
            cases ends : before.getLast? with
            | none =>
                rw [ends] at isLast
                exact isLast ▸ blank
            | some final =>
                rw [ends] at isLast
                exact isLast ▸ encloses.1 final ends

theorem mem_words_of_encloses (nonempty : word ≠ []) (solid : ∀ c ∈ word, isBlank c = false)
    {before after : List Char} (encloses : Encloses before after) :
    word ∈ words (before ++ word ++ after) := by
  have behind : word ∈ words (word ++ after) := by
    cases after with
    | nil => simp [words_of_solid nonempty solid]
    | cons c rest => simp [words_append_cons (encloses.2 c rfl), words_of_solid nonempty solid]
  rw [List.append_assoc]
  rcases List.eq_nil_or_concat before with rfl | ⟨start, last, rfl⟩
  · exact behind
  · have blank : isBlank last := encloses.1 last (by simp)
    rw [List.concat_eq_append, List.append_assoc, List.singleton_append, words_append_cons blank]
    exact List.mem_append_right _ behind

end SqlMapper.Text
