import SqlMapper.Generated.Name
import Mathlib

/-!
# Words of names

An id consists of words, which end where something stands that no name holds and where capitals begin
a new one.  Its name is made of these words in lower case and of nothing else, so two ids have one name
only if they have the same words.
-/

namespace SqlMapper.Generated.SnakeCase

def isWordChar (c : Char) : Bool :=
  c.isLower || c.isDigit

structure IsWord (word : List Char) : Prop where
  nonempty : word ≠ []
  chars : ∀ c ∈ word, isWordChar c

/-- A word that ends, if there is anything of it. -/
def ended (current : List Char) : List (List Char) :=
  if current.isEmpty then [] else [current]

/-- The words of a text, given the character before it and what there is of a word already. -/
def wordsAfter (previous : Option Char) (current : List Char) : List Char → List (List Char)
  | [] => ended current
  | c :: rest =>
    if !c.isAlphanum then ended current ++ wordsAfter (some c) [] rest
    else if c.isUpper && beginsWord previous rest.head? then
      ended current ++ wordsAfter (some c) [c.toLower] rest
    else wordsAfter (some c) (current ++ [c.toLower]) rest

/-- Words with underscores between. -/
def joined (words : List (List Char)) : List Char :=
  ['_'].intercalate words

theorem isWordChar_toLower {c : Char} (alphanumeric : c.isAlphanum) : isWordChar c.toLower := by
  simp only [isWordChar, Char.isAlphanum, Char.isAlpha, Char.isUpper, Char.isLower, Char.isDigit,
    Char.toLower] at alphanumeric ⊢
  split <;> grind [UInt32.toNat_add, UInt32.le_iff_toNat_le]

theorem ne_underscore {c : Char} (allowed : isWordChar c) : c ≠ '_' := by
  rintro rfl
  cases allowed

/-! ### Words are words -/

theorem isWord_of_mem_ended {current word : List Char} (chars : ∀ c ∈ current, isWordChar c)
    (member : word ∈ ended current) : IsWord word := by
  simp only [ended] at member
  split at member
  · cases member
  · rename_i nonempty
    rw [List.mem_singleton] at member
    subst word
    exact ⟨by simpa using nonempty, chars⟩

theorem isWord_of_mem_wordsAfter {text current word : List Char} {previous : Option Char}
    (chars : ∀ c ∈ current, isWordChar c) (member : word ∈ wordsAfter previous current text) :
    IsWord word := by
  induction text generalizing previous current with
  | nil => exact isWord_of_mem_ended chars member
  | cons c rest ih =>
      rw [wordsAfter] at member
      split at member
      · rcases List.mem_append.1 member with here | later
        · exact isWord_of_mem_ended chars here
        · exact ih (List.forall_mem_nil _) later
      · rename_i alphanumeric
        have lower : isWordChar c.toLower := isWordChar_toLower (by simpa using alphanumeric)
        split at member
        · rcases List.mem_append.1 member with here | later
          · exact isWord_of_mem_ended chars here
          · exact ih (List.forall_mem_singleton.2 lower) later
        · apply ih _ member
          exact List.forall_mem_append.2 ⟨chars, List.forall_mem_singleton.2 lower⟩

/-! ### Joined words -/

theorem joined_concat {words : List (List Char)} (some_word : words ≠ []) (word : List Char) :
    joined (words ++ [word]) = joined words ++ '_' :: word := by
  induction words with
  | nil => exact absurd rfl some_word
  | cons first rest ih =>
      cases rest with
      | nil => simp [joined, List.intercalate_cons_cons]
      | cons second others =>
          have tail := ih (List.cons_ne_nil _ _)
          simp only [joined, List.cons_append, List.intercalate_cons_cons] at tail ⊢
          simp only [tail, List.append_assoc]

theorem joined_grow (words : List (List Char)) (word more : List Char) :
    joined (words ++ [word ++ more]) = joined (words ++ [word]) ++ more := by
  cases words with
  | nil => simp [joined]
  | cons first rest =>
      have some_word := List.cons_ne_nil first rest
      rw [joined_concat some_word, joined_concat some_word, List.append_assoc, List.cons_append]

theorem joined_eq_concat {words : List (List Char)} (areWords : ∀ word ∈ words, IsWord word)
    (some_word : words ≠ []) : ∃ start last, joined words = start ++ [last] ∧ isWordChar last := by
  rcases List.eq_nil_or_concat words with rfl | ⟨before, word, rfl⟩
  · exact absurd rfl some_word
  · rw [List.concat_eq_append] at areWords ⊢
    have isWord := areWords word (List.mem_append_right _ List.mem_cons_self)
    rcases List.eq_nil_or_concat word with rfl | ⟨start, last, rfl⟩
    · exact absurd rfl isWord.nonempty
    · rw [List.concat_eq_append] at isWord ⊢
      exact ⟨_, last, joined_grow before start [last],
        isWord.chars last (List.mem_append_right _ List.mem_cons_self)⟩

theorem ended_of_ne_nil {current : List Char} (nonempty : current ≠ []) :
    ended current = [current] := by
  simp [ended, nonempty]

/-- What is written begins a new word, whether or not the last one has begun. -/
theorem separate_joined {words : List (List Char)} {current : List Char}
    (areWords : ∀ word ∈ words, IsWord word) (chars : ∀ c ∈ current, isWordChar c) :
    separate (joined (words ++ [current])).reverse =
      (joined (words ++ ended current ++ [[]])).reverse := by
  rcases current with _ | ⟨c, rest⟩
  · have not_ended : ended [] = [] := rfl
    rw [not_ended, List.append_nil]
    cases words with
    | nil => rfl
    | cons first others =>
        rw [joined_concat (List.cons_ne_nil first others), List.reverse_append]
        rfl
  · have nonempty := List.cons_ne_nil c rest
    have withCurrent : ∀ word ∈ words ++ [c :: rest], IsWord word :=
      List.forall_mem_append.2 ⟨areWords, List.forall_mem_singleton.2 ⟨nonempty, chars⟩⟩
    have some_word : words ++ [c :: rest] ≠ [] := by simp
    rcases joined_eq_concat withCurrent some_word with ⟨start, last, written, isLast⟩
    have other := ne_underscore isLast
    rw [ended_of_ne_nil nonempty, joined_concat some_word, written]
    simp [separate, other]

theorem rdropWhile_joined {words : List (List Char)} {current : List Char}
    (areWords : ∀ word ∈ words, IsWord word) (chars : ∀ c ∈ current, isWordChar c) :
    (joined (words ++ [current])).rdropWhile (· == '_') = joined (words ++ ended current) := by
  have kept {words : List (List Char)} (areWords : ∀ word ∈ words, IsWord word)
      (some_word : words ≠ []) : (joined words).rdropWhile (· == '_') = joined words := by
    rcases joined_eq_concat areWords some_word with ⟨start, last, written, isLast⟩
    rw [written, List.rdropWhile_concat_neg]
    simpa using ne_underscore isLast
  rcases current with _ | ⟨c, rest⟩
  · have not_ended : ended [] = [] := rfl
    rw [not_ended, List.append_nil]
    cases words with
    | nil => rfl
    | cons first others =>
        have some_word := List.cons_ne_nil first others
        rw [joined_concat some_word, List.rdropWhile_concat_pos _ _ _ rfl, kept areWords some_word]
  · have nonempty := List.cons_ne_nil c rest
    rw [ended_of_ne_nil nonempty]
    apply kept _ (by simp)
    exact List.forall_mem_append.2 ⟨areWords, List.forall_mem_singleton.2 ⟨nonempty, chars⟩⟩

/-- Writing a text appends its words to those written already. -/
theorem rdropWhile_build (text : List Char) (previous : Option Char) {words : List (List Char)}
    {current : List Char} (areWords : ∀ word ∈ words, IsWord word)
    (chars : ∀ c ∈ current, isWordChar c) :
    ((build previous (joined (words ++ [current])).reverse text).dropWhile (· == '_')).reverse =
      joined (words ++ wordsAfter previous current text) := by
  induction text generalizing previous words current with
  | nil => exact rdropWhile_joined areWords chars
  | cons c rest ih =>
      have withCurrent : ∀ word ∈ words ++ ended current, IsWord word :=
        List.forall_mem_append.2 ⟨areWords, fun _ member => isWord_of_mem_ended chars member⟩
      rw [build, wordsAfter]
      split
      · rw [separate_joined areWords chars, ih (some c) withCurrent (List.forall_mem_nil _),
          List.append_assoc]
      · rename_i alphanumeric
        have lower : isWordChar c.toLower := isWordChar_toLower (by simpa using alphanumeric)
        have written (before : List (List Char)) (word : List Char) :
            c.toLower :: (joined (before ++ [word])).reverse =
              (joined (before ++ [word ++ [c.toLower]])).reverse := by
          rw [joined_grow, List.reverse_append]
          rfl
        cases begins : c.isUpper && beginsWord previous rest.head? with
        | true =>
            simp only [if_true, separate_joined areWords chars, written, List.nil_append]
            rw [ih (some c) withCurrent (List.forall_mem_singleton.2 lower), List.append_assoc]
        | false =>
            simp only [Bool.false_eq_true, if_false, written]
            exact ih (some c) areWords
              (List.forall_mem_append.2 ⟨chars, List.forall_mem_singleton.2 lower⟩)

/-! ### Names -/

def words (id : String) : List (List Char) :=
  wordsAfter none [] id.toList

theorem isWord_of_mem_words {id : String} {word : List Char} (member : word ∈ words id) :
    IsWord word :=
  isWord_of_mem_wordsAfter (List.forall_mem_nil _) member

/-- A name of words, which begins with no digit and is never empty. -/
def named (words : List (List Char)) : List Char :=
  match joined words with
  | [] => "_unnamed".toList
  | c :: rest => if c.isDigit then '_' :: c :: rest else c :: rest

theorem toList_snakeCase (id : String) : (snakeCase id).toList = named (words id) := by
  have no_words : ∀ word ∈ ([] : List (List Char)), IsWord word := List.forall_mem_nil _
  have no_chars : ∀ c ∈ ([] : List Char), isWordChar c := List.forall_mem_nil _
  have written : ((build none [] id.toList).dropWhile (· == '_')).reverse = joined (words id) :=
    rdropWhile_build id.toList none no_words no_chars
  simp only [snakeCase, written, named]
  cases joined (words id) with
  | nil => rfl
  | cons c rest =>
      dsimp only
      split <;> rw [String.toList_ofList]

/-- The words that a name is made of. -/
def wordsOf (name : List Char) : List (List Char) :=
  if name = "_unnamed".toList then [] else (name.dropWhile (· == '_')).splitOn '_'

theorem splitOn_joined {words : List (List Char)} (areWords : ∀ word ∈ words, IsWord word)
    (some_word : words ≠ []) : (joined words).splitOn '_' = words := by
  apply List.splitOn_intercalate '_' _ some_word
  intro word member inside
  exact ne_underscore ((areWords word member).chars '_' inside) rfl

theorem joined_eq_cons {words : List (List Char)} (areWords : ∀ word ∈ words, IsWord word)
    (some_word : words ≠ []) : ∃ c rest, joined words = c :: rest ∧ isWordChar c := by
  rcases List.exists_cons_of_ne_nil some_word with ⟨word, others, rfl⟩
  have isWord := areWords word List.mem_cons_self
  rcases List.exists_cons_of_ne_nil isWord.nonempty with ⟨c, rest, rfl⟩
  have first := isWord.chars c List.mem_cons_self
  cases others with
  | nil => exact ⟨c, rest, List.intercalate_singleton, first⟩
  | cons next later =>
      refine ⟨c, rest ++ '_' :: joined (next :: later), ?_, first⟩
      simp [joined, List.intercalate_cons_cons]

theorem wordsOf_named {words : List (List Char)} (areWords : ∀ word ∈ words, IsWord word) :
    wordsOf (named words) = words := by
  cases words with
  | nil => rfl
  | cons word others =>
      have some_word := List.cons_ne_nil word others
      have split := splitOn_joined areWords some_word
      rcases joined_eq_cons areWords some_word with ⟨c, rest, written, isFirst⟩
      have other := ne_underscore isFirst
      rw [written] at split
      simp only [named, written, wordsOf]
      by_cases digit : c.isDigit
      · have not_default : '_' :: c :: rest ≠ "_unnamed".toList := by
          intro same
          cases same
          cases digit
        rw [if_pos digit, if_neg not_default, List.dropWhile_cons_of_pos rfl,
          List.dropWhile_cons_of_neg (by simpa using other), split]
      · have not_default : c :: rest ≠ "_unnamed".toList := by
          intro same
          exact other (List.cons.inj same).1
        rw [if_neg digit, if_neg not_default,
          List.dropWhile_cons_of_neg (by simpa using other), split]

theorem named_injective {first second : List (List Char)} (areFirst : ∀ word ∈ first, IsWord word)
    (areSecond : ∀ word ∈ second, IsWord word) (same : named first = named second) :
    first = second := by
  rw [← wordsOf_named areFirst, same, wordsOf_named areSecond]

/-- Two ids have one name if and only if they have the same words. -/
theorem snakeCase_eq_iff {first second : String} :
    snakeCase first = snakeCase second ↔ words first = words second := by
  rw [← String.toList_inj, toList_snakeCase, toList_snakeCase]
  constructor
  · exact named_injective (fun _ => isWord_of_mem_words) fun _ => isWord_of_mem_words
  · exact congrArg named

/-- A word that begins with a letter is the name of the ids with no other word. -/
theorem snakeCase_eq_word_iff {id word : String} (isWord : IsWord word.toList)
    (letter : word.toList.head?.all fun c => !c.isDigit) :
    snakeCase id = word ↔ words id = [word.toList] := by
  have written : named [word.toList] = word.toList := by
    rcases List.exists_cons_of_ne_nil isWord.nonempty with ⟨c, rest, text⟩
    rw [text] at letter ⊢
    have isLetter : c.isDigit = false := by simpa using letter
    simp [named, joined, isLetter]
  rw [← String.toList_inj, toList_snakeCase]
  constructor
  · intro same
    rw [← written] at same
    exact named_injective (fun _ => isWord_of_mem_words) (List.forall_mem_singleton.2 isWord) same
  · intro same
    rw [same, written]

end SqlMapper.Generated.SnakeCase
