import SqlMapper.Proofs.Expression.Quoted
import SqlMapper.Proofs.Expression.Tiling
import SqlMapper.Proofs.Text.Words

/-!
# Junctions and words

Where tests are joined is seen twice: in the tokens, where a junction is a word between white space, and
in the text of a condition, where it is a word as well.  A word of the text of a condition is a token of
its own or stands in quotes, so the two differ only for quoted words and for words at the ends of a test.
-/

namespace SqlMapper

namespace Token

/-! ### Tokens in front of others -/

/-- The characters of operators. -/
def marks : List Char := ['!', '=', '<', '>', '+']

/-- What a token holds in front of the characters that follow it. -/
inductive Stands : TokenKind → List Char → List Char → Prop where
  | space {c : Char} {text after : List Char} (blank : ∀ d ∈ c :: text, Text.isBlank d) :
      Stands .whitespace (c :: text) after
  | word {c : Char} {text after : List Char} (chars : ∀ d ∈ c :: text, isWordChar d)
      (ends : ∀ d ∈ after.head?, isWordChar d = false) : Stands .word (c :: text) after
  | operator {kind : TokenKind} {c : Char} {text after : List Char} (noSpace : kind ≠ .whitespace)
      (noWord : kind ≠ .word) (chars : ∀ d ∈ c :: text, d ∈ marks) : Stands kind (c :: text) after
  | string {quote : Char} {inner after : List Char} (isQuote : quote ∈ quotes) :
      Stands .string (quote :: (inner ++ [quote])) after
  | unclosed {c : Char} {text : List Char} (opens : c ∈ marks ++ quotes) : Stands .garbage (c :: text) []

/-- Tokens, each of which stands in front of the text of the others. -/
inductive Standing : List Token → Prop where
  | nil : Standing []
  | cons {token : Token} {rest : List Token}
      (stands : Stands token.kind token.text (rest.flatMap (·.text))) (others : Standing rest) :
      Standing (token :: rest)

theorem Stands.ne_nil {kind : TokenKind} {text after : List Char} (stands : Stands kind text after) :
    text ≠ [] := by
  cases stands <;> exact List.cons_ne_nil _ _

theorem Munch.stands {kind : TokenKind} {text after : List Char} (munch : Munch kind text after) :
    Stands kind text after := by
  have doublesMark :
      doubles.all fun mark => mark.1 ∈ marks && mark.2 != .whitespace && mark.2 != .word := by
    decide
  have singlesMark :
      singles.all fun mark => mark.1 ∈ marks && mark.2 != .whitespace && mark.2 != .word := by
    decide
  cases munch with
  | string isQuote closed after => exact .string isQuote
  | unclosed isQuote unclosed => exact .unclosed (List.mem_append_right _ isQuote)
  | double c kind known after =>
      have mark := List.all_eq_true.1 doublesMark _ known
      simp only [Bool.and_eq_true, decide_eq_true_eq, bne_iff_ne] at mark
      refine .operator mark.1.2 mark.2 ?_
      simpa [mark.1.1] using (by decide : '=' ∈ marks)
  | single c kind known alone =>
      have mark := List.all_eq_true.1 singlesMark _ known
      simp only [Bool.and_eq_true, decide_eq_true_eq, bne_iff_ne] at mark
      exact .operator mark.1.2 mark.2 (List.forall_mem_singleton.2 mark.1.1)
  | plus after =>
      have mark : '+' ∈ marks := by decide
      exact .operator nofun nofun (List.forall_mem_singleton.2 mark)
  | word nonempty chars ends =>
      obtain ⟨c, rest, rfl⟩ := List.exists_cons_of_ne_nil nonempty
      exact .word chars ends
  | whitespace nonempty chars ends =>
      obtain ⟨c, rest, rfl⟩ := List.exists_cons_of_ne_nil nonempty
      exact .space chars

/-- Garbage is merged with garbage behind it, which may be a quote that is never closed. -/
theorem Stands.append {text more after : List Char} (first : Stands .garbage text (more ++ after))
    (second : Stands .garbage more after) : Stands .garbage (text ++ more) after := by
  have some_more := second.ne_nil
  generalize behind : more ++ after = whole at first
  cases first with
  | operator noSpace noWord chars =>
      cases second with
      | operator _ _ others =>
          refine .operator noSpace noWord ?_
          exact List.forall_mem_append.2 ⟨chars, others⟩
      | unclosed opens => exact .unclosed (List.mem_append_left _ (chars _ List.mem_cons_self))
  | unclosed opens => exact absurd (List.append_eq_nil_iff.1 behind).1 some_more

theorem Standing.addFront {token : Token} {rest : List Token}
    (stands : Stands token.kind token.text (rest.flatMap (·.text))) (others : Standing rest) :
    Standing (Token.addFront token rest) := by
  rcases addFront_cases token rest with ⟨kept, -⟩ | ⟨next, more, rfl, isGarbage, nextGarbage, merged⟩
  · rw [kept]
    exact .cons stands others
  · rw [merged]
    cases others with
    | cons nextStands moreStand =>
        refine .cons ?_ moreStand
        rw [isGarbage] at stands ⊢
        rw [nextGarbage] at nextStands
        exact stands.append nextStands

theorem standing_lexFrom (start : Nat) (text : List Char) : Standing (lexFrom start text) := by
  induction start, text using lexFrom.induct with
  | case1 start =>
      rw [lexFrom]
      exact .nil
  | case2 start c rest token ih =>
      rw [lexFrom]
      suffices stands : Stands token.kind token.text
          ((lexFrom token.stop (firstPiece c rest).2.2).flatMap (·.text)) from ih.addFront stands
      rw [flatMap_text_lexFrom]
      exact (munch_firstPiece c rest).stands

theorem standing_lex (source : String) : Standing (lex source) := by
  rw [lex_eq_lexFrom]
  exact standing_lexFrom 0 source.toList

theorem Stands.of_append {kind : TokenKind} {text after more : List Char}
    (stands : Stands kind text (after ++ more)) : Stands kind text after := by
  generalize behind : after ++ more = whole at stands
  cases stands with
  | space blank => exact .space blank
  | word chars ends =>
      refine .word chars ?_
      intro c first
      apply ends
      rw [← behind, List.head?_append, Option.mem_def.1 first]
      rfl
  | operator noSpace noWord chars => exact .operator noSpace noWord chars
  | string isQuote => exact .string isQuote
  | unclosed opens =>
      rw [(List.append_eq_nil_iff.1 behind).1]
      exact .unclosed opens

theorem Standing.of_prefix {piece back : List Token} (standing : Standing (piece ++ back)) :
    Standing piece := by
  induction piece with
  | nil => exact .nil
  | cons token rest ih =>
      rw [List.cons_append] at standing
      cases standing with
      | cons stands others =>
          rw [List.flatMap_append] at stands
          exact .cons stands.of_append (ih others)

theorem Standing.of_suffix {front piece : List Token} (standing : Standing (front ++ piece)) :
    Standing piece := by
  induction front with
  | nil => exact standing
  | cons token rest ih =>
      rw [List.cons_append] at standing
      cases standing with
      | cons stands others => exact ih others

/-! ### Words among tokens -/

theorem not_isWordChar_of_mem {c : Char} (mark : c ∈ marks ++ quotes) : ¬isWordChar c := by
  have others : (marks ++ quotes).all fun mark => !isWordChar mark := by decide
  simpa using List.all_eq_true.1 others c mark

section Words

variable {kind : TokenKind} {text word before after rest front : List Char}

/-- What encloses a word has no word character next to it. -/
theorem eq_nil_of_letters (encloses : Text.Encloses before after) (letters : ∀ c ∈ before, isWordChar c) :
    before = [] := by
  rcases List.eq_nil_or_concat before with empty | ⟨start, last, rfl⟩
  · exact empty
  · have letter := letters last (by simp)
    rw [isWordChar_of_isBlank (encloses.1 last (by simp))] at letter
    cases letter

/-- A token in which a word begins is this word, or it holds the word between quotes. -/
theorem Stands.of_word (stands : Stands kind text rest) (letters : ∀ c ∈ word, isWordChar c)
    (nonempty : word ≠ []) (begins : text = before ++ front) (some_front : front ≠ [])
    (spelled : word ++ after = front ++ rest) (encloses : Text.Encloses before after) :
    (kind = .word ∧ text = word ∧ before = [] ∧ rest = after) ∨
      ((kind = .string ∨ kind = .garbage) ∧ word ∈ Text.words text) := by
  have solid : ∀ c ∈ word, Text.isBlank c = false := fun c member =>
    isBlank_of_isWordChar (letters c member)
  -- what is left of the token and the word share their first character
  obtain ⟨first, inText, letter⟩ : ∃ c, c ∈ text ∧ isWordChar c := by
    obtain ⟨c, tail, rfl⟩ := List.exists_cons_of_ne_nil nonempty
    obtain ⟨d, more, rfl⟩ := List.exists_cons_of_ne_nil some_front
    have same : c = d := (List.cons.inj spelled).1
    exact ⟨c, by simp [begins, same], letters c List.mem_cons_self⟩
  cases stands with
  | space blank =>
      rw [isWordChar_of_isBlank (blank first inText)] at letter
      cases letter
  | operator noSpace noWord chars =>
      exact absurd letter (not_isWordChar_of_mem (List.mem_append_left _ (chars first inText)))
  | word chars ends =>
      have none : before = [] := by
        apply eq_nil_of_letters encloses
        intro c member
        exact chars c (begins ▸ List.mem_append_left _ member)
      subst none
      rw [List.nil_append] at begins
      rw [← begins] at spelled
      -- the word and the token are the letters that the same text begins with
      have ofWord := span_append letters fun c isFirst => isWordChar_of_isBlank (encloses.2 c isFirst)
      have ofToken := span_append chars ends
      rw [spelled] at ofWord
      exact .inl ⟨rfl, ofToken.1.symm.trans ofWord.1, rfl, ofToken.2.symm.trans ofWord.2⟩
  | @string quote inner _ isQuote =>
      have last : quote ∈ front := by
        obtain ⟨start, final, rfl⟩ := (List.eq_nil_or_concat front).resolve_left some_front
        rw [List.concat_eq_append, ← List.append_assoc, ← List.cons_append] at begins
        rw [List.concat_eq_append, (List.cons.inj (List.append_inj' begins rfl).2).1]
        exact List.mem_append_right _ List.mem_cons_self
      have noLetter : quote ∉ word := fun member =>
        not_isWordChar_of_mem (List.mem_append_right _ isQuote) (letters quote member)
      refine .inr ⟨.inl rfl, ?_⟩
      rcases List.append_eq_append_iff.1 spelled with ⟨more, longer, behind⟩ | ⟨more, shorter, behind⟩
      · rw [begins, longer, ← List.append_assoc]
        refine Text.mem_words_of_encloses nonempty solid ⟨encloses.1, ?_⟩
        intro c isFirst
        apply encloses.2
        rw [behind, List.head?_append, Option.mem_def.1 isFirst]
        rfl
      · exact absurd (shorter ▸ List.mem_append_left _ last) noLetter
  | unclosed opens =>
      rw [List.append_nil] at spelled
      subst spelled
      refine .inr ⟨.inr rfl, ?_⟩
      rw [begins, ← List.append_assoc]
      exact Text.mem_words_of_encloses nonempty solid encloses

/-- The text of tokens. -/
def joined (tokens : List Token) : List Char :=
  tokens.flatMap (·.text)

/-- A word of the text of tokens is one of them, or stands within a string or within garbage. -/
theorem Standing.exists_of_word {tokens : List Token} (standing : Standing tokens)
    (letters : ∀ c ∈ word, isWordChar c) (nonempty : word ≠ [])
    (spelled : before ++ word ++ after = joined tokens) (encloses : Text.Encloses before after) :
    ∃ front token back, tokens = front ++ token :: back ∧
      ((token.kind = .word ∧ token.text = word ∧ joined front = before ∧ joined back = after) ∨
        ((token.kind = .string ∨ token.kind = .garbage) ∧ word ∈ Text.words token.text)) := by
  induction standing generalizing before with
  | nil => simp [joined, nonempty] at spelled
  | @cons token rest stands others ih =>
      rw [joined, List.flatMap_cons, ← joined, List.append_assoc] at spelled
      rcases Text.append_eq_cases spelled with ⟨more, rfl, later⟩ | ⟨left, some_left, begins, later⟩
      · rw [← List.append_assoc] at later
        have ends : ∀ c ∈ more.getLast?, Text.isBlank c := by
          intro c last
          apply encloses.1
          rw [List.getLast?_append, Option.mem_def.1 last]
          rfl
        obtain ⟨front, found, back, rfl, which⟩ := ih later.symm ⟨ends, encloses.2⟩
        refine ⟨token :: front, found, back, rfl, which.imp_left ?_⟩
        rintro ⟨isWord, text, rfl, inBack⟩
        exact ⟨isWord, text, by simp [joined], inBack⟩
      · refine ⟨[], token, rest, rfl, ?_⟩
        refine (stands.of_word letters nonempty begins some_left later encloses).imp_left ?_
        rintro ⟨isWord, text, rfl, behind⟩
        exact ⟨isWord, text, rfl, behind⟩

theorem Standing.of_mem {tokens front back : List Token} {token : Token} (standing : Standing tokens)
    (whole : tokens = front ++ token :: back) : Stands token.kind token.text (joined back) := by
  rw [whole] at standing
  cases standing.of_suffix with
  | cons stands others => exact stands

theorem Stands.of_whitespace (stands : Stands .whitespace text rest) :
    text ≠ [] ∧ ∀ c ∈ text, Text.isBlank c := by
  refine ⟨stands.ne_nil, ?_⟩
  generalize kept : TokenKind.whitespace = kind at stands
  cases stands with
  | space blank => exact blank
  | operator noSpace => exact absurd kept.symm noSpace
  | word => cases kept
  | string => cases kept
  | unclosed => cases kept

theorem not_isBlank_of_mem {c : Char} (mark : c ∈ marks ++ quotes) : Text.isBlank c = false := by
  have others : (marks ++ quotes).all fun mark => !Text.isBlank mark := by decide
  simpa using List.all_eq_true.1 others c mark

/-- A token that begins with white space is white space. -/
theorem Stands.eq_whitespace_of_head (stands : Stands kind text rest)
    (blank : ∀ c ∈ text.head?, Text.isBlank c) : kind = .whitespace := by
  have solid {c : Char} (first : c ∈ text.head?) : ¬Text.isBlank c = false := by simp [blank c first]
  cases stands with
  | space => rfl
  | @word c _ _ chars =>
      exact absurd (isBlank_of_isWordChar (chars c List.mem_cons_self)) (solid rfl)
  | @operator _ c _ _ _ _ chars =>
      exact absurd (not_isBlank_of_mem (List.mem_append_left _ (chars c List.mem_cons_self))) (solid rfl)
  | string isQuote => exact absurd (not_isBlank_of_mem (List.mem_append_right _ isQuote)) (solid rfl)
  | unclosed opens => exact absurd (not_isBlank_of_mem opens) (solid rfl)

/-- A token that ends with white space, with others behind it, is white space. -/
theorem Stands.eq_whitespace_of_getLast (stands : Stands kind text rest) (others : rest ≠ [])
    (blank : ∀ c ∈ text.getLast?, Text.isBlank c) : kind = .whitespace := by
  obtain ⟨start, last, whole⟩ := (List.eq_nil_or_concat text).resolve_left stands.ne_nil
  rw [List.concat_eq_append] at whole
  have final : last ∈ text := by simp [whole]
  have solid : ¬Text.isBlank last = false := by simp [blank last (by simp [whole])]
  cases stands with
  | space => rfl
  | word chars => exact absurd (isBlank_of_isWordChar (chars last final)) solid
  | operator _ _ chars =>
      exact absurd (not_isBlank_of_mem (List.mem_append_left _ (chars last final))) solid
  | string isQuote =>
      rw [← List.cons_append] at whole
      cases List.append_inj_right' whole rfl
      exact absurd (not_isBlank_of_mem (List.mem_append_right _ isQuote)) solid
  | unclosed => exact absurd rfl others

/-- A word within a string or within garbage is no part of a longer word around the token. -/
theorem Stands.exists_within (stands : Stands kind text rest) (quoted : kind = .string ∨ kind = .garbage)
    (letters : ∀ c ∈ word, isWordChar c) (inside : word ∈ Text.words text) :
    ∃ before after, text = before ++ word ++ after ∧ before ≠ [] ∧
      Text.Encloses before (after ++ rest) := by
  obtain ⟨nonempty, -, before, after, whole, encloses⟩ := Text.exists_of_mem_words inside
  -- neither the first character of such a token nor, if others follow, its last one is a letter
  have behind {c : Char} {tail : List Char} (opened : text = c :: tail) (mark : c ∈ marks ++ quotes) :
      before ≠ [] := by
    rintro rfl
    obtain ⟨d, more, rfl⟩ := List.exists_cons_of_ne_nil nonempty
    rw [opened] at whole
    cases whole
    exact not_isWordChar_of_mem mark (letters c List.mem_cons_self)
  cases stands with
  | space => simp at quoted
  | word => simp at quoted
  | operator _ _ chars =>
      obtain ⟨d, more, rfl⟩ := List.exists_cons_of_ne_nil nonempty
      have mark := chars d (by simp [whole])
      exact absurd (letters d List.mem_cons_self) (not_isWordChar_of_mem (List.mem_append_left _ mark))
  | @string quote inner _ isQuote =>
      refine ⟨before, after, whole, behind rfl (List.mem_append_right _ isQuote), encloses.1, ?_⟩
      cases after with
      | nil =>
          obtain ⟨start, last, rfl⟩ := (List.eq_nil_or_concat word).resolve_left nonempty
          rw [List.append_nil, List.concat_eq_append, ← List.append_assoc, ← List.cons_append] at whole
          cases List.append_inj_right' whole rfl
          exact absurd (letters quote (by simp)) (not_isWordChar_of_mem (List.mem_append_right _ isQuote))
      | cons c tail => exact encloses.2
  | unclosed opens =>
      refine ⟨before, after, whole, behind rfl opens, encloses.1, ?_⟩
      rw [List.append_nil]
      exact encloses.2

end Words

variable {tokens front back : List Token} {token : Token}

/-- White space on both sides of a token, as far as there are others. -/
def Spaced (front back : List Token) : Prop :=
  (∀ space ∈ front.getLast?, space.kind = .whitespace) ∧ ∀ space ∈ back.head?, space.kind = .whitespace

theorem Spaced.encloses (spaced : Spaced front back) (standing : Standing (front ++ token :: back)) :
    Text.Encloses (joined front) (joined back) := by
  constructor
  · rcases List.eq_nil_or_concat front with rfl | ⟨start, space, rfl⟩
    · simp [joined]
    · have stands : Stands space.kind space.text _ := standing.of_mem List.concat_append
      rw [spaced.1 space (by simp)] at stands
      obtain ⟨nonempty, blank⟩ := stands.of_whitespace
      intro c last
      rw [joined, List.concat_eq_append, List.flatMap_append, List.flatMap_singleton,
        List.getLast?_append_of_ne_nil _ nonempty] at last
      exact blank c (List.mem_of_getLast? last)
  · cases back with
    | nil => simp [joined]
    | cons space rest =>
        have stands := standing.of_mem (List.append_cons front token (space :: rest))
        rw [spaced.2 space rfl] at stands
        obtain ⟨nonempty, blank⟩ := stands.of_whitespace
        intro c first
        rw [joined, List.flatMap_cons, List.head?_append_of_ne_nil _ nonempty] at first
        exact blank c (List.mem_of_head? first)

theorem Spaced.of_encloses (encloses : Text.Encloses (joined front) (joined back))
    (standing : Standing (front ++ token :: back)) : Spaced front back := by
  have some_more := (standing.of_mem rfl).ne_nil
  constructor
  · intro space last
    obtain ⟨start, rfl⟩ := List.getLast?_eq_some_iff.1 last
    have stands : Stands space.kind space.text (joined (token :: back)) :=
      standing.of_mem (List.append_assoc start [space] (token :: back))
    apply stands.eq_whitespace_of_getLast
    · simp [joined, some_more]
    · intro c final
      apply encloses.1
      rw [joined, List.flatMap_append, List.flatMap_singleton,
        List.getLast?_append_of_ne_nil _ stands.ne_nil]
      exact final
  · intro space first
    obtain ⟨rest, rfl⟩ := List.head?_eq_some_iff.1 first
    have stands := standing.of_mem (List.append_cons front token (space :: rest))
    apply stands.eq_whitespace_of_head
    intro c begins
    apply encloses.2
    rw [joined, List.flatMap_cons, List.head?_append_of_ne_nil _ stands.ne_nil]
    exact begins

end Token

/-! ### Junctions among tokens and in their text -/

namespace Junction

open Token (Spaced Standing joined)

variable {junction : Junction} {tokens : List Token} {token : Token}

/-- How a junction is seen in the text of tokens. -/
inductive Appears (junction : Junction) (tokens : List Token) : Token → Prop where
  /-- It is a token, with nothing but white space next to it. -/
  | alone {front back : List Token} {token : Token} (whole : tokens = front ++ token :: back)
      (spelled : junction.spells token) (spaced : Spaced front back) : Appears junction tokens token
  /-- It is a word of a string, or of garbage. -/
  | quoted {word : List Char} {token : Token} (member : token ∈ tokens)
      (quotes : token.kind = .string ∨ token.kind = .garbage) (spelled : word ∈ junction.spellings)
      (inside : word ∈ Text.words token.text) : Appears junction tokens token

theorem letters_of_mem_spellings {word : List Char} (spelled : word ∈ junction.spellings) :
    word ≠ [] ∧ ∀ c ∈ word, Token.isWordChar c := by
  have checked : junction.spellings.all fun word => word != [] && word.all Token.isWordChar := by
    cases junction <;> decide
  have found := List.all_eq_true.1 checked word spelled
  simpa using found

theorem spells_iff : junction.spells token ↔ token.kind = .word ∧ token.text ∈ junction.spellings := by
  simp [spells]

/-- A junction is a word of the text of tokens exactly if it appears among them. -/
theorem exists_mem_words_iff (standing : Standing tokens) :
    (∃ word ∈ junction.spellings, word ∈ Text.words (joined tokens)) ↔
      ∃ token, junction.Appears tokens token := by
  constructor
  · rintro ⟨word, spelled, member⟩
    have letters := letters_of_mem_spellings spelled
    obtain ⟨-, -, before, after, whole, encloses⟩ := Text.exists_of_mem_words member
    obtain ⟨front, token, back, rfl, ⟨isWord, rfl, rfl, rfl⟩ | ⟨quotes, inside⟩⟩ :=
      standing.exists_of_word letters.2 letters.1 whole.symm encloses
    · exact ⟨token, .alone rfl (spells_iff.2 ⟨isWord, spelled⟩) (.of_encloses encloses standing)⟩
    · exact ⟨token, .quoted (by simp) quotes spelled inside⟩
  · rintro ⟨token, appears⟩
    cases appears with
    | @alone front back _ whole spelled spaced =>
        subst whole
        obtain ⟨-, spelled⟩ := spells_iff.1 spelled
        have letters := letters_of_mem_spellings spelled
        refine ⟨token.text, spelled, ?_⟩
        have text : joined (front ++ token :: back) = joined front ++ token.text ++ joined back := by
          simp [joined]
        rw [text]
        exact Text.mem_words_of_encloses letters.1
          (fun c member => Token.isBlank_of_isWordChar (letters.2 c member)) (spaced.encloses standing)
    | @quoted word _ member quotes spelled inside =>
        have letters := letters_of_mem_spellings spelled
        obtain ⟨front, back, rfl⟩ := List.append_of_mem member
        obtain ⟨before, after, parts, some_before, encloses⟩ :=
          (standing.of_mem rfl).exists_within quotes letters.2 inside
        refine ⟨word, spelled, ?_⟩
        have text : joined (front ++ token :: back) =
            (joined front ++ before) ++ word ++ (after ++ joined back) := by
          simp [joined, parts]
        rw [text]
        refine Text.mem_words_of_encloses letters.1
          (fun c member => Token.isBlank_of_isWordChar (letters.2 c member)) ⟨?_, encloses.2⟩
        rw [List.getLast?_append_of_ne_nil _ some_before]
        exact encloses.1

/-- Whether a token is a junction: a word between white space. -/
def isKeyword (junction : Junction) (before token after : Token) : Bool :=
  before.kind == .whitespace && junction.spells token && after.kind == .whitespace

/-- The junctions among tokens. -/
def keywords (junction : Junction) : List Token → List Token
  | before :: token :: after :: rest =>
    if junction.isKeyword before token after then token :: junction.keywords (token :: after :: rest)
    else junction.keywords (token :: after :: rest)
  | _ => []

theorem exists_of_mem_keywords (member : token ∈ junction.keywords tokens) :
    ∃ front before after back, tokens = front ++ before :: token :: after :: back ∧
      junction.isKeyword before token after := by
  induction tokens with
  | nil => cases member
  | cons before rest ih =>
      rcases rest with _ | ⟨other, _ | ⟨after, more⟩⟩
      · cases member
      · cases member
      · have later (found : token ∈ junction.keywords (other :: after :: more)) :
            ∃ front first last back,
              before :: other :: after :: more = front ++ first :: token :: last :: back ∧
                junction.isKeyword first token last := by
          obtain ⟨front, first, last, back, whole, keyword⟩ := ih found
          exact ⟨before :: front, first, last, back, by rw [whole, List.cons_append], keyword⟩
        simp only [keywords] at member
        split at member
        · rename_i keyword
          rcases List.mem_cons.1 member with rfl | found
          · exact ⟨[], before, after, more, rfl, keyword⟩
          · exact later found
        · exact later member

theorem length_split_of_not {afterBlank : Bool} {rest : List Token}
    (other : (junction.spells token && afterBlank && rest.head?.any (·.kind == .whitespace)) = false) :
    (junction.split afterBlank (token :: rest)).length =
      (junction.split (token.kind == .whitespace) rest).length := by
  simp only [split, other, Bool.false_eq_true, if_false]
  split
  · rename_i empty
    have parted := junction.parted_split (token.kind == .whitespace) rest
    rw [empty] at parted
    cases parted
  · rename_i piece pieces found
    rw [found]
    rfl

/-- There is one piece more than there are junctions. -/
theorem length_split_cons (before : Token) (tokens : List Token) :
    (junction.split (before.kind == .whitespace) tokens).length =
      (junction.keywords (before :: tokens)).length + 1 := by
  induction tokens generalizing before with
  | nil => rfl
  | cons token rest ih =>
      cases rest with
      | nil => exact length_split_of_not (by simp)
      | cons after more =>
          cases keyword : junction.isKeyword before token after with
          | true =>
              simp only [isKeyword, Bool.and_eq_true] at keyword
              have noSpace : (token.kind == .whitespace) = false := by
                rw [(spells_iff.1 keyword.1.2).1]
                rfl
              have others := ih token
              rw [noSpace] at others
              rw [split, keywords, if_pos (by simp [keyword]), if_pos (by simp [isKeyword, keyword])]
              simp [others]
          | false =>
              rw [length_split_of_not, ih token, keywords, if_neg (by simp [keyword])]
              simpa [isKeyword, Bool.and_comm, Bool.and_left_comm, Bool.and_assoc] using keyword

theorem length_split (tokens : List Token) :
    (junction.split false tokens).length = (junction.keywords tokens).length + 1 := by
  cases tokens with
  | nil => rfl
  | cons token rest => rw [length_split_of_not (by simp), length_split_cons]

/-- A junction of an expression is one of the text of the piece that it stands in. -/
theorem appears_of_mem_keywords {source : String} {piece : List Token}
    (within : piece <:+: Token.lex source) (keyword : token ∈ junction.keywords (Token.lex source))
    (member : token ∈ piece) : junction.Appears piece token := by
  obtain ⟨front, before, after, back, whole, between⟩ := exists_of_mem_keywords keyword
  obtain ⟨start, rest, around⟩ := within
  obtain ⟨left, right, rfl⟩ := List.append_of_mem member
  have once := Token.nodup_lex source
  rw [whole, List.append_cons, List.nodup_middle, List.nodup_cons, List.mem_append, not_or] at once
  have same :
      front ++ [before] ++ token :: after :: back = start ++ left ++ token :: (right ++ rest) := by
    rw [← List.append_cons, ← whole, ← around]
    simp
  obtain ⟨inFront, -, inBack⟩ := (List.append_cons_inj_of_notMem once.1.1 once.1.2).1 same
  simp only [isKeyword, Bool.and_eq_true, beq_iff_eq] at between
  refine .alone rfl between.1.2 ⟨?_, ?_⟩
  · intro space last
    obtain ⟨more, rfl⟩ := List.getLast?_eq_some_iff.1 last
    rw [← List.append_assoc] at inFront
    cases List.append_inj_right' inFront rfl
    exact between.1.1
  · intro space first
    obtain ⟨more, rfl⟩ := List.head?_eq_some_iff.1 first
    cases inBack
    exact between.2

end Junction

end SqlMapper
