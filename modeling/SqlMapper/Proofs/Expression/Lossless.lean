import SqlMapper.Proofs.Expression.Junction
import SqlMapper.Proofs.Text.Stretch

/-!
# Expressions are cut without loss

The tokens of an expression stand one right behind the other from its first byte to its last, and each is
what the expression holds there.  Garbage, words and white space go on as far as they can, so no two tokens
of one of these kinds are next to each other.
-/

namespace SqlMapper.Token

variable {kind : TokenKind} {text more after : List Char} {token : Token} {tokens rest : List Token}
  {start last : Nat} {source : String}

theorem Stands.letters (stands : Stands .word text after) : ∀ c ∈ text, isWordChar c := by
  cases stands with
  | word chars ends => exact chars
  | operator noSpace noWord chars => exact absurd rfl noWord

theorem Stands.blanks (stands : Stands .whitespace text after) : ∀ c ∈ text, Text.isBlank c := by
  cases stands with
  | space blank => exact blank
  | operator noSpace noWord chars => exact absurd rfl noSpace

/-! ### Neighbours -/

/-- The kinds of tokens that go on as far as they can. -/
def runs : List TokenKind := [.garbage, .word, .whitespace]

/-- Whether a token may stand right in front of another one. -/
def Apart (token next : Token) : Prop :=
  token.kind ∈ runs → next.kind ≠ token.kind

/-- No word begins where a word ends, and no white space where white space ends. -/
theorem Munch.eq_garbage (first : Munch kind text (more ++ after)) (second : Munch kind more after)
    (run : kind ∈ runs) : kind = .garbage := by
  have noDouble : doubles.all fun mark => mark.2 ∉ runs := by decide
  have noSingle : singles.all fun mark => mark.2 ∉ runs ∨ mark.2 = .garbage := by decide
  have looks := second.stands
  obtain ⟨c, rest, rfl⟩ := List.exists_cons_of_ne_nil second.ne_nil
  generalize behind : c :: rest ++ after = whole at first
  cases first with
  | string isQuote closed after => simp [runs] at run
  | unclosed isQuote unclosed => rfl
  | double c kind known after => simpa [run] using List.all_eq_true.1 noDouble _ known
  | single c kind known alone => simpa [run] using List.all_eq_true.1 noSingle _ known
  | plus after => simp [runs] at run
  | word nonempty chars ends =>
      subst behind
      have letter := looks.letters c List.mem_cons_self
      rw [ends c rfl] at letter
      cases letter
  | whitespace nonempty chars ends =>
      subst behind
      have blank := looks.blanks c List.mem_cons_self
      rw [ends c rfl] at blank
      cases blank

/-- Only garbage may meet its own kind behind it, since it is merged. -/
theorem isChain_addFront (apart : rest.IsChain Apart)
    (runsEnd : ∀ next ∈ rest.head?, token.kind ∈ runs → next.kind = token.kind → token.kind = .garbage) :
    (addFront token rest).IsChain Apart := by
  rcases addFront_cases token rest with ⟨kept, differ⟩ | ⟨next, more, rfl, isGarbage, nextGarbage, merged⟩
  · rw [kept, List.isChain_cons]
    refine ⟨fun next first run same => ?_, apart⟩
    have isGarbage := runsEnd next first run same
    exact differ next first isGarbage (same.trans isGarbage)
  · rw [List.isChain_cons] at apart
    rw [merged, List.isChain_cons]
    simp only [Apart, isGarbage, nextGarbage] at apart ⊢
    exact apart

theorem kind_head?_addFront (token : Token) (rest : List Token) :
    (addFront token rest).head?.map (·.kind) = some token.kind := by
  rcases addFront_cases token rest with ⟨kept, -⟩ | ⟨next, more, -, -, -, merged⟩
  · rw [kept]
    rfl
  · rw [merged]
    rfl

/-- The first token of a text is of the kind of its first piece. -/
theorem munch_of_head?_lexFrom (first : (lexFrom start text).head? = some token) :
    ∃ more after, text = more ++ after ∧ Munch token.kind more after := by
  cases text with
  | nil =>
      rw [lexFrom] at first
      cases first
  | cons c rest =>
      have kind := congrArg (Option.map (·.kind)) first
      rw [lexFrom, kind_head?_addFront, Option.map_some, Option.some.injEq] at kind
      rw [← kind]
      exact ⟨_, _, (firstPiece_append c rest).symm, munch_firstPiece c rest⟩

theorem isChain_lexFrom (start : Nat) (text : List Char) : (lexFrom start text).IsChain Apart := by
  induction start, text using lexFrom.induct with
  | case1 start =>
      rw [lexFrom]
      exact .nil
  | case2 start c rest token ih =>
      rw [lexFrom]
      refine isChain_addFront ih fun next first run same => ?_
      obtain ⟨more, after, behind, second⟩ := munch_of_head?_lexFrom first
      have munch := munch_firstPiece c rest
      rw [behind] at munch
      rw [same] at second
      exact munch.eq_garbage second run

theorem isChain_lex (source : String) : (lex source).IsChain Apart := by
  rw [lex_eq_lexFrom]
  exact isChain_lexFrom 0 source.toList

-- Stray signs and a quote that is never closed are one token.
example : lex "é=!'x" = [⟨.word, 0, ['é']⟩, ⟨.garbage, 2, "=!'x".toList⟩] := by decide +kernel

/-! ### Places -/

/-- Tokens that spell the rest of a text from their first place on are what the text holds at their places. -/
theorem Tiles.occupies {whole before : List Char} (tiles : Tiles start tokens last)
    (placed : Text.utf8Length before = start) (spelled : before ++ tokens.flatMap (·.text) <+: whole) :
    ∀ token ∈ tokens, Text.Occupies whole token.start token.stop token.text := by
  induction tiles generalizing before with
  | nil => exact List.forall_mem_nil _
  | @cons token rest start last begins nonempty others ih =>
      rw [List.flatMap_cons, ← List.append_assoc] at spelled
      have stops : Text.utf8Length (before ++ token.text) = token.stop := by
        rw [Text.utf8Length_append, placed, ← begins]
        rfl
      refine List.forall_mem_cons.2 ⟨⟨before, ?_, placed.trans begins.symm, stops⟩, ih stops spelled⟩
      exact (List.prefix_append _ _).trans spelled

theorem occupies_lex (source : String) :
    ∀ token ∈ lex source, Text.Occupies source.toList token.start token.stop token.text := by
  have placed : Text.utf8Length [] = 0 := rfl
  refine (tiles_lex source).occupies placed ?_
  rw [List.nil_append, flatMap_text_lex]

/-! ### Looks -/

theorem Standing.stands_of_mem (standing : Standing tokens) (member : token ∈ tokens) :
    ∃ after, Stands token.kind token.text after := by
  induction standing with
  | nil => cases member
  | cons stands others ih =>
      rcases List.mem_cons.1 member with rfl | later
      · exact ⟨_, stands⟩
      · exact ih later

theorem letters_of_mem_lex (member : token ∈ lex source) (word : token.kind = .word) :
    ∀ c ∈ token.text, isWordChar c := by
  obtain ⟨after, stands⟩ := (standing_lex source).stands_of_mem member
  rw [word] at stands
  exact stands.letters

theorem quoted_of_mem_lex (member : token ∈ lex source) (isString : token.kind = .string) :
    ∃ quote inner, quote ∈ quotes ∧ quote ∉ inner ∧ token.text = quote :: (inner ++ [quote]) := by
  have look := (shaped_lex source).look_of_mem member (by rw [isString]; nofun)
  rw [isString] at look
  exact look.of_string

/-! ### Nothing is lost -/

/-- Whether tokens cut a source without loss. -/
structure IsLossless (source : String) (tokens : List Token) : Prop where
  /-- The spans are not empty, and each begins where the one before ends, from the first byte to the last. -/
  tiles : Tiles 0 tokens source.utf8ByteSize
  increasing : tokens.Pairwise fun token later => token.stop ≤ later.start
  /-- The spans begin and end between characters. -/
  boundaries : ∀ token ∈ tokens,
    String.Pos.Raw.IsValid source ⟨token.start⟩ ∧ String.Pos.Raw.IsValid source ⟨token.stop⟩
  /-- The bytes of the source in a span are those of the token's text. -/
  slices : ∀ token ∈ tokens, ((Text.bytes source).drop token.start).take (token.stop - token.start) =
    Text.bytes (String.ofList token.text)
  spells : tokens.flatMap (·.text) = source.toList
  apart : tokens.IsChain Apart
  strings : ∀ token ∈ tokens, token.kind = .string → ∃ quote inner,
    quote ∈ quotes ∧ quote ∉ inner ∧ token.text = quote :: (inner ++ [quote])
  words : ∀ token ∈ tokens, token.kind = .word → ∀ c ∈ token.text,
    Text.isBlank c = false ∧ c ∉ quotes ∧ c ∉ marks

/-- The tokens of every expression cut it without loss. -/
theorem isLossless_lex (source : String) : IsLossless source (lex source) where
  tiles := by
    rw [← Text.utf8Length_toList]
    exact tiles_lex source
  increasing := (tiles_lex source).increasing
  boundaries token member := (occupies_lex source token member).isValid
  slices token member := by
    rw [Text.bytes_eq_flatMap, Text.bytes_eq_flatMap, String.toList_ofList]
    exact (occupies_lex source token member).bytes_eq
  spells := flatMap_text_lex source
  apart := isChain_lex source
  strings _ := quoted_of_mem_lex
  words token member word c inside := by
    have letter := letters_of_mem_lex member word c inside
    have noMark : c ∉ marks ++ quotes := fun mark => not_isWordChar_of_mem mark letter
    rw [List.mem_append, not_or] at noMark
    exact ⟨isBlank_of_isWordChar letter, noMark.2, noMark.1⟩

end SqlMapper.Token
