import SqlMapper.Proofs.Expression.Token
import Mathlib.Data.List.Basic

/-!
# Strings among tokens

What the tokens of an expression look like, and what this says of a piece between equal quotes: it is one
string exactly if its quote does not occur inside.
-/

namespace SqlMapper.Token

/-- What a token looks like that may have others behind it. -/
inductive Look : TokenKind → List Char → Prop where
  | string {quote : Char} {inner : List Char} (isQuote : quote ∈ quotes) (closed : quote ∉ inner) :
      Look .string (quote :: (inner ++ [quote]))
  | whitespace {text : List Char} (blank : ∀ c ∈ text, Text.isBlank c) : Look .whitespace text
  | other {kind : TokenKind} {c : Char} {rest : List Char} (noString : kind ≠ .string)
      (noSpace : kind ≠ .whitespace) (solid : Text.isBlank c = false) (noQuote : c ∉ quotes) :
      Look kind (c :: rest)

/-- Tokens as they stand in an expression: a quote that is not closed begins the last one. -/
inductive Shaped : List Token → Prop where
  | nil : Shaped []
  | unclosed {quote : Char} {inner : List Char} (start : Nat) (isQuote : quote ∈ quotes)
      (unclosed : quote ∉ inner) : Shaped [{ kind := .garbage, start, text := quote :: inner }]
  | cons {token : Token} {rest : List Token} (look : Look token.kind token.text) (others : Shaped rest) :
      Shaped (token :: rest)

theorem look_of_word {c : Char} {rest : List Char} (letter : isWordChar c) : Look .word (c :: rest) := by
  refine .other nofun nofun (isBlank_of_isWordChar letter) ?_
  intro isQuote
  have noWord : quotes.all fun quote => !isWordChar quote := by decide
  have other := List.all_eq_true.1 noWord c isQuote
  rw [letter] at other
  cases other

/-- Garbage that is merged keeps its first character. -/
theorem Look.append {text : List Char} (look : Look .garbage text) (more : List Char) :
    Look .garbage (text ++ more) := by
  cases look with
  | other noString noSpace solid noQuote => exact .other noString noSpace solid noQuote

theorem Shaped.of_cons {token : Token} {rest : List Token} (shaped : Shaped (token :: rest)) :
    Shaped rest := by
  cases shaped with
  | unclosed start isQuote unclosed => exact .nil
  | cons look others => exact others

theorem Shaped.addFront {token : Token} {rest : List Token} (look : Look token.kind token.text)
    (others : Shaped rest) : Shaped (Token.addFront token rest) := by
  rcases addFront_cases token rest with ⟨kept, -⟩ | ⟨next, more, rfl, isGarbage, -, merged⟩
  · rw [kept]
    exact .cons look others
  · rw [merged]
    refine .cons ?_ others.of_cons
    rw [isGarbage] at look ⊢
    exact look.append next.text

theorem look_of_mem_marks {c : Char} {kind : TokenKind} (known : (c, kind) ∈ doubles ++ singles)
    (rest : List Char) : Look kind (c :: rest) := by
  have marks : (doubles ++ singles).all fun mark =>
      mark.2 != .string && mark.2 != .whitespace && !Text.isBlank mark.1 && !quotes.contains mark.1 := by
    decide
  have mark := List.all_eq_true.1 marks (c, kind) known
  simp only [Bool.and_eq_true, bne_iff_ne, Bool.not_eq_true', List.contains_eq_mem,
    decide_eq_false_iff_not] at mark
  exact .other mark.1.1.1 mark.1.1.2 mark.1.2 mark.2

/-- A piece that is as long as it can be keeps the shape of the tokens behind it. -/
theorem Munch.shaped {kind : TokenKind} {text after : List Char} (munch : Munch kind text after)
    (start : Nat) {rest : List Token} (others : Shaped rest) (ends : after = [] → rest = []) :
    Shaped (addFront { kind, start, text } rest) := by
  cases munch with
  | string isQuote closed after => exact others.addFront (.string isQuote closed)
  | unclosed isQuote unclosed =>
      rw [ends rfl]
      exact .unclosed start isQuote unclosed
  | double c kind known after =>
      exact others.addFront (look_of_mem_marks (List.mem_append_left _ known) _)
  | single c kind known alone =>
      exact others.addFront (look_of_mem_marks (List.mem_append_right _ known) _)
  | plus after => exact others.addFront (.other nofun nofun (by decide) (by decide))
  | word nonempty chars ends =>
      rcases List.exists_cons_of_ne_nil nonempty with ⟨c, rest, rfl⟩
      exact others.addFront (look_of_word (chars c List.mem_cons_self))
  | whitespace nonempty chars ends => exact others.addFront (.whitespace chars)

theorem shaped_lexFrom (start : Nat) (text : List Char) : Shaped (lexFrom start text) := by
  induction start, text using lexFrom.induct with
  | case1 start =>
      rw [lexFrom]
      exact .nil
  | case2 start c rest token ih =>
      rw [lexFrom]
      refine (munch_firstPiece c rest).shaped start ih fun empty => ?_
      rw [empty, lexFrom]

theorem shaped_lex (source : String) : Shaped (lex source) := by
  rw [lex_eq_lexFrom]
  exact shaped_lexFrom 0 source.toList

/-! ### Strings -/

/-- A piece that is one string with white space around it. -/
inductive IsOneString : List Token → Prop where
  | intro {before after : List Token} {string : Token}
      (blankBefore : ∀ blank ∈ before, blank.kind = .whitespace) (isString : string.kind = .string)
      (blankAfter : ∀ blank ∈ after, blank.kind = .whitespace) : IsOneString (before ++ string :: after)

theorem Shaped.look_of_mem {piece : List Token} (shaped : Shaped piece) {token : Token}
    (member : token ∈ piece) (known : token.kind ≠ .garbage) : Look token.kind token.text := by
  induction shaped with
  | nil => cases member
  | unclosed start isQuote unclosed =>
      rw [List.mem_singleton.1 member] at known
      exact absurd rfl known
  | cons look others ih =>
      rcases List.mem_cons.1 member with rfl | later
      · exact look
      · exact ih later

theorem Look.blank {kind : TokenKind} {text : List Char} (look : Look kind text)
    (space : kind = .whitespace) : ∀ c ∈ text, Text.isBlank c := by
  cases look with
  | string isQuote closed => cases space
  | whitespace blank => exact blank
  | other noString noSpace solid noQuote => exact absurd space noSpace

theorem Look.space_or_solid {kind : TokenKind} {text : List Char} (look : Look kind text) :
    (kind = .whitespace ∧ ∀ c ∈ text, Text.isBlank c) ∨
      ∃ c rest, text = c :: rest ∧ Text.isBlank c = false := by
  cases look with
  | string isQuote closed => exact .inr ⟨_, _, rfl, solid_of_mem_quotes isQuote⟩
  | whitespace blank => exact .inl ⟨rfl, blank⟩
  | other noString noSpace solid noQuote => exact .inr ⟨_, _, rfl, solid⟩

theorem Shaped.blank {piece : List Token} (shaped : Shaped piece) {blanks : List Token}
    (part : blanks ⊆ piece) (spaces : ∀ blank ∈ blanks, blank.kind = .whitespace) :
    ∀ c ∈ blanks.flatMap (·.text), Text.isBlank c := by
  intro c member
  rcases List.mem_flatMap.1 member with ⟨blank, inBlanks, inText⟩
  have space := spaces blank inBlanks
  have look := shaped.look_of_mem (part inBlanks) (by rw [space]; nofun)
  exact look.blank space c inText

/-- Tokens without any other text are white space. -/
theorem Shaped.spaces {piece : List Token} (shaped : Shaped piece)
    (blank : ∀ c ∈ piece.flatMap (·.text), Text.isBlank c) : ∀ token ∈ piece, token.kind = .whitespace := by
  induction shaped with
  | nil => exact List.forall_mem_nil _
  | @unclosed quote inner start isQuote unclosed =>
      exact absurd isQuote (not_mem_quotes_of_isBlank (blank quote List.mem_cons_self))
  | @cons token more look others ih =>
      rw [List.flatMap_cons, List.forall_mem_append] at blank
      refine List.forall_mem_cons.2 ⟨?_, ih blank.2⟩
      rcases look.space_or_solid with ⟨space, _⟩ | ⟨c, rest, text, solid⟩
      · exact space
      · rw [blank.1 c (text ▸ List.mem_cons_self)] at solid
        cases solid

/-- The first token that is no white space begins with the first character that is none. -/
theorem Shaped.exists_first {piece : List Token} (shaped : Shaped piece) {c : Char} {rest : List Char}
    (first : Text.trimStart (piece.flatMap (·.text)) = c :: rest) :
    ∃ blanks token more tail, piece = blanks ++ token :: more ∧
      (∀ blank ∈ blanks, blank.kind = .whitespace) ∧ Shaped (token :: more) ∧
      token.text = c :: tail ∧ tail ++ more.flatMap (·.text) = rest := by
  induction shaped with
  | nil => cases first
  | @unclosed quote inner start isQuote unclosed =>
      rw [List.flatMap_singleton, Text.trimStart_cons_of_solid (solid_of_mem_quotes isQuote)] at first
      cases first
      exact ⟨[], _, [], _, rfl, List.forall_mem_nil _, .unclosed start isQuote unclosed, rfl,
        List.append_nil _⟩
  | @cons token more look others ih =>
      rw [List.flatMap_cons] at first
      rcases look.space_or_solid with ⟨space, blank⟩ | ⟨d, tail, text, solid⟩
      · rw [Text.trimStart_append_of_blank blank] at first
        rcases ih first with ⟨blanks, found, behind, tail, rfl, spaces, shaped, text, whole⟩
        exact ⟨token :: blanks, found, behind, tail, rfl, List.forall_mem_cons.2 ⟨space, spaces⟩, shaped,
          text, whole⟩
      · rw [text, List.cons_append, Text.trimStart_cons_of_solid solid] at first
        cases first
        exact ⟨[], token, more, tail, rfl, List.forall_mem_nil _, .cons look others, text, rfl⟩

theorem Look.of_quote {kind : TokenKind} {quote : Char} {tail : List Char}
    (look : Look kind (quote :: tail)) (isQuote : quote ∈ quotes) :
    kind = .string ∧ ∃ inner, quote ∉ inner ∧ tail = inner ++ [quote] := by
  generalize text : quote :: tail = whole at look
  cases look with
  | string _ closed =>
      cases text
      exact ⟨rfl, _, closed, rfl⟩
  | whitespace blank =>
      exact absurd isQuote (not_mem_quotes_of_isBlank (blank quote (text ▸ List.mem_cons_self)))
  | other noString noSpace solid noQuote =>
      cases text
      exact absurd isQuote noQuote

theorem Look.of_string {text : List Char} (look : Look .string text) :
    ∃ quote inner, quote ∈ quotes ∧ quote ∉ inner ∧ text = quote :: (inner ++ [quote]) := by
  cases look with
  | string isQuote closed => exact ⟨_, _, isQuote, closed, rfl⟩
  | other noString noSpace solid noQuote => exact absurd rfl noString

theorem IsOneString.exists_quoted {piece : List Token} (one : IsOneString piece) (shaped : Shaped piece) :
    ∃ quote inner, quote ∈ quotes ∧ quote ∉ inner ∧ trimmedText piece = quote :: (inner ++ [quote]) := by
  cases one with
  | @intro before after string blankBefore isString blankAfter =>
      have member : string ∈ before ++ string :: after := by simp
      have look := shaped.look_of_mem member (by rw [isString]; nofun)
      rw [isString] at look
      rcases look.of_string with ⟨quote, inner, isQuote, closed, text⟩
      refine ⟨quote, inner, isQuote, closed, ?_⟩
      rw [trimmedText, List.flatMap_append, List.flatMap_cons, ← List.append_assoc, text]
      exact Text.trim_eq_of_blank_around (shaped.blank (by simp) blankBefore)
        (shaped.blank (by simp) blankAfter) (solid_head?_quoted isQuote inner)
        (solid_getLast?_quoted isQuote inner)

theorem isOneString_of_closed {piece : List Token} (shaped : Shaped piece) {quote : Char}
    {inner : List Char} (isQuote : quote ∈ quotes)
    (quoted : trimmedText piece = quote :: (inner ++ [quote])) (closed : quote ∉ inner) :
    IsOneString piece := by
  rcases Text.exists_append_trimEnd (Text.trimStart (piece.flatMap (·.text))) with ⟨gap, blank, whole⟩
  change trimmedText piece ++ gap = _ at whole
  rw [quoted, List.cons_append, List.append_assoc, List.singleton_append] at whole
  rcases shaped.exists_first whole.symm with ⟨blanks, token, more, tail, rfl, spaces, rest, text, parted⟩
  cases rest with
  | unclosed start _ unclosed =>
      -- the closing quote would be inside
      cases text
      rw [List.flatMap_nil, List.append_nil] at parted
      rw [parted] at unclosed
      exact absurd (List.mem_append_right inner List.mem_cons_self) unclosed
  | cons look others =>
      rw [text] at look
      rcases look.of_quote isQuote with ⟨isString, inside, _, rfl⟩
      -- both texts go on to the first closing quote, and only white space is left behind it
      have noQuote : quote ∉ gap := fun member => not_mem_quotes_of_isBlank (blank quote member) isQuote
      rw [List.append_assoc, List.singleton_append] at parted
      have behind := ((List.append_cons_inj_of_notMem closed noQuote).1 parted.symm).2.2
      rw [behind] at blank
      exact .intro spaces isString (others.spaces blank)

/-- A piece between equal quotes is one string exactly if there is no such quote inside. -/
theorem Shaped.isOneString_iff {piece : List Token} (shaped : Shaped piece) {quote : Char}
    {inner : List Char} (isQuote : quote ∈ quotes)
    (quoted : trimmedText piece = quote :: (inner ++ [quote])) : IsOneString piece ↔ quote ∉ inner := by
  refine ⟨fun one => ?_, isOneString_of_closed shaped isQuote quoted⟩
  rcases one.exists_quoted shaped with ⟨other, inside, isOther, closed, text⟩
  rcases List.cons.inj (quoted.symm.trans text) with ⟨rfl, same⟩
  rwa [(List.append_inj' same rfl).1]

end SqlMapper.Token
