import SqlMapper.Expression.Token

/-!
# Longest pieces

An expression is cut where the longest piece ends.  Of each kind of piece is said what it looks like and
what may follow it, and this decides the cut: what has such a look, before what may follow it, is the
first piece, and no other piece is.  Tokens are then put in front of each other from the end, which merges
the garbage that the loop over the pieces keeps open until it ends.
-/

namespace SqlMapper.Token

/-- The marks around strings. -/
def quotes : List Char := ['\x27', '"']

/-- The kinds of pieces that an equals sign ends, by their first characters. -/
def doubles : List (Char × TokenKind) := [('!', .ne), ('=', .eqEq), ('>', .ge), ('<', .le)]

/-- The kinds of the same characters where no equals sign follows. -/
def singles : List (Char × TokenKind) :=
  [('!', .garbage), ('=', .garbage), ('>', .gt), ('<', .lt)]

/-- A piece of a kind that is as long as it can be in front of what follows. -/
inductive Munch : TokenKind → List Char → List Char → Prop where
  | string {quote : Char} {inner : List Char} (isQuote : quote ∈ quotes) (closed : quote ∉ inner)
      (after : List Char) : Munch .string (quote :: (inner ++ [quote])) after
  | unclosed {quote : Char} {inner : List Char} (isQuote : quote ∈ quotes) (unclosed : quote ∉ inner) :
      Munch .garbage (quote :: inner) []
  | double (c : Char) (kind : TokenKind) (known : (c, kind) ∈ doubles) (after : List Char) :
      Munch kind [c, '='] after
  | single (c : Char) (kind : TokenKind) {after : List Char} (known : (c, kind) ∈ singles)
      (alone : after.head? ≠ some '=') : Munch kind [c] after
  | plus (after : List Char) : Munch .plus ['+'] after
  | word {text after : List Char} (nonempty : text ≠ []) (chars : ∀ c ∈ text, isWordChar c)
      (ends : ∀ c ∈ after.head?, isWordChar c = false) : Munch .word text after
  | whitespace {text after : List Char} (nonempty : text ≠ []) (chars : ∀ c ∈ text, Text.isBlank c)
      (ends : ∀ c ∈ after.head?, Text.isBlank c = false) : Munch .whitespace text after

theorem solid_of_mem_quotes {quote : Char} (isQuote : quote ∈ quotes) : Text.isBlank quote = false := by
  simp only [quotes, List.mem_cons, List.not_mem_nil, or_false] at isQuote
  rcases isQuote with rfl | rfl <;> decide

theorem not_mem_quotes_of_isBlank {c : Char} (blank : Text.isBlank c) : c ∉ quotes := by
  intro isQuote
  rw [solid_of_mem_quotes isQuote] at blank
  cases blank

theorem solid_head?_quoted {quote : Char} (isQuote : quote ∈ quotes) (inner : List Char) :
    ∀ c ∈ (quote :: (inner ++ [quote])).head?, Text.isBlank c = false := by
  rintro c ⟨⟩
  exact solid_of_mem_quotes isQuote

theorem solid_getLast?_quoted {quote : Char} (isQuote : quote ∈ quotes) (inner : List Char) :
    ∀ c ∈ (quote :: (inner ++ [quote])).getLast?, Text.isBlank c = false := by
  intro c last
  rw [← List.cons_append, List.getLast?_concat] at last
  cases last
  exact solid_of_mem_quotes isQuote

theorem trim_quoted {quote : Char} (isQuote : quote ∈ quotes) (inner : List Char) :
    Text.trim (quote :: (inner ++ [quote])) = quote :: (inner ++ [quote]) :=
  Text.trim_eq_self (solid_head?_quoted isQuote inner) (solid_getLast?_quoted isQuote inner)

theorem quotedPiece_of_not_mem {quote : Char} {rest : List Char} (unclosed : quote ∉ rest) :
    quotedPiece quote rest = (.garbage, quote :: rest, []) := by
  have others : ∀ c ∈ rest, c != quote := fun c member =>
    bne_iff_ne.2 fun same => unclosed (same ▸ member)
  have dropped : (rest ++ []).dropWhile (· != quote) = [] := List.dropWhile_append_of_pos others
  rw [List.append_nil] at dropped
  simp [quotedPiece, dropped]

theorem quotedPiece_of_closed {quote : Char} {inner : List Char} (closed : quote ∉ inner)
    (after : List Char) :
    quotedPiece quote (inner ++ quote :: after) = (.string, quote :: (inner ++ [quote]), after) := by
  have others : ∀ c ∈ inner, c != quote := fun c member =>
    bne_iff_ne.2 fun same => closed (same ▸ member)
  simp [quotedPiece, List.takeWhile_append_of_pos others, List.dropWhile_append_of_pos others]

theorem munch_quotedPiece {quote : Char} (isQuote : quote ∈ quotes) (rest : List Char) :
    Munch (quotedPiece quote rest).1 (quotedPiece quote rest).2.1 (quotedPiece quote rest).2.2 := by
  by_cases member : quote ∈ rest
  · rcases List.eq_append_cons_of_mem member with ⟨inner, after, rfl, closed⟩
    rw [quotedPiece_of_closed closed]
    exact .string isQuote closed after
  · rw [quotedPiece_of_not_mem member]
    exact .unclosed isQuote member

theorem forall_mem_cons_takeWhile {p : Char → Bool} {c : Char} (first : p c) (rest : List Char) :
    ∀ d ∈ c :: rest.takeWhile p, p d :=
  List.forall_mem_cons.2 ⟨first, List.all_eq_true.1 List.all_takeWhile⟩

theorem forall_mem_head?_dropWhile (p : Char → Bool) (rest : List Char) :
    ∀ d ∈ (rest.dropWhile p).head?, p d = false := by
  intro d first
  have stops := List.head?_dropWhile_not p rest
  rw [Option.mem_def.1 first] at stops
  exact stops

theorem mem_of_not_isWordChar {c : Char} (solid : ¬Text.isBlank c) (noLetter : ¬isWordChar c) :
    c ∈ ['!', '=', '<', '>', '+', '"', '\x27'] := by
  simp only [isWordChar, Bool.and_eq_true, Bool.not_eq_true', bne_iff_ne, ne_eq] at noLetter
  simp only [List.mem_cons, List.not_mem_nil, or_false]
  grind

/-- The first piece is as long as it can be. -/
theorem munch_firstPiece (c : Char) (rest : List Char) :
    Munch (firstPiece c rest).1 (firstPiece c rest).2.1 (firstPiece c rest).2.2 := by
  unfold firstPiece
  split
  · rename_i blank
    exact .whitespace (List.cons_ne_nil _ _) (forall_mem_cons_takeWhile blank rest)
      (forall_mem_head?_dropWhile _ rest)
  · split
    · rename_i letter
      exact .word (List.cons_ne_nil _ _) (forall_mem_cons_takeWhile letter rest)
        (forall_mem_head?_dropWhile _ rest)
    · rename_i solid noLetter
      have mark := mem_of_not_isWordChar solid noLetter
      split
      · exact munch_quotedPiece (by decide) rest
      · exact munch_quotedPiece (by decide) rest
      · exact .double '!' .ne (by decide) _
      · exact .double '=' .eqEq (by decide) _
      · exact .double '>' .ge (by decide) _
      · exact .double '<' .le (by decide) _
      · refine .single '>' .gt (by decide) ?_
        cases rest <;> simp_all
      · refine .single '<' .lt (by decide) ?_
        cases rest <;> simp_all
      · exact .plus _
      · have alone : rest.head? ≠ some '=' := by
          intro equals
          rcases List.head?_eq_some_iff.1 equals with ⟨after, rfl⟩
          grind
        have stray : (c, TokenKind.garbage) ∈ singles := by simp_all [singles]
        exact .single c .garbage stray alone

theorem firstPiece_quote {quote : Char} (isQuote : quote ∈ quotes) (rest : List Char) :
    firstPiece quote rest = quotedPiece quote rest := by
  simp only [quotes, List.mem_cons, List.not_mem_nil, or_false] at isQuote
  rcases isQuote with rfl | rfl <;> rfl

theorem firstPiece_single {c : Char} {kind : TokenKind} {after : List Char} (known : (c, kind) ∈ singles)
    (alone : after.head? ≠ some '=') : firstPiece c after = (kind, [c], after) := by
  simp only [singles, List.mem_cons, List.not_mem_nil, or_false, Prod.mk.injEq] at known
  have noEquals : ∀ more, after ≠ '=' :: more := by
    rintro more rfl
    exact alone rfl
  rcases known with ⟨rfl, rfl⟩ | ⟨rfl, rfl⟩ | ⟨rfl, rfl⟩ | ⟨rfl, rfl⟩ <;> unfold firstPiece <;>
    rw [if_neg (by decide), if_neg (by decide)] <;> split <;> simp_all

theorem isBlank_of_isWordChar {c : Char} (letter : isWordChar c) : Text.isBlank c = false := by
  simp only [isWordChar, Bool.and_eq_true, Bool.not_eq_true'] at letter
  exact letter.1.1.1.1.1.1.1

theorem isWordChar_of_isBlank {c : Char} (blank : Text.isBlank c) : isWordChar c = false := by
  rw [Bool.eq_false_iff]
  intro letter
  rw [isBlank_of_isWordChar letter] at blank
  cases blank

theorem span_append {p : Char → Bool} {text after : List Char} (chars : ∀ c ∈ text, p c)
    (ends : ∀ c ∈ after.head?, p c = false) :
    (text ++ after).takeWhile p = text ∧ (text ++ after).dropWhile p = after := by
  rw [List.takeWhile_append_of_pos chars, List.dropWhile_append_of_pos chars]
  cases after with
  | nil => simp
  | cons c rest => simp [ends c rfl]

/-- There is no other piece that is as long as it can be. -/
theorem firstPiece_eq_of_munch {kind : TokenKind} {c : Char} {text after : List Char}
    (munch : Munch kind (c :: text) after) : firstPiece c (text ++ after) = (kind, c :: text, after) := by
  generalize piece : c :: text = whole at munch
  cases munch with
  | string isQuote closed after =>
      cases piece
      rw [firstPiece_quote isQuote, List.append_assoc]
      exact quotedPiece_of_closed closed after
  | unclosed isQuote unclosed =>
      cases piece
      rw [firstPiece_quote isQuote, List.append_nil]
      exact quotedPiece_of_not_mem unclosed
  | double c kind known after =>
      cases piece
      simp only [doubles, List.mem_cons, List.not_mem_nil, or_false, Prod.mk.injEq] at known
      rcases known with ⟨rfl, rfl⟩ | ⟨rfl, rfl⟩ | ⟨rfl, rfl⟩ | ⟨rfl, rfl⟩ <;> rfl
  | single c kind known alone =>
      cases piece
      exact firstPiece_single known alone
  | plus after =>
      cases piece
      rfl
  | word nonempty chars ends =>
      cases piece
      rw [List.forall_mem_cons] at chars
      have solid := isBlank_of_isWordChar chars.1
      rcases span_append chars.2 ends with ⟨taken, dropped⟩
      simp [firstPiece, solid, chars.1, taken, dropped]
  | whitespace nonempty chars ends =>
      cases piece
      rw [List.forall_mem_cons] at chars
      rcases span_append chars.2 ends with ⟨taken, dropped⟩
      simp [firstPiece, chars.1, taken, dropped]

theorem Munch.ne_nil {kind : TokenKind} {text after : List Char} (munch : Munch kind text after) :
    text ≠ [] := by
  cases munch with
  | word nonempty chars ends => exact nonempty
  | whitespace nonempty chars ends => exact nonempty
  | _ => exact List.cons_ne_nil _ _

/-! ### Garbage -/

/-- Puts a token in front of others; garbage in front of garbage makes one token. -/
def addFront (token : Token) : List Token → List Token
  | [] => [token]
  | next :: rest =>
    if token.kind == .garbage && next.kind == .garbage then
      { token with text := token.text ++ next.text } :: rest
    else token :: next :: rest

/-- The tokens of a text that begins at an offset, where no garbage is open. -/
def lexFrom (start : Nat) : List Char → List Token
  | [] => []
  | c :: rest =>
    let token : Token := { kind := (firstPiece c rest).1, start, text := (firstPiece c rest).2.1 }
    addFront token (lexFrom token.stop (firstPiece c rest).2.2)
termination_by text => text.length
decreasing_by exact firstPiece_shorter c rest

/-- A token is merged with the first of the tokens behind it if both are garbage, and only then. -/
theorem addFront_cases (token : Token) (rest : List Token) :
    (addFront token rest = token :: rest ∧
        ∀ next ∈ rest.head?, token.kind = .garbage → next.kind ≠ .garbage) ∨
      ∃ next more, rest = next :: more ∧ token.kind = .garbage ∧ next.kind = .garbage ∧
        addFront token rest = { token with text := token.text ++ next.text } :: more := by
  cases rest with
  | nil => exact .inl ⟨rfl, nofun⟩
  | cons next more =>
      by_cases merges : token.kind = .garbage ∧ next.kind = .garbage
      · exact .inr ⟨next, more, rfl, merges.1, merges.2, by simp [addFront, merges]⟩
      · refine .inl ⟨by simp [addFront, merges], ?_⟩
        rintro _ ⟨⟩ isGarbage nextGarbage
        exact merges ⟨isGarbage, nextGarbage⟩

theorem addFront_of_ne_garbage {token : Token} (known : token.kind ≠ .garbage) (tokens : List Token) :
    addFront token tokens = token :: tokens := by
  rcases addFront_cases token tokens with ⟨kept, -⟩ | ⟨next, more, -, isGarbage, -, -⟩
  · exact kept
  · exact absurd isGarbage known

theorem addFront_of_garbage {token next : Token} (isGarbage : token.kind = .garbage)
    (known : next.kind ≠ .garbage) (tokens : List Token) :
    addFront token (next :: tokens) = token :: next :: tokens := by
  simp [addFront, isGarbage, known]

/-- Garbage makes one token with the garbage behind it, whatever follows. -/
theorem addFront_addFront (start later : Nat) (text more : List Char) (tokens : List Token) :
    addFront ⟨.garbage, start, text⟩ (addFront ⟨.garbage, later, more⟩ tokens) =
      addFront ⟨.garbage, start, text ++ more⟩ tokens := by
  cases tokens with
  | nil => simp [addFront]
  | cons next rest =>
      by_cases isGarbage : next.kind = .garbage
      · simp [addFront, isGarbage]
      · simp [addFront, isGarbage]

theorem Place.upTo_of_append {first last : Place} {text : List Char}
    (between : first.ahead = text ++ last.ahead) : first.upTo last = text := by
  rw [Place.upTo, between, List.length_append, Nat.add_sub_cancel, List.take_left]

/-- Garbage that is open goes in front of the tokens of the text that follows it. -/
theorem lexBehind_eq (opened : Option Place) (start : Nat) (text : List Char)
    (behind : ∀ first ∈ opened, text <:+ first.ahead) :
    lexBehind opened start text =
      opened.elim (lexFrom start text) fun first =>
        addFront (first.garbage ⟨start, text⟩) (lexFrom start text) := by
  induction opened, start, text using lexBehind.induct with
  | case1 opened start =>
      rw [lexBehind, lexFrom]
      cases opened <;> rfl
  | case2 opened start c rest here token isGarbage ih =>
      have whole := firstPiece_append c rest
      have stillBehind : ∀ first ∈ some (opened.getD here), (firstPiece c rest).2.2 <:+ first.ahead := by
        rintro first ⟨⟩
        cases opened with
        | none => exact ⟨_, whole⟩
        | some first => exact List.IsSuffix.trans ⟨_, whole⟩ (behind first rfl)
      have kind : (firstPiece c rest).1 = .garbage := beq_iff_eq.1 isGarbage
      rw [lexBehind, if_pos isGarbage, ih stillBehind, lexFrom, kind]
      cases opened with
      | none =>
          have text : here.upTo ⟨token.stop, (firstPiece c rest).2.2⟩ = (firstPiece c rest).2.1 :=
            Place.upTo_of_append whole.symm
          simp only [Option.getD_none, Option.elim_some, Option.elim_none, Place.garbage, text, here]
          rfl
      | some first =>
          obtain ⟨skipped, ahead⟩ := behind first rfl
          have soFar : first.upTo ⟨start, c :: rest⟩ = skipped := Place.upTo_of_append ahead.symm
          have longer : first.upTo ⟨token.stop, (firstPiece c rest).2.2⟩ =
              skipped ++ (firstPiece c rest).2.1 := by
            apply Place.upTo_of_append
            rw [List.append_assoc, whole, ahead]
          simp only [Option.getD_some, Option.elim_some, Place.garbage, soFar, longer, addFront_addFront]
          rfl
  | case3 opened start c rest token known ih =>
      have kind : (firstPiece c rest).1 ≠ .garbage := fun same => known (beq_iff_eq.2 same)
      rw [lexBehind, if_neg known, ih nofun, lexFrom, addFront_of_ne_garbage kind]
      cases opened with
      | none => rfl
      | some first =>
          simp only [Option.elim_some]
          rw [addFront_of_garbage rfl kind]
          rfl

theorem lex_eq_lexFrom (source : String) : lex source = lexFrom 0 source.toList := by
  rw [lex, lexBehind_eq none 0 source.toList nofun]
  rfl

/-! ### Laying out tokens -/

/-- The text of pieces that stand one behind the other. -/
def spell (pieces : List (TokenKind × List Char)) : List Char :=
  pieces.flatMap (·.2)

/-- Tokens of given kinds and texts that stand one behind the other. -/
def layOut (start : Nat) : List (TokenKind × List Char) → List Token
  | [] => []
  | (kind, text) :: rest => { kind, start, text } :: layOut (start + Text.utf8Length text) rest

/-- Pieces without garbage, each of which is as long as it can be in front of the others. -/
inductive Cut : List (TokenKind × List Char) → Prop where
  | nil : Cut []
  | cons {kind : TokenKind} {text : List Char} {rest : List (TokenKind × List Char)}
      (munch : Munch kind text (spell rest)) (known : kind ≠ .garbage) (others : Cut rest) :
      Cut ((kind, text) :: rest)

theorem spell_cons (kind : TokenKind) (text : List Char) (rest : List (TokenKind × List Char)) :
    spell ((kind, text) :: rest) = text ++ spell rest := rfl

theorem spell_append (first second : List (TokenKind × List Char)) :
    spell (first ++ second) = spell first ++ spell second :=
  List.flatMap_append

theorem layOut_append (start : Nat) (first second : List (TokenKind × List Char)) :
    layOut start (first ++ second) =
      layOut start first ++ layOut (start + Text.utf8Length (spell first)) second := by
  induction first generalizing start with
  | nil => rfl
  | cons piece rest ih =>
      rcases piece with ⟨kind, text⟩
      simp only [List.cons_append, layOut, spell_cons, Text.utf8Length_append, ih, Nat.add_assoc]

theorem flatMap_text_layOut (start : Nat) (pieces : List (TokenKind × List Char)) :
    (layOut start pieces).flatMap (·.text) = spell pieces := by
  induction pieces generalizing start with
  | nil => rfl
  | cons piece rest ih =>
      rcases piece with ⟨kind, text⟩
      simp only [layOut, List.flatMap_cons, spell_cons, ih]

theorem trimmedText_layOut (start : Nat) (pieces : List (TokenKind × List Char)) :
    trimmedText (layOut start pieces) = Text.trim (spell pieces) := by
  rw [trimmedText, flatMap_text_layOut]

theorem mem_of_mem_layOut {start : Nat} {pieces : List (TokenKind × List Char)} {token : Token}
    (member : token ∈ layOut start pieces) : (token.kind, token.text) ∈ pieces := by
  induction pieces generalizing start with
  | nil => cases member
  | cons piece rest ih =>
      rcases List.mem_cons.1 member with rfl | later
      · exact List.mem_cons_self
      · exact .tail _ (ih later)

/-- Pieces that are as long as they can be are the tokens of their text. -/
theorem lexFrom_spell {pieces : List (TokenKind × List Char)} (cut : Cut pieces) (start : Nat) :
    lexFrom start (spell pieces) = layOut start pieces := by
  induction cut generalizing start with
  | nil => exact lexFrom.eq_1 start
  | @cons kind text rest munch known others ih =>
      rcases List.exists_cons_of_ne_nil munch.ne_nil with ⟨c, tail, rfl⟩
      have first := firstPiece_eq_of_munch munch
      rw [spell_cons, List.cons_append, lexFrom, first, addFront_of_ne_garbage known, ih]
      rfl

end SqlMapper.Token
