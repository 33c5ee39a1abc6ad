import SqlMapper.Expression.Bind
import SqlMapper.Expression.Test
import SqlMapper.Proofs.Expression.Shape

/-!
# Quoted literals

Tests and bind values read their literals from pieces of their tokens.  A piece between equal quotes is
read as a string whatever stands between them; `TakenFrom.quoted_iff` says that it is one string of
the expression exactly if its quote does not occur inside.
-/

namespace SqlMapper

open Token

/-! ### Pieces between tokens -/

/-- How tokens fall into pieces between some that are left out. -/
inductive Parted : List Token → List (List Token) → Prop where
  | nil : Parted [] [[]]
  | drop (token : Token) {rest : List Token} {pieces : List (List Token)} (parted : Parted rest pieces) :
      Parted (token :: rest) ([] :: pieces)
  | keep (token : Token) {rest piece : List Token} {pieces : List (List Token)}
      (parted : Parted rest (piece :: pieces)) : Parted (token :: rest) ((token :: piece) :: pieces)

theorem Junction.parted_split (junction : Junction) (afterBlank : Bool) (tokens : List Token) :
    Parted tokens (junction.split afterBlank tokens) := by
  induction tokens generalizing afterBlank with
  | nil => exact .nil
  | cons token rest ih =>
      simp only [Junction.split]
      split
      · exact .drop token (ih false)
      · have parted := ih (token.kind == .whitespace)
        split
        · rename_i empty
          rw [empty] at parted
          cases parted
        · rename_i piece pieces found
          rw [found] at parted
          exact .keep token parted

theorem Bind.parted_pieces (tokens : List Token) : Parted tokens (Bind.pieces tokens) := by
  induction tokens with
  | nil => exact .nil
  | cons token rest ih =>
      simp only [Bind.pieces]
      split
      · exact .drop token ih
      · split
        · rename_i empty
          rw [empty] at ih
          cases ih
        · rename_i piece pieces found
          rw [found] at ih
          exact .keep token ih

theorem Parted.prefix_infix {tokens : List Token} {pieces : List (List Token)}
    (parted : Parted tokens pieces) :
    (∀ piece ∈ pieces.head?, piece <+: tokens) ∧ ∀ piece ∈ pieces, piece <:+: tokens := by
  induction parted with
  | nil => simp
  | drop token parted ih =>
      refine ⟨by simp, List.forall_mem_cons.2 ⟨List.nil_infix, ?_⟩⟩
      exact fun piece member => (ih.2 piece member).trans (List.suffix_cons _ _).isInfix
  | @keep token rest piece pieces parted ih =>
      have first : token :: piece <+: token :: rest := (List.prefix_cons_inj token).2 (ih.1 piece rfl)
      refine ⟨by simpa using first, List.forall_mem_cons.2 ⟨first.isInfix, ?_⟩⟩
      intro other member
      exact (ih.2 other (List.mem_cons_of_mem _ member)).trans (List.suffix_cons _ _).isInfix

theorem Parted.infix_of_mem {tokens : List Token} {pieces : List (List Token)}
    (parted : Parted tokens pieces) : ∀ piece ∈ pieces, piece <:+: tokens :=
  parted.prefix_infix.2

theorem Token.Shaped.of_parted {tokens : List Token} {pieces : List (List Token)} (shaped : Shaped tokens)
    (parted : Parted tokens pieces) : ∀ piece ∈ pieces, Shaped piece := by
  induction parted with
  | nil => exact List.forall_mem_singleton.2 .nil
  | drop token parted ih => exact List.forall_mem_cons.2 ⟨.nil, ih shaped.of_cons⟩
  | @keep token rest piece pieces parted ih =>
      have others := List.forall_mem_cons.1 (ih shaped.of_cons)
      refine List.forall_mem_cons.2 ⟨?_, others.2⟩
      cases shaped with
      | unclosed start isQuote unclosed =>
          cases parted
          exact .unclosed start isQuote unclosed
      | cons look _ => exact .cons look others.1

theorem Token.Shaped.of_suffix {tokens piece : List Token} (shaped : Shaped tokens)
    (behind : piece <:+ tokens) : Shaped piece := by
  rcases behind with ⟨front, rfl⟩
  induction front with
  | nil => exact shaped
  | cons token rest ih => exact ih shaped.of_cons

/-! ### Where literals come from -/

/-- The tokens of each condition of a test. -/
def Test.pieces (source : String) : List (List Token) :=
  if 1 < (Junction.all.split false (lex source)).length then Junction.all.split false (lex source)
  else if 1 < (Junction.any.split false (lex source)).length then Junction.any.split false (lex source)
  else [lex source]

theorem Test.atoms_parse (source : String) :
    (Test.parse source).atoms = (Test.pieces source).map Atom.parse := by
  by_cases several : 1 < (Junction.all.split false (lex source)).length
  · simp [Test.parse, Test.pieces, several]
  · by_cases choices : 1 < (Junction.any.split false (lex source)).length
    · simp [Test.parse, Test.pieces, several, choices]
    · simp [Test.parse, Test.pieces, several, choices]

theorem Test.shaped_of_mem_pieces {source : String} : ∀ piece ∈ Test.pieces source, Shaped piece := by
  have shaped := shaped_lex source
  unfold Test.pieces
  split
  · exact shaped.of_parted (Junction.all.parted_split false _)
  · split
    · exact shaped.of_parted (Junction.any.parted_split false _)
    · exact List.forall_mem_singleton.2 shaped

/-- The tokens behind the operator of a condition. -/
def Atom.operand (op : CompareOp) (tokens : List Token) : List Token :=
  (tokens.dropWhile fun token => token.kind != op.tokenKind).tail

theorem Atom.operand_suffix (op : CompareOp) (tokens : List Token) : Atom.operand op tokens <:+ tokens :=
  (List.tail_suffix _).trans (List.dropWhile_suffix _)

theorem Atom.literal_of_parse {tokens : List Token} {path : Path} {op : CompareOp} {literal : Literal}
    (read : Atom.parse tokens = .compare path op literal) :
    literal = Literal.parse (trimmedText (Atom.operand op tokens)) := by
  simp only [Atom.parse] at read
  split at read
  · split at read <;> cases read
  · split at read
    · cases read
    · split at read
      · cases read
      · cases read
        rfl

/-- The parts of a bind value are what its pieces spell, or there are none. -/
theorem Bind.parts_parse (source : String) :
    (Bind.parse source).parts =
      ((Bind.pieces (lex source)).mapM fun piece => BindPart.parse? (trimmedText piece)).getD [] := by
  unfold Bind.parse
  split <;> rename_i read <;> rw [read] <;> rfl

theorem getElem?_of_mapM {α β : Type} {f : α → Option β} {xs : List α} {ys : List β}
    (all : xs.mapM f = some ys) (i : Nat) : ys[i]? = xs[i]?.bind f := by
  induction xs generalizing ys i with
  | nil =>
      cases all
      rfl
  | cons x rest ih =>
      simp only [List.mapM_cons, Option.bind_eq_bind, Option.bind_eq_some_iff, Option.pure_def,
        Option.some.injEq] at all
      rcases all with ⟨y, first, others, more, rfl⟩
      cases i with
      | zero => exact first.symm
      | succ i => exact ih more i

theorem Bind.parse?_of_getElem? {source : String} {i : Nat} {tokens : List Token} {part : BindPart}
    (piece : (Bind.pieces (lex source))[i]? = some tokens)
    (found : (Bind.parse source).parts[i]? = some part) :
    BindPart.parse? (trimmedText tokens) = some part := by
  rw [Bind.parts_parse] at found
  cases read : (Bind.pieces (lex source)).mapM fun piece => BindPart.parse? (trimmedText piece) with
  | none =>
      rw [read] at found
      cases found
  | some parts =>
      rw [read, Option.getD_some, getElem?_of_mapM read, piece] at found
      exact found

theorem Bind.shaped_of_mem_pieces {source : String} :
    ∀ piece ∈ Bind.pieces (lex source), Shaped piece :=
  (shaped_lex source).of_parted (Bind.parted_pieces _)

theorem BindPart.parse?_quoted {quote : Char} (isQuote : quote ∈ quotes) (inner : List Char) :
    BindPart.parse? (quote :: (inner ++ [quote])) = some (.literal (.string (String.ofList inner))) := by
  simp [BindPart.parse?, Literal.unquote?_quoted isQuote]

theorem Literal.parse_trimmedText {tokens : List Token} {quote : Char} (isQuote : quote ∈ quotes)
    {inner : List Char} (quoted : trimmedText tokens = quote :: (inner ++ [quote])) :
    Literal.parse (trimmedText tokens) = .string (String.ofList inner) :=
  Literal.parse_quoted isQuote (by rw [quoted, trim_quoted isQuote])

namespace Literal

/-- The literals of tests and bind values, each with the tokens that it is read from. -/
inductive TakenFrom (source : String) : List Token → Literal → Prop where
  | test {i : Nat} {tokens : List Token} {path : Path} {op : CompareOp} {literal : Literal}
      (piece : (Test.pieces source)[i]? = some tokens)
      (atom : (Test.parse source).atoms[i]? = some (.compare path op literal)) :
      TakenFrom source (Atom.operand op tokens) literal
  | bind {i : Nat} {tokens : List Token} {literal : Literal}
      (piece : (Bind.pieces (lex source))[i]? = some tokens)
      (part : (Bind.parse source).parts[i]? = some (.literal literal)) : TakenFrom source tokens literal

variable {source : String} {piece : List Token} {literal : Literal}

theorem TakenFrom.shaped (taken : TakenFrom source piece literal) : Shaped piece := by
  cases taken with
  | test piece atom =>
      exact (Test.shaped_of_mem_pieces _ (List.mem_of_getElem? piece)).of_suffix (Atom.operand_suffix _ _)
  | bind piece part => exact Bind.shaped_of_mem_pieces _ (List.mem_of_getElem? piece)

theorem TakenFrom.eq_string (taken : TakenFrom source piece literal) {quote : Char} {inner : List Char}
    (isQuote : quote ∈ quotes) (quoted : trimmedText piece = quote :: (inner ++ [quote])) :
    literal = .string (String.ofList inner) := by
  cases taken with
  | test piece atom =>
      rw [Test.atoms_parse, List.getElem?_map, piece] at atom
      rw [Atom.literal_of_parse (Option.some.inj atom), parse_trimmedText isQuote quoted]
  | bind piece part =>
      have read := Bind.parse?_of_getElem? piece part
      rw [quoted, BindPart.parse?_quoted isQuote] at read
      cases read
      rfl

/-- A literal from a piece between equal quotes is the text between them, whatever that is.  The piece is
one string exactly if its quote does not occur in this text. -/
theorem TakenFrom.quoted_iff (taken : TakenFrom source piece literal) {quote : Char} {inner : List Char}
    (isQuote : quote ∈ quotes) (quoted : trimmedText piece = quote :: (inner ++ [quote])) :
    literal = .string (String.ofList inner) ∧ (IsOneString piece ↔ quote ∉ inner) :=
  ⟨taken.eq_string isQuote quoted, taken.shaped.isOneString_iff isQuote quoted⟩

theorem TakenFrom.not_isOneString (taken : TakenFrom source piece literal) {quote : Char}
    {inner : List Char} (isQuote : quote ∈ quotes)
    (quoted : trimmedText piece = quote :: (inner ++ [quote])) (again : quote ∈ inner) :
    ¬IsOneString piece :=
  fun one => (taken.shaped.isOneString_iff isQuote quoted).1 one again

theorem takenFrom_of_comparison (path : Path) {op : CompareOp} (whole : Test.pieces source = [lex source])
    (atoms : (Test.parse source).atoms = [.compare path op literal]) :
    TakenFrom source (Atom.operand op (lex source)) literal :=
  .test (i := 0) (by rw [whole]; rfl) (by rw [atoms]; rfl)

theorem quoted_iff_other_quote :
    TakenFrom "name == \"it's\"" (Atom.operand .eq (lex "name == \"it's\"")) (.string "it's") ∧
      Literal.string "it's" = .string (String.ofList "it's".toList) ∧
      (IsOneString (Atom.operand .eq (lex "name == \"it's\"")) ↔ '"' ∉ "it's".toList) := by
  have taken : TakenFrom "name == \"it's\"" (Atom.operand .eq (lex "name == \"it's\"")) (.string "it's") :=
    takenFrom_of_comparison { head := "name", rest := [] } (by decide +kernel) (by decide +kernel)
  exact ⟨taken, taken.quoted_iff (by decide) (by decide +kernel)⟩

/-- Strings with a word between them are taken for one literal, of a bind value and of a test. -/
theorem two_strings_taken :
    (∃ piece, TakenFrom "'a' b 'c'" piece (.string "a' b 'c") ∧
        trimmedText piece = "'a' b 'c'".toList ∧ ¬IsOneString piece) ∧
      ∃ piece, TakenFrom "a == 'x' b 'y'" piece (.string "x' b 'y") ∧
        trimmedText piece = "'x' b 'y'".toList ∧ ¬IsOneString piece := by
  constructor
  · have taken : TakenFrom "'a' b 'c'" (lex "'a' b 'c'") (.string "a' b 'c") :=
      .bind (i := 0) (by decide +kernel) (by decide +kernel)
    have text : trimmedText (lex "'a' b 'c'") = '\x27' :: ("a' b 'c".toList ++ ['\x27']) := by
      decide +kernel
    exact ⟨_, taken, text, taken.not_isOneString (by decide) text (by decide +kernel)⟩
  · have taken : TakenFrom "a == 'x' b 'y'" (Atom.operand .eq (lex "a == 'x' b 'y'")) (.string "x' b 'y") :=
      takenFrom_of_comparison { head := "a", rest := [] } (by decide +kernel) (by decide +kernel)
    have text : trimmedText (Atom.operand .eq (lex "a == 'x' b 'y'")) =
        '\x27' :: ("x' b 'y".toList ++ ['\x27']) := by
      decide +kernel
    exact ⟨_, taken, text, taken.not_isOneString (by decide) text (by decide +kernel)⟩

end Literal

end SqlMapper
