import SqlMapper.Text.Blank
import SqlMapper.Text.Utf8

/-!
# Tokens of expressions

Tests and bind values are cut into tokens without loss: strings in either kind of quotes, the
operators, words, white space, and garbage for everything else.  A quote that is never closed makes
garbage of all that follows it.
-/

namespace SqlMapper

inductive TokenKind where
  | string
  | ne
  | eqEq
  | ge
  | le
  | gt
  | lt
  | plus
  | word
  | whitespace
  | garbage
deriving DecidableEq

def TokenKind.name : TokenKind → String
  | .string => "Str"
  | .ne => "Ne"
  | .eqEq => "EqEq"
  | .ge => "Ge"
  | .le => "Le"
  | .gt => "Gt"
  | .lt => "Lt"
  | .plus => "Plus"
  | .word => "Word"
  | .whitespace => "Whitespace"
  | .garbage => "Garbage"

/-- A piece of an expression. -/
structure Token where
  kind : TokenKind
  /-- Offset of the first byte in the expression. -/
  start : Nat
  text : List Char
deriving DecidableEq

namespace Token

/-- Offset behind the last byte. -/
def stop (token : Token) : Nat :=
  token.start + Text.utf8Length token.text

/-- A character of words: no white space, no quote and no part of an operator. -/
def isWordChar (c : Char) : Bool :=
  !Text.isBlank c && c != '!' && c != '=' && c != '<' && c != '>' && c != '+' && c != '"'
    && c != '\x27'

/-- A string up to its closing quote, or everything as garbage if there is none. -/
def quotedPiece (quote : Char) (rest : List Char) : TokenKind × List Char × List Char :=
  match rest.dropWhile (· != quote) with
  | [] => (.garbage, quote :: rest, [])
  | close :: after => (.string, quote :: rest.takeWhile (· != quote) ++ [close], after)

/-- The first piece of a nonempty text: its kind, its characters and what follows. -/
def firstPiece (c : Char) (rest : List Char) : TokenKind × List Char × List Char :=
  if Text.isBlank c then
    (.whitespace, c :: rest.takeWhile Text.isBlank, rest.dropWhile Text.isBlank)
  else if isWordChar c then
    (.word, c :: rest.takeWhile isWordChar, rest.dropWhile isWordChar)
  else
    match c, rest with
    | '\x27', _ | '"', _ => quotedPiece c rest
    | '!', '=' :: after => (.ne, ['!', '='], after)
    | '=', '=' :: after => (.eqEq, ['=', '='], after)
    | '>', '=' :: after => (.ge, ['>', '='], after)
    | '<', '=' :: after => (.le, ['<', '='], after)
    | '>', _ => (.gt, [c], rest)
    | '<', _ => (.lt, [c], rest)
    | '+', _ => (.plus, [c], rest)
    | _, _ => (.garbage, [c], rest)

theorem quotedPiece_append (quote : Char) (rest : List Char) :
    (quotedPiece quote rest).2.1 ++ (quotedPiece quote rest).2.2 = quote :: rest := by
  unfold quotedPiece
  split
  · simp
  · rename_i close after opened
    have whole := List.takeWhile_append_dropWhile (p := (· != quote)) (l := rest)
    rw [opened] at whole
    simp [whole]

theorem firstPiece_append (c : Char) (rest : List Char) :
    (firstPiece c rest).2.1 ++ (firstPiece c rest).2.2 = c :: rest := by
  unfold firstPiece
  repeat' split
  all_goals first
    | exact quotedPiece_append _ _
    | simp [List.takeWhile_append_dropWhile]

theorem firstPiece_nonempty (c : Char) (rest : List Char) : (firstPiece c rest).2.1 ≠ [] := by
  unfold firstPiece quotedPiece
  repeat' split
  all_goals simp

theorem firstPiece_shorter (c : Char) (rest : List Char) :
    (firstPiece c rest).2.2.length < (c :: rest).length := by
  have whole := congrArg List.length (firstPiece_append c rest)
  have := List.length_pos_iff.2 (firstPiece_nonempty c rest)
  simp only [List.length_append] at whole
  omega

/-- A place in an expression: its offset, and what stands behind it. -/
structure Place where
  offset : Nat
  ahead : List Char

namespace Place

/-- What stands between a place and a later one. -/
def upTo (first last : Place) : List Char :=
  first.ahead.take (first.ahead.length - last.ahead.length)

/-- One token of all the garbage between two places. -/
def garbage (first last : Place) : Token where
  kind := .garbage
  start := first.offset
  text := first.upTo last

end Place

/-- The tokens of a text that begins at an offset.  Garbage in front of it may still be open, from the place
on where it was met first: it goes on up to the next piece of another kind, or to the end. -/
def lexBehind (opened : Option Place) (start : Nat) : List Char → List Token
  | [] => (opened.map (·.garbage ⟨start, []⟩)).toList
  | c :: rest =>
    let here : Place := ⟨start, c :: rest⟩
    let token : Token := { kind := (firstPiece c rest).1, start, text := (firstPiece c rest).2.1 }
    if token.kind == .garbage then
      lexBehind (some (opened.getD here)) token.stop (firstPiece c rest).2.2
    else
      (opened.map (·.garbage here)).toList ++
        token :: lexBehind none token.stop (firstPiece c rest).2.2
termination_by text => text.length
decreasing_by all_goals exact firstPiece_shorter c rest

def lex (source : String) : List Token :=
  lexBehind none 0 source.toList

/-- The characters that tokens span, without white space around them. -/
def trimmedText (tokens : List Token) : List Char :=
  Text.trim (tokens.flatMap (·.text))

end Token

end SqlMapper
