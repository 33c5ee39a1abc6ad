import SqlMapper.Template.Node
import SqlMapper.Text.Blank

/-!
# Placeholders in text

A placeholder is a hash or a dollar sign followed by a name in braces.  Whatever is no complete
placeholder with a name stays literal text.
-/

namespace SqlMapper

/-- A stretch of template text. -/
inductive TextPiece where
  | literal (text : List Char)
  | placeholder (name : List Char) (raw : Bool)
deriving DecidableEq

namespace TextPiece

/-- Whether a character begins a placeholder, and whether that is a raw one. -/
def sigil? : Char → Option Bool
  | '#' => some false
  | '$' => some true
  | _ => none

/-- The placeholder at the beginning of a text, and what follows it. -/
def placeholder? : List Char → Option (TextPiece × List Char)
  | c :: '\x7b' :: rest =>
    match sigil? c, Text.trim (rest.takeWhile (· != '\x7d')), rest.dropWhile (· != '\x7d') with
    | some raw, first :: name, _ :: after => some (.placeholder (first :: name) raw, after)
    | _, _, _ => none
  | _ => none

theorem placeholder?_shorter {text after : List Char} {piece : TextPiece}
    (found : placeholder? text = some (piece, after)) : after.length < text.length := by
  unfold placeholder? at found
  split at found
  · rename_i c rest
    split at found
    · rename_i close _ _ _ closed
      have := (List.dropWhile_suffix (· != '\x7d') (l := rest)).length_le
      rw [closed] at this
      simp only [Option.some.injEq, Prod.mk.injEq] at found
      obtain ⟨_, rfl⟩ := found
      simp only [List.length_cons] at this ⊢
      omega
    · simp at found
  · simp at found

/-- Puts a literal character in front of pieces. -/
def addChar (c : Char) : List TextPiece → List TextPiece
  | .literal text :: rest => .literal (c :: text) :: rest
  | pieces => .literal [c] :: pieces

/-- The pieces of a text from left to right. -/
def split (text : List Char) : List TextPiece :=
  match text with
  | [] => []
  | c :: rest =>
    match _ : placeholder? (c :: rest) with
    | some (piece, after) => piece :: split after
    | none => addChar c (split rest)
termination_by text.length
decreasing_by
  · exact placeholder?_shorter (by assumption)
  · simp

def toNode : TextPiece → Node
  | .literal text => .text (String.ofList text)
  | .placeholder name raw => .parameter (String.ofList name) raw

end TextPiece

namespace Node

def scan (text : String) : List Node :=
  (TextPiece.split text.toList).map TextPiece.toNode

/-- Adds text behind nodes; two texts in a row become one. -/
def appendText (text : String) : List Node → List Node
  | [] => [.text text]
  | [.text last] => [.text (last ++ text)]
  | node :: rest => node :: appendText text rest

/-- Adds a node behind others, empty text not at all and text to a text before it. -/
def append (nodes : List Node) : Node → List Node
  | .text content => if content.isEmpty then nodes else appendText content nodes
  | node => nodes ++ [node]

/-- Adds nodes behind others one by one. -/
def appendAll (nodes added : List Node) : List Node :=
  added.foldl append nodes

end Node

end SqlMapper
