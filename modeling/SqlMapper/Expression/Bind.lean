import SqlMapper.Expression.Literal
import SqlMapper.Expression.Path
import SqlMapper.Expression.Token

/-!
# Bind values

The value of a `bind` element is a literal or a path, or several of them joined with `+`.
-/

namespace SqlMapper

inductive BindPart where
  | literal (value : Literal)
  | path (path : Path)
deriving DecidableEq

/-- A parsed bind value. -/
inductive Bind where
  /-- One part; its value is bound unchanged. -/
  | single (part : BindPart)
  /-- Several parts; their texts are bound joined. -/
  | concat (parts : List BindPart)
  /-- A value that cannot be read; null is bound. -/
  | invalid (text : String)
deriving DecidableEq

namespace BindPart

/-- The part that a text spells: a literal, or else a path. -/
def parse? (text : List Char) : Option BindPart :=
  if text.isEmpty then none
  else
    match Literal.unquote? text with
    | some inner => some (.literal (.string (String.ofList inner)))
    | none =>
      match Literal.parse text with
      | .string _ => (Path.parse? text).map .path
      | constant => some (.literal constant)

end BindPart

namespace Bind

/-- The token lists between plus signs. -/
def pieces : List Token → List (List Token)
  | [] => [[]]
  | token :: rest =>
    if token.kind == .plus then [] :: pieces rest
    else
      match pieces rest with
      | [] => [[token]]
      | piece :: others => (token :: piece) :: others

/-- The bind value that a text spells. -/
def parse (source : String) : Bind :=
  match (pieces (Token.lex source)).mapM fun piece => BindPart.parse? (Token.trimmedText piece) with
  | none => .invalid (Text.trimmed source)
  | some [part] => .single part
  | some parts => .concat parts

/-- The parts of a bind value, none if it cannot be read. -/
def parts : Bind → List BindPart
  | .single part => [part]
  | .concat parts => parts
  | .invalid _ => []

end Bind

end SqlMapper
