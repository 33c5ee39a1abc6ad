import SqlMapper.Text.Unprintable
import SqlMapper.Text.GraphemeExtend

/-!
# Quoted text

A text between quotes on one line: the quote and the backslash follow a backslash, the common
control characters have a letter, and whatever has no visible form of its own, or would attach to
the character before it, is written by its number.
-/

namespace SqlMapper.Text.Quoted

/-- The spelling of a character inside quotes of the given kind. -/
def escape (quote c : Char) : List Char :=
  if c == quote || c == '\\' then ['\\', c]
  else if c == '\n' then ['\\', 'n']
  else if c == '\r' then ['\\', 'r']
  else if c == '\t' then ['\\', 't']
  else if c == '\x00' then ['\\', '0']
  else if extendsGrapheme c || isUnprintable c then
    "\\u\x7b".toList ++ Nat.toDigits 16 c.toNat ++ ['\x7d']
  else [c]

def encode (quote : Char) (text : List Char) : List Char :=
  quote :: text.flatMap (escape quote) ++ [quote]

end Quoted

def quoted (text : String) : String :=
  String.ofList (Quoted.encode '"' text.toList)

def quotedChar (c : Char) : String :=
  String.ofList (Quoted.encode '\x27' [c])

end SqlMapper.Text
