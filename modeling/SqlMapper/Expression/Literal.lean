import SqlMapper.Value.Compare

/-!
# Literals

The right side of a comparison, and the constant parts of a bind value.
-/

namespace SqlMapper

/-- A constant in an expression. -/
inductive Literal where
  | null
  | bool (value : Bool)
  | int (value : Int64)
  | decimal (value : Decimal)
  | string (text : String)
deriving DecidableEq

namespace Literal

/-- The text inside a pair of equal quotes. -/
def unquote? : List Char → Option (List Char)
  | [] => none
  | quote :: rest =>
    if (quote == '\x27' || quote == '"') && rest.getLast? == some quote then some rest.dropLast
    else none

/-- The literal that a text writes: null, a quoted string, a Boolean, a whole number, a decimal
number, and otherwise the text itself. -/
def parse (text : List Char) : Literal :=
  let text := Text.trim text
  if text == "null".toList then .null
  else
    match unquote? text with
    | some inner => .string (String.ofList inner)
    | none =>
      match Value.parseBool? (String.ofList text) with
      | some value => .bool value
      | none =>
        match Text.readInt64? text with
        | some value => .int value
        | none =>
          match Decimal.read? text with
          | some value => .decimal value
          | none => .string (String.ofList text)

def toValue : Literal → Value
  | .null => .null
  | .bool value => .bool value
  | .int value => .int value
  | .decimal value => .decimal value
  | .string text => .string text

theorem unquote?_quoted {quote : Char} (isQuote : quote ∈ ['\x27', '"']) (inner : List Char) :
    unquote? (quote :: (inner ++ [quote])) = some inner := by
  have known : (quote == '\x27' || quote == '"') = true := by simpa using isQuote
  simp [unquote?, known]

theorem parse_quoted {quote : Char} (isQuote : quote ∈ ['\x27', '"']) {text inner : List Char}
    (quoted : Text.trim text = quote :: (inner ++ [quote])) :
    parse text = .string (String.ofList inner) := by
  have notNull : (quote :: (inner ++ [quote]) == "null".toList) = false := by
    rw [beq_eq_false_iff_ne]
    intro null
    have same : quote = 'n' := (List.cons.inj null).1
    rw [same] at isQuote
    exact absurd isQuote (by decide)
  simp only [parse, quoted, notNull, Bool.false_eq_true, if_false, unquote?_quoted isQuote]

end Literal

end SqlMapper
