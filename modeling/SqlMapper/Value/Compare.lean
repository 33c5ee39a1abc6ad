import SqlMapper.Decimal.Reading
import SqlMapper.Value.Text

/-!
# Comparing values

Truth and comparison are total: operands that have no common form compare as false.  Null equals
only null and has no order; identifiers compare as their text; numbers compare by value; a string
beside a number or a Boolean is read as one where that is possible.
-/

namespace SqlMapper

inductive CompareOp where
  | ne
  | eq
  | ge
  | le
  | gt
  | lt
deriving DecidableEq

namespace CompareOp

/-- The operators in the order in which a condition is searched for them; each operator of two
characters stands before the one that it begins with. -/
def trialOrder : List CompareOp := [.ne, .eq, .ge, .le, .gt, .lt]

/-- The spelling in conditions. -/
def symbol : CompareOp → String
  | .ne => "!="
  | .eq => "=="
  | .ge => ">="
  | .le => "<="
  | .gt => ">"
  | .lt => "<"

/-- The name of the operator in generated functions. -/
def name : CompareOp → String
  | .ne => "Ne"
  | .eq => "Eq"
  | .ge => "Ge"
  | .le => "Le"
  | .gt => "Gt"
  | .lt => "Lt"

/-- Whether the operator holds of two things in a given order. -/
def accepts : CompareOp → Ordering → Bool
  | .ne, order => order != .eq
  | .eq, order => order == .eq
  | .ge, order => order != .lt
  | .le, order => order != .gt
  | .gt, order => order == .gt
  | .lt, order => order == .lt

end CompareOp

namespace Value

/-- The truth of a value that stands alone: null, empty strings and empty lists are false. -/
def truthy : Value → Bool
  | .null => false
  | .bool value => value
  | .string text => !text.isEmpty
  | .list items => !items.isEmpty
  | _ => true

/-- `true` or `false` in any case, with white space around it. -/
def parseBool? (text : String) : Option Bool :=
  let word := Text.trimmed text
  if Text.sameIgnoringCase word "true" then some true
  else if Text.sameIgnoringCase word "false" then some false
  else none

mutual

/-- Equality of two values of one kind.  Decimals are equal in value, whatever their places. -/
def same : Value → Value → Bool
  | .null, .null => true
  | .bool left, .bool right => left == right
  | .int left, .int right => left == right
  | .decimal left, .decimal right => left.equal right
  | .string left, .string right => left == right
  | .identifier left, .identifier right => left == right
  | .list left, .list right => sameItems left right
  | .object leftShape left, .object rightShape right =>
    leftShape == rightShape && sameFields left right
  | _, _ => false

def sameItems : List Value → List Value → Bool
  | [], [] => true
  | left :: leftRest, right :: rightRest => same left right && sameItems leftRest rightRest
  | _, _ => false

/-- Equality of fields in order, names included. -/
def sameFields : List (String × Value) → List (String × Value) → Bool
  | [], [] => true
  | (leftName, left) :: leftRest, (rightName, right) :: rightRest =>
    leftName == rightName && same left right && sameFields leftRest rightRest
  | _, _ => false

end

/-- Identifiers as their text, everything else unchanged. -/
def canonical : Value → Value
  | .identifier name => .string name.text
  | other => other

/-- The value in the form that another one has, if it can be read that way. -/
def coerce? (value like : Value) : Option Value :=
  match like, value with
  | .int _, .int n => some (.int n)
  | .int _, .decimal number => if number.isWhole then number.toInt64?.map .int else none
  | .int _, .string text => (Text.readInt64? (Text.trim text.toList)).map .int
  | .decimal _, .int n => some (.decimal (.ofInt64 n))
  | .decimal _, .decimal number => some (.decimal number)
  | .decimal _, .string text => (Decimal.read? (Text.trim text.toList)).map .decimal
  | .bool _, .bool b => some (.bool b)
  | .bool _, .string text => (parseBool? text).map .bool
  | .string _, .list _ => none
  | .string _, .object _ _ => none
  | .string _, scalar => some (.string scalar.toText)
  | _, _ => none

/-- Equality after conversion: numbers by value, otherwise one side in the form of the other,
otherwise the texts. -/
def looselyEqual (left right : Value) : Bool :=
  if same left right then true
  else
    match left.decimal?, right.decimal? with
    | some l, some r => l.equal r
    | _, _ =>
      match right.coerce? left with
      | some r => same left r
      | none =>
        match left.coerce? right with
        | some l => same l right
        | none => left.toText == right.toText

/-- The order of two values, where the left one is a number, a string or a Boolean and the right
one can be read as such. -/
def order? (left right : Value) : Option Ordering :=
  match left with
  | .int _ | .decimal _ => do
    let l ← left.decimal?
    let r ← match right with
      | .string text => Decimal.read? (Text.trim text.toList)
      | other => other.decimal?
    some (l.order r)
  | .string l =>
    match right.coerce? left with
    | some (.string r) => some (compare l r)
    | _ => none
  | .bool l =>
    match right.coerce? left with
    | some (.bool r) => some (compare l r)
    | _ => none
  | _ => none

/-- Whether `left op right` holds. -/
def compare (left : Value) (op : CompareOp) (right : Value) : Bool :=
  if left.isNull || right.isNull then
    let both := left.isNull && right.isNull
    match op with
    | .eq => both
    | .ne => !both
    | _ => false
  else
    let left := left.canonical
    let right := right.canonical
    match op with
    | .eq => looselyEqual left right
    | .ne => !looselyEqual left right
    | _ =>
      match order? left right with
      | some order => op.accepts order
      | none => false

end Value

end SqlMapper
