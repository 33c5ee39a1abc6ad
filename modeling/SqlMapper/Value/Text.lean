import SqlMapper.Value.Json

/-!
# The text of a value

What a value becomes when it is spliced into SQL or joined with other text: nothing for null, the
bare items of a list with commas between, the JSON form of an object.
-/

namespace SqlMapper.Value

mutual

/-- The text of a value. -/
def toText : Value → String
  | .null => ""
  | .bool value => if value then "true" else "false"
  | .int value => toString value.toInt
  | .decimal value => value.normalize.toText
  | .string text => text
  | .identifier name => name.text
  | .list items => ",".intercalate (itemTexts items)
  | .object shape fields => (toJson (.object shape fields)).compact

def itemTexts : List Value → List String
  | [] => []
  | item :: rest => toText item :: itemTexts rest

end

end SqlMapper.Value
