import SqlMapper.Text.AsciiCase
import SqlMapper.Text.Quoted
import SqlMapper.Text.Split
import SqlMapper.Text.Utf8

/-!
# Safe identifiers

A safe identifier is a dotted name of tables and columns that may be spliced into SQL as it is: at
most 128 bytes of ASCII letters, digits and underscores in nonempty segments, none of which is an
operator on whole queries.  The type holds the proof, so every such value passed the check.
-/

namespace SqlMapper

namespace SafeIdentifier

/-- Why a text is no safe identifier. -/
inductive Problem where
  | empty
  | tooLong
  | invalidCharacter (found : Char)
  | malformedPath (text : String)
  | forbiddenKeyword (keyword : String)
  | notAllowed (text : String)
deriving DecidableEq

/-- Most bytes that an identifier may have. -/
abbrev maxLength : Nat := 128

/-- Operators that would join another query. -/
def setOperators : List String := ["UNION", "INTERSECT", "EXCEPT", "MINUS"]

def isSegmentChar (c : Char) : Bool :=
  c.isAlphanum || c == '_'

def isIdentifierChar (c : Char) : Bool :=
  isSegmentChar c || c == '.'

/-- The set operator that a segment spells, whatever its case. -/
def setOperator? (segment : String) : Option String :=
  setOperators.find? (Text.sameIgnoringCase segment ·)

/-- The first rule that a text breaks. -/
def problem? (text : String) : Option Problem :=
  let segments := Text.splitString '.' text
  if text.isEmpty then some .empty
  else if Text.utf8Length text.toList > maxLength then some .tooLong
  else
    match text.toList.find? (!isIdentifierChar ·) with
    | some found => some (.invalidCharacter found)
    | none =>
      if segments.any (·.isEmpty) then some (.malformedPath text)
      else (segments.findSome? setOperator?).map .forbiddenKeyword

def Problem.name : Problem → String
  | .empty => "Empty"
  | .tooLong => "TooLong"
  | .invalidCharacter _ => "InvalidCharacter"
  | .malformedPath _ => "MalformedPath"
  | .forbiddenKeyword _ => "ForbiddenKeyword"
  | .notAllowed _ => "NotAllowed"

def Problem.message : Problem → String
  | .empty => "identifier is empty"
  | .tooLong => s!"identifier is longer than {maxLength} bytes"
  | .invalidCharacter found => s!"identifier contains forbidden character {Text.quotedChar found}"
  | .malformedPath text => s!"identifier `{text}` has an empty path segment"
  | .forbiddenKeyword keyword => s!"identifier contains set operator `{keyword}`"
  | .notAllowed text => s!"`{text}` is not one of the allowed identifiers"

end SafeIdentifier

/-- Enumerations whose members are declared under names. -/
class Enumerant (α : Type) where
  declaredName : α → String

/-- A dotted name that may be spliced into SQL. -/
structure SafeIdentifier where
  /-- The name as given. -/
  text : String
  sound : SafeIdentifier.problem? text = none
deriving DecidableEq

namespace SafeIdentifier

/-- Admits a text that breaks no rule. -/
def ofText (text : String) : Except Problem SafeIdentifier :=
  match sound : problem? text with
  | none => .ok { text, sound }
  | some problem => .error problem

/-- Admits a text that breaks no rule and is one of the allowed ones. -/
def ofAllowed (text : String) (allowed : List String) : Except Problem SafeIdentifier :=
  match ofText text with
  | .error problem => .error problem
  | .ok identifier => if text ∈ allowed then .ok identifier else .error (.notAllowed text)

/-- Admits the name of a member of an enumeration, if it breaks no rule. -/
def ofMember {α : Type} [Enumerant α] (member : α) : Except Problem SafeIdentifier :=
  ofText (Enumerant.declaredName member)

theorem isIdentifierChar_of_mem (identifier : SafeIdentifier) {c : Char}
    (member : c ∈ identifier.text.toList) : isIdentifierChar c = true := by
  have sound := identifier.sound
  simp only [problem?] at sound
  split at sound
  · cases sound
  · split at sound
    · cases sound
    · split at sound
      · cases sound
      · rename_i clean
        simpa using List.find?_eq_none.1 clean c member

theorem ofText_eq_ok_iff {text : String} {identifier : SafeIdentifier} :
    ofText text = .ok identifier ↔ identifier.text = text := by
  obtain ⟨name, sound⟩ := identifier
  unfold ofText
  constructor
  · intro admitted
    split at admitted
    · simp_all
    · simp at admitted
  · rintro rfl
    split
    · rfl
    · simp_all

theorem ofText_eq_error_iff {text : String} {problem : Problem} :
    ofText text = .error problem ↔ problem? text = some problem := by
  unfold ofText
  split <;> simp_all

end SafeIdentifier

end SqlMapper
