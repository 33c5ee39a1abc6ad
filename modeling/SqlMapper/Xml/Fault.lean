/-!
# Faults of XML

Why a source cannot be read as XML.  Positions in an attribute list count bytes from behind the
`<` of the tag, positions in text or in an attribute value from its beginning.
-/

namespace SqlMapper.Xml

/-- Why the digits of a character reference are no number. -/
inductive NumberFault where
  | empty
  | invalidDigit
  | tooLarge
deriving DecidableEq

/-- Why a source is no XML. -/
inductive Fault where
  | unknownMarkup
  | unclosedTag
  | unclosedComment
  | unclosedCharacterData
  | unclosedDoctype
  | unclosedInstruction
  | unnamedDoctype
  | unmatchedEnd (found : String)
  | mismatchedEnd (expected found : String)
  | missingEquals (position : Nat)
  | missingValue (position : Nat)
  | unquotedValue (position : Nat)
  | unclosedValue (position : Nat) (quote : Char)
  | repeatedAttribute (position previous : Nat)
  | unknownEntity (start stop : Nat) (name : String)
  | unterminatedEntity (start stop : Nat)
  | signedReference
  | unreadableReference (fault : NumberFault)
  | invalidCodePoint (point : Nat)
  | illegalCharacter (point : Nat)
deriving DecidableEq

namespace Fault

/-- The wording of a fault in digits. -/
def numberMessage : NumberFault → String
  | .empty => "cannot parse integer from empty string"
  | .invalidDigit => "invalid digit found in string"
  | .tooLarge => "number too large to fit in target type"

/-- The wording of a piece of markup that the source ends in. -/
def unclosed (what close : String) : String :=
  s!"syntax error: {what} not closed: `{close}` not found before end of input"

/-- The wording of a fault in an attribute list. -/
def inAttributes (position : Nat) (problem : String) : String :=
  s!"position {position}: {problem}"

/-- The wording of a fault in a character reference. -/
def reference (problem : String) : String :=
  s!"invalid character reference: {problem}"

def message : Fault → String
  | .unknownMarkup => "syntax error: unknown or missed symbol in markup"
  | .unclosedTag => unclosed "tag" ">"
  | .unclosedComment => unclosed "comment" "-->"
  | .unclosedCharacterData => unclosed "CDATA" "]]>"
  | .unclosedDoctype => unclosed "DOCTYPE" ">"
  | .unclosedInstruction => unclosed "processing instruction or xml declaration" "?>"
  | .unnamedDoctype =>
    "ill-formed document: `<!DOCTYPE>` declaration does not contain a name of a document type"
  | .unmatchedEnd found =>
    s!"ill-formed document: close tag `</{found}>` does not match any open tag"
  | .mismatchedEnd expected found =>
    s!"ill-formed document: expected `</{expected}>`, but `</{found}>` was found"
  | .missingEquals position =>
    inAttributes position "attribute key must be directly followed by `=` or space"
  | .missingValue position => inAttributes position "`=` must be followed by an attribute value"
  | .unquotedValue position =>
    inAttributes position "attribute value must be enclosed in `\"` or `'`"
  | .unclosedValue position quote =>
    inAttributes position s!"missing closing quote `{quote}` in attribute value"
  | .repeatedAttribute position previous =>
    inAttributes position s!"duplicated attribute, previous declaration at position {previous}"
  | .unknownEntity start stop name => s!"at {start}..{stop}: unrecognized entity `{name}`"
  | .unterminatedEntity start stop =>
    s!"Error while escaping character at range {start}..{stop}: Cannot find ';' after '&'"
  | .signedReference => reference "unexpected number sign"
  | .unreadableReference fault => reference (numberMessage fault)
  | .invalidCodePoint point => reference s!"`{point}` is not a valid codepoint"
  | .illegalCharacter point =>
    reference s!"0x{String.ofList (Nat.toDigits 16 point)} character is not permitted in XML"

end Fault

end SqlMapper.Xml
