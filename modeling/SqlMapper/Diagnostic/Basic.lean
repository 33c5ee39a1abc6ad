import SqlMapper.Mapper.Basic

/-!
# Diagnostics

What is found wrong with a mapper, in the order in which it is found.  The kind of a finding alone
decides how severe it is, how it is worded and which remedy is named.
-/

namespace SqlMapper

inductive Severity where
  | error
  | warning
deriving DecidableEq

def Severity.name : Severity → String
  | .error => "error"
  | .warning => "warning"

inductive DiagnosticKind where
  /-- The source is no XML, or its root is no mapper. -/
  | malformedXml
  | missingAttribute
  | emptyChoose
  | duplicateStatement
  | duplicateFragment
  | unresolvedFragment
  | circularFragment
  | unknownElement
  | duplicateOtherwise
  | invalidNumber
  | invalidExpression
  | mixedLogicalOperators
  | unsafeSubstitution
deriving DecidableEq

namespace DiagnosticKind

/-- All kinds in the order of the stages that report them. -/
def all : List DiagnosticKind :=
  [.malformedXml, .missingAttribute, .emptyChoose, .duplicateStatement, .duplicateFragment,
    .unresolvedFragment, .circularFragment, .unknownElement, .duplicateOtherwise, .invalidNumber,
    .invalidExpression, .mixedLogicalOperators, .unsafeSubstitution]

def name : DiagnosticKind → String
  | .malformedXml => "MalformedXml"
  | .missingAttribute => "MissingAttribute"
  | .emptyChoose => "EmptyChoose"
  | .duplicateStatement => "DuplicateStatement"
  | .duplicateFragment => "DuplicateFragment"
  | .unresolvedFragment => "UnresolvedFragment"
  | .circularFragment => "CircularFragment"
  | .unknownElement => "UnknownElement"
  | .duplicateOtherwise => "DuplicateOtherwise"
  | .invalidNumber => "InvalidNumber"
  | .invalidExpression => "InvalidExpression"
  | .mixedLogicalOperators => "MixedLogicalOperators"
  | .unsafeSubstitution => "UnsafeSubstitution"

def severity : DiagnosticKind → Severity
  | .unknownElement | .duplicateOtherwise | .invalidNumber | .invalidExpression
  | .mixedLogicalOperators | .unsafeSubstitution => .warning
  | _ => .error

/-- Whether a finding of this kind stops the compilation of the mapper. -/
def isFatal : DiagnosticKind → Bool
  | .malformedXml | .missingAttribute | .emptyChoose => true
  | _ => false

/-- The remedy named with every finding of a kind. -/
def hint : DiagnosticKind → Option String
  | .mixedLogicalOperators => some "nest `<if>` elements to combine `and` with `or`"
  | .unsafeSubstitution =>
    some ("bind with `#\x7b...\x7d`, whitelist the name as a safe constant, or pass a " ++
      "SafeIdentifier")
  | .circularFragment | .unresolvedFragment =>
    some "the include is replaced by a marker comment"
  | _ => none

/-- The wording without detail. -/
def fallback : DiagnosticKind → String
  | .malformedXml => "malformed mapper XML"
  | .missingAttribute => "missing required attribute"
  | .emptyChoose => "`<choose>` requires at least one `<when>`"
  | .duplicateStatement => "duplicate statement"
  | .duplicateFragment => "duplicate fragment"
  | .unresolvedFragment => "unresolved include"
  | .circularFragment => "circular include"
  | .unknownElement => "unknown element"
  | .duplicateOtherwise => "`<choose>` has more than one `<otherwise>`; the first is kept"
  | .invalidNumber => "invalid number"
  | .invalidExpression => "invalid expression"
  | .mixedLogicalOperators => "test mixes `and` with `or`"
  | .unsafeSubstitution => "unsafe raw substitution"

/-- The wording before and behind a detail. -/
def frame : DiagnosticKind → String × String
  | .missingAttribute => ("missing required attribute ", "")
  | .duplicateStatement => ("statement `", "` is already defined")
  | .duplicateFragment => ("fragment `", "` is already defined")
  | .unresolvedFragment => ("include `", "` does not name a fragment")
  | .unknownElement => ("unknown element `<", ">`, content parsed inline")
  | .invalidNumber => ("`", "` is not a number, attribute ignored")
  | .mixedLogicalOperators => ("test `", "` mixes `and` with `or`; only `and` splits it")
  | .unsafeSubstitution => ("raw substitution `", "` is not proven safe")
  | kind => (kind.fallback ++ ": ", "")

/-- The wording with a detail, if there is one. -/
def message (kind : DiagnosticKind) : Option String → String
  | none => kind.fallback
  | some detail => kind.frame.1 ++ detail ++ kind.frame.2

end DiagnosticKind

/-- A finding. -/
structure Diagnostic where
  kind : DiagnosticKind
  /-- The bytes of the source that it points at. -/
  span : Span
  /-- What fills the wording of the kind. -/
  detail : Option String := none
  /-- Qualified id of the declaration concerned. -/
  owner : Option String := none
deriving DecidableEq

namespace Diagnostic

/-- The wording of a finding. -/
def message (diagnostic : Diagnostic) : String :=
  diagnostic.kind.message diagnostic.detail

def isError (diagnostic : Diagnostic) : Bool :=
  diagnostic.kind.severity == .error

def isWarning (diagnostic : Diagnostic) : Bool :=
  diagnostic.kind.severity == .warning

/-- A finding in one line. -/
def toText (diagnostic : Diagnostic) : String :=
  let place := s!"{diagnostic.span.start}..{diagnostic.span.stop}"
  let owner := (diagnostic.owner.map fun owner => s!" (in {owner})").getD ""
  let hint := (diagnostic.kind.hint.map fun hint => s!" (hint: {hint})").getD ""
  s!"{diagnostic.kind.severity.name} at {place}: {diagnostic.message}" ++ owner ++ hint

/-- Number of errors among findings. -/
def errorCount (diagnostics : List Diagnostic) : Nat :=
  diagnostics.countP isError

/-- Number of warnings among findings. -/
def warningCount (diagnostics : List Diagnostic) : Nat :=
  diagnostics.countP isWarning

def hasErrors (diagnostics : List Diagnostic) : Bool :=
  diagnostics.any isError

/-- Whether any finding stops the compilation. -/
def hasFatal (diagnostics : List Diagnostic) : Bool :=
  diagnostics.any (·.kind.isFatal)

end Diagnostic

end SqlMapper
