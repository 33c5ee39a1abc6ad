import SqlMapper.Value.Basic

/-!
# Guarded substitution

A raw substitution that is not declared safe admits checked identifiers only; any other value is
refused with the statement, the parameter and the kind of value that was found.
-/

namespace SqlMapper

/-- A raw substitution met a value that is no identifier. -/
structure GuardViolation where
  /-- Qualified name of the statement. -/
  statement : String
  /-- Path of the parameter as the template writes it. -/
  parameter : String
  found : Value.Kind
deriving DecidableEq

def GuardViolation.message (violation : GuardViolation) : String :=
  s!"raw substitution `{violation.parameter}` in `{violation.statement}` " ++
    s!"requires a SafeIdentifier, found {violation.found.name}"

/-- The text that a guarded substitution splices. -/
def guardIdentifier (statement parameter : String) : Value → Except GuardViolation String
  | .identifier name => .ok name.text
  | other => .error { statement, parameter, found := other.kind }

end SqlMapper
