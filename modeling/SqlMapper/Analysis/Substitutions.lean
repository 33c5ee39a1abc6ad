import SqlMapper.Config
import SqlMapper.Diagnostic.Basic
import SqlMapper.Expression.Path

/-!
# Unsafe substitutions

A raw substitution is safe if its path is declared as a checked identifier or is the name of a
constant.  All others are reported, each path once for each statement.
-/

namespace SqlMapper

/-- A raw substitution that is not known to be safe. -/
structure UnsafeSubstitution where
  nameSpace : String
  statement : String
  /-- The path that is substituted. -/
  parameter : String
deriving DecidableEq

/-- The paths that a template substitutes raw, as often as it does. -/
def Node.rawPaths (root : Node) : List String :=
  root.events.filterMap fun
    | .parameter name true => some (Path.ofPlaceholder name).toText
    | _ => none

namespace Mapper

/-- The raw substitutions of a mapper that are not known to be safe. -/
def unsafeSubstitutions (mapper : Mapper) (config : Config) : List UnsafeSubstitution :=
  let inStatement (statement : Statement) : List UnsafeSubstitution :=
    (statement.root.rawPaths.filter fun path =>
      !config.trusts statement.id path && !config.isSafeConstant path).map fun parameter =>
        { nameSpace := mapper.nameSpace, statement := statement.id, parameter }
  (mapper.statements.flatMap inStatement).eraseDups

/-- One finding for each unsafe substitution. -/
def reportUnsafe (mapper : Mapper) (substitutions : List UnsafeSubstitution) : List Diagnostic :=
  substitutions.map fun substitution =>
    { kind := .unsafeSubstitution
      span := ((mapper.statement? substitution.statement).map (·.span)).getD default
      detail := some substitution.parameter
      owner := some (mapper.qualify substitution.statement) }

end Mapper

end SqlMapper
