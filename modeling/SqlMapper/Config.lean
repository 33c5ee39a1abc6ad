import SqlMapper.Marker
import SqlMapper.Text.Lowercase

/-!
# Configuration

How parameters are marked, which raw substitutions are known to be constants, and which types
parameters are declared with, for one statement or for all.
-/

namespace SqlMapper

/-- The type that makes a raw substitution trusted. -/
def safeIdentifierType : String := "quarry_core::SafeIdentifier"

/-- Options of compilation. -/
structure Config where
  /-- How bound parameters are marked. -/
  style : MarkerStyle := .question
  /-- Names of constants in lower case, each once, in the order in which they were added. -/
  safeConstants : List String := []
  /-- Declared types, the newest first.  Without a statement they hold for all. -/
  parameterTypes : List ((Option String × String) × String) := []

namespace Config

/-- Takes up the name of a constant, whatever its case. -/
def addSafeConstant (config : Config) (name : String) : Config :=
  let folded := Text.lowercase name
  if folded ∈ config.safeConstants then config
  else { config with safeConstants := config.safeConstants ++ [folded] }

/-- Declares the type of a parameter in every statement. -/
def declareType (config : Config) (parameter type : String) : Config :=
  { config with parameterTypes := ((none, parameter), type) :: config.parameterTypes }

/-- Declares the type of a parameter in one statement. -/
def declareStatementType (config : Config) (statement parameter type : String) : Config :=
  { config with parameterTypes := ((some statement, parameter), type) :: config.parameterTypes }

/-- Whether a name is one of the constants, whatever its case. -/
def isSafeConstant (config : Config) (name : String) : Bool :=
  Text.lowercase name ∈ config.safeConstants

/-- The type of a parameter as seen from a statement; a declaration for the statement wins. -/
def declaredType? (config : Config) (statement parameter : String) : Option String :=
  config.parameterTypes.lookup (some statement, parameter) <|>
    config.parameterTypes.lookup (none, parameter)

/-- Whether a raw substitution in a statement is declared to be a checked identifier. -/
def trusts (config : Config) (statement parameter : String) : Bool :=
  config.declaredType? statement parameter == some safeIdentifierType

end Config

end SqlMapper
