import SqlMapper.Compiler
import SqlMapper.Generated.Run
import SqlMapper.Generated.Source
import SqlMapper.Generated.Splice
import SqlMapper.Sample.Sources

/-!
# Functions of the sample mappers

The sample mappers are compiled with one parameter declared to be a checked identifier, and their
functions share a file.
-/

namespace SqlMapper.Sample

/-- The configuration of the sample mappers. -/
def config : Config :=
  ({} : Config).declareStatementType "sorted" "sort_column" safeIdentifierType

/-- The compiled sample mappers in the order of their functions. -/
def mappers : List CompiledMapper :=
  [ordersLines, usersLines].filterMap fun lines => (compile config (sourceOf lines)).toOption

/-- The modules of the sample mappers. -/
def modules : List Generated.Module :=
  mappers.map CompiledMapper.code

def source : String :=
  Generated.sourceOfAll modules

def function? (moduleName name : String) : Option Generated.Function := do
  let code ← modules.find? (·.name == moduleName)
  code.function? name

/-- Number of guards in the first function of a name, none if there is no such function. -/
def guardCount (name : String) : Nat :=
  ((modules.findSome? (·.function? name)).map Generated.Function.guardCount).getD 0

end SqlMapper.Sample
