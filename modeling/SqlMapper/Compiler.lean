import SqlMapper.Analysis.Expressions
import SqlMapper.Analysis.Substitutions
import SqlMapper.Generated.FromTemplate
import SqlMapper.Include.Resolve
import SqlMapper.Mapper.Reader
import SqlMapper.Render

/-!
# Compiling mappers

A source is read, its expressions are checked, its includes are resolved and its raw substitutions
are checked.  Each stage adds findings, and only findings of the first one can stop the compilation.
A session compiles sources under one configuration and keeps the caches that its renderings share.
-/

namespace SqlMapper

/-- Why something could not be compiled or rendered. -/
inductive Error where
  /-- Nothing could be made of a source. -/
  | malformed (diagnostics : List Diagnostic)
  /-- A mapper has no statement of an id. -/
  | unknownStatement (nameSpace id : String)
deriving DecidableEq

def Error.name : Error → String
  | .malformed _ => "TemplateParseError"
  | .unknownStatement _ _ => "UnknownStatement"

def Error.message : Error → String
  | .malformed diagnostics =>
    s!"template parsing failed with {Diagnostic.errorCount diagnostics} errors"
  | .unknownStatement nameSpace id => s!"statement `{id}` is not defined in mapper `{nameSpace}`"

/-- A mapper that is ready to be rendered. -/
structure CompiledMapper where
  /-- The mapper with its includes resolved. -/
  mapper : Mapper
  /-- The findings of all stages. -/
  diagnostics : List Diagnostic
  /-- The raw substitutions that are not known to be safe. -/
  substitutions : List UnsafeSubstitution
  config : Config

namespace CompiledMapper

/-- Whether there are no errors among the findings. -/
def isValid (compiled : CompiledMapper) : Bool :=
  !Diagnostic.hasErrors compiled.diagnostics

def code (compiled : CompiledMapper) : Generated.Module :=
  Generated.ofMapper compiled.config compiled.mapper

end CompiledMapper

/-- A configuration with the caches that are shared under it. -/
structure Session where
  config : Config := {}
  members : MemberCache := {}
  expressions : ExpressionCache := {}

namespace Session

/-- A session in which nothing was done yet. -/
def fresh (config : Config) : Session :=
  { config }

def compile (session : Session) (source : String) : Except Error CompiledMapper × Session :=
  match Mapper.parse source with
  | .error diagnostics => (.error (.malformed diagnostics), session)
  | .ok (mapper, reading) =>
    let (checking, expressions) := mapper.checkExpressions session.expressions
    let resolved := mapper.resolved
    let substitutions := resolved.unsafeSubstitutions session.config
    let reported := resolved.reportUnsafe substitutions
    let diagnostics := reading ++ checking ++ mapper.resolveDiagnostics ++ reported
    (.ok { mapper := resolved, diagnostics, substitutions, config := session.config },
      { session with expressions })

/-- Renders any tree as it is. -/
def interpret (session : Session) (compiled : CompiledMapper) (root : Node)
    (parameter : Accessor) : RenderedSql × Session :=
  let context : RenderContext := { style := compiled.config.style, parameter }
  let (rendered, members, expressions) :=
    root.render context session.members session.expressions
  (rendered, { session with members, expressions })

def render (session : Session) (compiled : CompiledMapper) (id : String)
    (parameter : Accessor) : Except Error RenderedSql × Session :=
  match compiled.mapper.statement? id with
  | none => (.error (.unknownStatement compiled.mapper.nameSpace id), session)
  | some statement =>
    let context : RenderContext := { style := compiled.config.style, parameter }
    let (rendered, members, expressions) :=
      statement.render context session.members session.expressions
    (.ok rendered, { session with members, expressions })

end Session

/-- Compiles a source on its own. -/
def compile (config : Config) (source : String) : Except Error CompiledMapper :=
  ((Session.fresh config).compile source).1

end SqlMapper
