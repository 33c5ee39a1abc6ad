import SqlMapper.Diagnostic.Basic
import SqlMapper.Expression.Cache
import SqlMapper.Text.Split

/-!
# Checking expressions

Conditions and bind values that cannot be read are reported, and so are tests that mix their
junctions.  In a mixed test a condition that still holds the word `or` is covered by the report on
the test.
-/

namespace SqlMapper

/-- Whether a text holds `or` as a word. -/
def Test.holdsOr (text : String) : Bool :=
  (Text.words text.toList).any Junction.any.spellings.contains

def Test.findings (test : Test) : List (DiagnosticKind × String) :=
  let reported := test.invalidAtoms.filter fun atom => !(test.mixed && holdsOr atom)
  let details := reported.map fun atom =>
    if atom.isEmpty then s!"empty condition in test `{test.source}`"
    else s!"`{atom}` in test `{test.source}`"
  let mixed := if test.mixed then [(DiagnosticKind.mixedLogicalOperators, test.source)] else []
  details.map ((.invalidExpression, ·)) ++ mixed

/-- What is wrong with the value bound to a name. -/
def Bind.findings (name : String) : Bind → List (DiagnosticKind × String)
  | .invalid text => [(.invalidExpression, s!"`{text}` in bind `{name}`")]
  | _ => []

/-- What is wrong with the expressions of a template, each parsed through a cache. -/
def ExpressionCache.check (cache : ExpressionCache) :
    List Node.Event → List (DiagnosticKind × String) × ExpressionCache
  | [] => ([], cache)
  | .test source :: rest =>
    let (test, cache) := cache.test source
    let (findings, cache) := cache.check rest
    (test.findings ++ findings, cache)
  | .bind name value :: rest =>
    let (bind, cache) := cache.bind value
    let (findings, cache) := cache.check rest
    (bind.findings name ++ findings, cache)
  | _ :: rest => cache.check rest

namespace Mapper

/-- The declarations in the order in which they are checked, statements first. -/
def declarations (mapper : Mapper) : List (String × Span × Node) :=
  mapper.statements.map (fun statement => (statement.id, statement.span, statement.root))
    ++ mapper.fragments.map fun fragment => (fragment.id, fragment.span, fragment.root)

/-- Checks declarations one after the other. -/
def checkDeclarations (mapper : Mapper) (cache : ExpressionCache) :
    List (String × Span × Node) → List Diagnostic × ExpressionCache
  | [] => ([], cache)
  | (id, span, root) :: rest =>
    let (findings, cache) := cache.check root.events
    let here := findings.map fun (kind, detail) =>
      ({ kind, span, detail := some detail, owner := some (mapper.qualify id) } : Diagnostic)
    let (later, cache) := mapper.checkDeclarations cache rest
    (here ++ later, cache)

def checkExpressions (mapper : Mapper) (cache : ExpressionCache) :
    List Diagnostic × ExpressionCache :=
  mapper.checkDeclarations cache mapper.declarations

end Mapper

end SqlMapper
