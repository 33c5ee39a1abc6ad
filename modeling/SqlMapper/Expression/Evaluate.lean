import SqlMapper.Expression.Bind
import SqlMapper.Expression.Scope
import SqlMapper.Expression.Test
import SqlMapper.Member.Cache

/-!
# Evaluating expressions

Paths are read from the scope first and from the parameter otherwise.  A junction stops at the
first condition that decides it, so later conditions look up nothing.
-/

namespace SqlMapper

/-- Where paths are read. -/
structure Environment where
  /-- What the template has bound. -/
  scope : Scope Value := {}
  parameter : Accessor

/-- The value of a path: the whole of something bound, a member of it, or a member of the
parameter. -/
def Environment.resolve (environment : Environment) (cache : MemberCache) (path : Path) :
    Value × MemberCache :=
  match environment.scope.lookup? path.head with
  | none => cache.resolvePath environment.parameter path.segments
  | some value =>
    if path.rest.isEmpty then (value, cache) else cache.resolvePath value.accessor path.rest

def Atom.holds (environment : Environment) (cache : MemberCache) : Atom → Bool × MemberCache
  | .truthy path =>
    let (value, cache) := environment.resolve cache path
    (value.truthy, cache)
  | .compare path op literal =>
    let (value, cache) := environment.resolve cache path
    (value.compare op literal.toValue, cache)
  | .invalid _ => (false, cache)

/-- Whether all conditions hold; looks no further than the first that does not. -/
def Atom.allHold (environment : Environment) (cache : MemberCache) :
    List Atom → Bool × MemberCache
  | [] => (true, cache)
  | atom :: rest =>
    match atom.holds environment cache with
    | (true, cache) => allHold environment cache rest
    | (false, cache) => (false, cache)

/-- Whether any condition holds; looks no further than the first that does. -/
def Atom.anyHolds (environment : Environment) (cache : MemberCache) :
    List Atom → Bool × MemberCache
  | [] => (false, cache)
  | atom :: rest =>
    match atom.holds environment cache with
    | (true, cache) => (true, cache)
    | (false, cache) => anyHolds environment cache rest

def Test.holds (environment : Environment) (cache : MemberCache) (test : Test) :
    Bool × MemberCache :=
  match test.junction with
  | .all => Atom.allHold environment cache test.atoms
  | .any => Atom.anyHolds environment cache test.atoms

def BindPart.evaluate (environment : Environment) (cache : MemberCache) :
    BindPart → Value × MemberCache
  | .literal constant => (constant.toValue, cache)
  | .path property => environment.resolve cache property

/-- The joined texts of parts, read in order. -/
def BindPart.concatTexts (environment : Environment) (cache : MemberCache) :
    List BindPart → String × MemberCache
  | [] => ("", cache)
  | part :: rest =>
    let (value, cache) := part.evaluate environment cache
    let (text, cache) := concatTexts environment cache rest
    (value.toText ++ text, cache)

/-- The value that is bound. -/
def Bind.evaluate (environment : Environment) (cache : MemberCache) : Bind → Value × MemberCache
  | .single part => part.evaluate environment cache
  | .concat parts =>
    let (text, cache) := BindPart.concatTexts environment cache parts
    (.string text, cache)
  | .invalid _ => (.null, cache)

end SqlMapper
