import SqlMapper.Member.Accessor
import SqlMapper.Member.Table

/-!
# Member lookup

Paths are read member by member.  The table of a shape is built from the first object of that shape
that is looked into and is kept from then on, so every lookup takes a cache and returns it.
-/

namespace SqlMapper

/-- The tables of the shapes met so far. -/
structure MemberCache where
  /-- The table of each shape, in the order in which the shapes were met. -/
  tables : List (String × MemberTable) := []

namespace MemberCache

/-- Number of shapes met so far. -/
def size (cache : MemberCache) : Nat :=
  cache.tables.length

/-- The table of a shape, built from the given names if the shape is new. -/
def tableFor (cache : MemberCache) (shape : String) (names : List String) :
    MemberTable × MemberCache :=
  match cache.tables.lookup shape with
  | some table => (table, cache)
  | none =>
    let table := MemberTable.build names
    (table, { tables := cache.tables ++ [(shape, table)] })

/-- The declared name on a target that a request stands for. -/
def resolveName? (cache : MemberCache) (target : Accessor) (request : String) :
    Option String × MemberCache :=
  match target.shape with
  | some shape =>
    let (table, cache) := cache.tableFor shape target.names
    (table.resolve? request, cache)
  | none => (SqlMapper.resolveName? target.names request, cache)

def member? (cache : MemberCache) (target : Accessor) (request : String) :
    Option Value × MemberCache :=
  let (name, cache) := cache.resolveName? target request
  (name.bind target.member?, cache)

/-- The element count of a collection; the member of that name on anything else. -/
def countOrMember? (cache : MemberCache) (target : Accessor) (request : String) :
    Option Value × MemberCache :=
  match target.count with
  | some count => (some (.ofNat count), cache)
  | none => cache.member? target request

/-- Whether a name at the end of a path asks for an element count. -/
def isCountAlias (name : String) : Bool :=
  Text.sameIgnoringCase name "size" || Text.sameIgnoringCase name "length"

/-- One step of a path, which may ask for a count if it is the last one. -/
def step? (cache : MemberCache) (target : Accessor) (name : String) (isLast : Bool) :
    Option Value × MemberCache :=
  if isLast && isCountAlias name then cache.countOrMember? target name
  else cache.member? target name

/-- Follows the steps of a path; a missing member ends it. -/
def follow? (cache : MemberCache) (target : Accessor) : List String → Option Value × MemberCache
  | [] => (none, cache)
  | [name] => cache.step? target name true
  | name :: rest =>
    match cache.step? target name false with
    | (some value, cache) => cache.follow? value.accessor rest
    | (none, cache) => (none, cache)

/-- The value at the end of a path, null where a member is missing. -/
def resolvePath (cache : MemberCache) (root : Accessor) (segments : List String) :
    Value × MemberCache :=
  let (value, cache) := cache.follow? root segments
  (value.getD .null, cache)

end MemberCache

end SqlMapper
