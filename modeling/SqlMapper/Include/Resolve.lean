import SqlMapper.Include.Cycle
import SqlMapper.Include.Marker
import SqlMapper.Include.Substitution

/-!
# Resolving includes

Every reference is replaced by the resolved tree of the fragment it names.  Only the fragments that
are being expanded on the way to a reference count for circularity, so a fragment may be included
any number of times.  References that lead nowhere or into a circle become marker comments and are
reported.
-/

namespace SqlMapper.Mapper

/-- The tree for a reference met on a path of fragments, innermost first. -/
def expand (mapper : Mapper) (path : List String) (id : String) : Node :=
  if _ : id ∈ path then
    .text (Include.circularMarker (id :: (path.takeWhile (· != id)).reverse ++ [id]))
  else
    match _ : mapper.fragment? id with
    | none => .text (Include.unresolvedMarker id)
    | some fragment =>
      fragment.root.replaceReferences fun inner => mapper.expand (id :: path) inner
termination_by mapper.unvisited path
decreasing_by exact unvisited_cons_lt (mem_fragmentIds_iff_declared.2 ⟨_, ‹_›⟩) (by assumption)

/-- The undeclared fragments that a reference met on a path leads to. -/
def missing (mapper : Mapper) (path : List String) (id : String) : List String :=
  if _ : id ∈ path then []
  else
    match _ : mapper.fragment? id with
    | none => [id]
    | some fragment => fragment.root.references.flatMap fun inner =>
      mapper.missing (id :: path) inner
termination_by mapper.unvisited path
decreasing_by exact unvisited_cons_lt (mem_fragmentIds_iff_declared.2 ⟨_, ‹_›⟩) (by assumption)

/-- A tree with all its references resolved, `path` being the fragments it stands in. -/
def resolveNode (mapper : Mapper) (path : List String) (root : Node) : Node :=
  root.replaceReferences (mapper.expand path)

/-- One finding for each undeclared fragment that a declaration leads to. -/
def reportMissing (mapper : Mapper) (path : List String) (id : String) (span : Span)
    (root : Node) : List Diagnostic :=
  (root.references.flatMap (mapper.missing path)).eraseDups.map fun fragment =>
    { kind := .unresolvedFragment, span, detail := some fragment,
      owner := some (mapper.qualify id) }

/-- One finding for each circle of fragments. -/
def reportCycles (mapper : Mapper) : List Diagnostic :=
  mapper.fragmentCycles.map fun chain =>
    let first := chain.headD ""
    { kind := .circularFragment
      span := ((mapper.fragment? first).map (·.span)).getD default
      detail := some (Include.chainText chain)
      owner := some (mapper.qualify first) }

/-- The mapper without references. -/
def resolved (mapper : Mapper) : Mapper where
  nameSpace := mapper.nameSpace
  statements := mapper.statements.map fun statement =>
    { statement with root := mapper.resolveNode [] statement.root }
  fragments := mapper.fragments.map fun fragment =>
    { fragment with root := mapper.resolveNode [fragment.id] fragment.root }

/-- What is found while references are resolved: circles first, then what fragments and statements
lead to in vain. -/
def resolveDiagnostics (mapper : Mapper) : List Diagnostic :=
  mapper.reportCycles
    ++ mapper.fragments.flatMap (fun fragment =>
      mapper.reportMissing [fragment.id] fragment.id fragment.span fragment.root)
    ++ mapper.statements.flatMap (fun statement =>
      mapper.reportMissing [] statement.id statement.span statement.root)

end SqlMapper.Mapper
