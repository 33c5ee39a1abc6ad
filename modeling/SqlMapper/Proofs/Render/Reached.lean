import SqlMapper.Guard
import SqlMapper.Render

/-!
# Raw substitutions of a rendering

A rendering visits some of the raw substitutions of a template, in the order of their texts and once
for every pass of a loop.  `Node.reached` lists them with the values that they write.  The states
between the nodes are those of the rendering itself.
-/

namespace SqlMapper

/-- A raw substitution with the value that is written for it. -/
structure Substitution where
  /-- Path of the parameter as the template writes it. -/
  parameter : String
  value : Value

/-- What a guard finds wrong with a raw substitution: nothing if the path is trusted or if the value
is a checked identifier. -/
def Substitution.violation? (trusts : String → Bool) (statement : String)
    (substitution : Substitution) : Option GuardViolation :=
  if trusts substitution.parameter then none
  else
    match substitution.value with
    | .identifier _ => none
    | other => some { statement, parameter := substitution.parameter, found := other.kind }

namespace RenderContext

/-- What the passes of a loop reach. -/
def reachedItems (header : Loop) (body : RenderState → String × RenderState)
    (reached : RenderState → List Substitution) (index : Nat) (state : RenderState) :
    List Value → List Substitution
  | [] => []
  | item :: rest =>
    let entered := enterItem header index item state
    reached entered ++
      reachedItems header body reached (index + 1) (leave state (body entered).2) rest

mutual

/-- What the rendering of a tree reaches. -/
def reached (context : RenderContext) (state : RenderState) : Node → List Substitution
  | .parameter name true =>
    let path := Path.ofPlaceholder name
    [{ parameter := path.toText, value := (context.resolve state path).1 }]
  | .text _ | .parameter _ false | .bind _ _ | .reference _ => []
  | .condition test children =>
    match context.holds state test with
    | (true, state) => context.reachedAll state children
    | (false, _) => []
  | .choice branches none => context.reachedBranches state branches
  | .choice branches (some children) =>
    context.reachedBranches state branches ++
      match context.renderBranches state branches with
      | (none, state) => context.reachedAll state children
      | (some _, _) => []
  | .clause _ children | .mixed children => context.reachedAll state children
  | .loop header children =>
    let (collection, state) := context.resolve state (.ofPlaceholder header.collection)
    match collection.items? with
    | none => []
    | some items =>
      reachedItems header (fun inner => context.renderAll inner children)
        (fun inner => context.reachedAll inner children) 0 state items
termination_by structural node => node

/-- What the rendering of trees one after the other reaches. -/
def reachedAll (context : RenderContext) (state : RenderState) : List Node → List Substitution
  | [] => []
  | node :: rest =>
    context.reached state node ++ context.reachedAll (context.render state node).2 rest
termination_by structural nodes => nodes

/-- What the first branch whose test holds reaches. -/
def reachedBranches (context : RenderContext) (state : RenderState) :
    List (String × List Node) → List Substitution
  | [] => []
  | (test, children) :: rest =>
    match context.holds state test with
    | (true, state) => context.reachedAll state children
    | (false, state) => context.reachedBranches state rest
termination_by structural branches => branches

end

end RenderContext

/-- The raw substitutions that rendering a statement reaches, starting with caches. -/
def Statement.reached (statement : Statement) (context : RenderContext) (members : MemberCache)
    (expressions : ExpressionCache) : List Substitution :=
  context.reached { members, expressions } statement.root

end SqlMapper
