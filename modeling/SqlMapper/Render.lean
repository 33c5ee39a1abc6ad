import SqlMapper.Expression.Cache
import SqlMapper.Expression.Evaluate
import SqlMapper.Marker
import SqlMapper.Mapper.Basic

/-!
# Rendering

A template is rendered against a parameter to SQL text and the values bound to its marks.  What a
template binds is seen until the end of the directive around it; a plain sequence is no scope of its
own.
-/

namespace SqlMapper

/-- What rendering carries along. -/
structure RenderState where
  /-- What the template has bound. -/
  scope : Scope Value := {}
  /-- The values bound so far. -/
  parameters : List BoundParameter := []
  members : MemberCache := {}
  expressions : ExpressionCache := {}

/-- What stays the same throughout a rendering. -/
structure RenderContext where
  style : MarkerStyle := .question
  parameter : Accessor

namespace RenderContext

def resolve (context : RenderContext) (state : RenderState) (path : Path) : Value × RenderState :=
  let environment : Environment := { scope := state.scope, parameter := context.parameter }
  let (value, members) := environment.resolve state.members path
  (value, { state with members })

def holds (context : RenderContext) (state : RenderState) (source : String) :
    Bool × RenderState :=
  let environment : Environment := { scope := state.scope, parameter := context.parameter }
  let (test, expressions) := state.expressions.test source
  let (holds, members) := test.holds environment state.members
  (holds, { state with members, expressions })

def bindName (context : RenderContext) (state : RenderState) (name source : String) :
    RenderState :=
  let environment : Environment := { scope := state.scope, parameter := context.parameter }
  let (bind, expressions) := state.expressions.bind source
  let (value, members) := bind.evaluate environment state.members
  { state with members, expressions, scope := state.scope.push name value }

theorem bindName_eq (context : RenderContext) (state : RenderState) (name source : String) :
    context.bindName state name source =
      let environment : Environment := { scope := state.scope, parameter := context.parameter }
      let outcome := Bind.evaluate environment state.members (.parse source)
      { state with
        members := outcome.2, expressions := (state.expressions.bind source).2,
        scope := state.scope.push name outcome.1 } := by
  simp only [bindName, ExpressionCache.bind_fst]

def mark (context : RenderContext) (state : RenderState) (value : Value) : String × RenderState :=
  let (marker, parameters) := bindNext context.style state.parameters value
  (marker, { state with parameters })

/-- Leaves a scope: what was bound since `outer` is forgotten. -/
def leave (outer state : RenderState) : RenderState :=
  { state with scope := outer.scope }

/-- What was rendered in a scope of its own, which is left. -/
def closeScope (outer : RenderState) (rendered : String × RenderState) : String × RenderState :=
  (rendered.1, leave outer rendered.2)

/-- Binds the number of an item, if the loop has a name for it. -/
def bindIndex (header : Loop) (index : Nat) (state : RenderState) : RenderState :=
  match header.index with
  | none => state
  | some name => { state with scope := state.scope.push name (.ofNat index) }

/-- The state in which the item of a loop is rendered. -/
def enterItem (header : Loop) (index : Nat) (item : Value) (state : RenderState) : RenderState :=
  bindIndex header index { state with scope := state.scope.push header.item item }

/-- The text in front of an item, which only the first one goes without. -/
def separatorText (header : Loop) (index : Nat) : String :=
  if index == 0 then "" else header.separator.getD ""

/-- Renders something for each item of a list, with a separator between. -/
def forItems (header : Loop) (body : RenderState → String × RenderState) (index : Nat)
    (state : RenderState) : List Value → String × RenderState
  | [] => ("", state)
  | item :: rest =>
    let (text, inner) := body (enterItem header index item state)
    let (texts, state) := forItems header body (index + 1) (leave state inner) rest
    (separatorText header index ++ text ++ texts, state)

mutual

/-- The text of a tree. -/
def render (context : RenderContext) (state : RenderState) : Node → String × RenderState
  | .text content => (content, state)
  | .parameter name false =>
    let (value, state) := context.resolve state (.ofPlaceholder name)
    context.mark state value
  | .parameter name true =>
    let (value, state) := context.resolve state (.ofPlaceholder name)
    (value.toText, state)
  | .condition test children =>
    match context.holds state test with
    | (true, state) => closeScope state (context.renderAll state children)
    | (false, state) => ("", state)
  | .choice branches none =>
    match context.renderBranches state branches with
    | (some text, state) => (text, state)
    | (none, state) => ("", state)
  | .choice branches (some children) =>
    match context.renderBranches state branches with
    | (some text, state) => (text, state)
    | (none, state) => closeScope state (context.renderAll state children)
  | .clause kind children =>
    let (body, state) := closeScope state (context.renderAll state children)
    (kind.wrap body, state)
  | .loop header children =>
    let (collection, state) := context.resolve state (.ofPlaceholder header.collection)
    match collection.items? with
    | none => ("", state)
    | some items =>
      let body (inner : RenderState) : String × RenderState := context.renderAll inner children
      let (text, state) := forItems header body 0 state items
      (header.opening.getD "" ++ text ++ header.closing.getD "", state)
  | .bind name value => ("", context.bindName state name value)
  | .reference _ => ("", state)
  | .mixed children => context.renderAll state children
termination_by structural node => node

/-- The text of trees one after the other in one scope. -/
def renderAll (context : RenderContext) (state : RenderState) :
    List Node → String × RenderState
  | [] => ("", state)
  | node :: rest =>
    let (text, state) := context.render state node
    let (texts, state) := context.renderAll state rest
    (text ++ texts, state)
termination_by structural nodes => nodes

/-- The text of the first branch whose test holds, if there is one. -/
def renderBranches (context : RenderContext) (state : RenderState) :
    List (String × List Node) → Option String × RenderState
  | [] => (none, state)
  | (test, children) :: rest =>
    match context.holds state test with
    | (true, state) =>
      let (text, state) := closeScope state (context.renderAll state children)
      (some text, state)
    | (false, state) => context.renderBranches state rest
termination_by structural branches => branches

end

end RenderContext

/-- SQL text without white space around it. -/
def RenderedSql.finish (sql : String) (parameters : List BoundParameter) : RenderedSql where
  sql := Text.trimmed sql
  parameters := parameters

/-- Renders a tree as it is, starting and ending with caches. -/
def Node.render (root : Node) (context : RenderContext) (members : MemberCache)
    (expressions : ExpressionCache) : RenderedSql × MemberCache × ExpressionCache :=
  let (sql, state) := context.render { members, expressions } root
  ({ sql, parameters := state.parameters }, state.members, state.expressions)

/-- Renders a statement, starting and ending with caches. -/
def Statement.render (statement : Statement) (context : RenderContext) (members : MemberCache)
    (expressions : ExpressionCache) : RenderedSql × MemberCache × ExpressionCache :=
  let (rendered, members, expressions) := statement.root.render context members expressions
  (.finish rendered.sql rendered.parameters, members, expressions)

end SqlMapper
