import SqlMapper.Generated.Code
import SqlMapper.Guard
import SqlMapper.Render
import SqlMapper.Value.ZeroSign

/-!
# Running generated functions

A function runs against a parameter.  What a block declares is forgotten at its end, while text
written to a buffer from outside of the block stays.  Running fails where a guard refuses a value;
it would also fail where a variable is used that was not declared for that use.  A decimal constant
is written by its units and places, so a zero loses its sign there.  A remark does nothing; what its line
holds behind a line break is no part of the step, and `Function.read?` tells what it does.
-/

namespace SqlMapper.Generated

/-- What a variable holds. -/
inductive Cell where
  | value (value : Value)
  | items (items : List Value)
  | counter (index : Nat)
  /-- The body of a clause that is being written. -/
  | body (text : String)
  /-- What remains of the body of a clause. -/
  | trimmed (text : String)

/-- Declared variables, the newest in front. -/
abbrev Variables : Type := List (Variable × Cell)

/-- Why a function stops without a result. -/
inductive Fault where
  /-- A variable was not declared for the use that is made of it. -/
  | undeclared (target : Variable)
  /-- A guard refused a value. -/
  | refused (violation : GuardViolation)
deriving DecidableEq

/-- What stays the same throughout a run. -/
structure RunContext where
  style : MarkerStyle := .question
  parameter : Accessor
  /-- Qualified id of the statement. -/
  statement : String

/-- What a run carries along. -/
structure RunState where
  /-- The SQL written so far. -/
  sql : String := ""
  declared : Variables := []
  /-- The values bound so far. -/
  parameters : List BoundParameter := []
  members : MemberCache := {}

namespace Variables

def value (declared : Variables) (target : Variable) : Except Fault Value :=
  match declared.lookup target with
  | some (.value value) => .ok value
  | _ => .error (.undeclared target)

def items (declared : Variables) (target : Variable) : Except Fault (List Value) :=
  match declared.lookup target with
  | some (.items items) => .ok items
  | _ => .error (.undeclared target)

/-- The number that a variable holds. -/
def counter (declared : Variables) (target : Variable) : Except Fault Nat :=
  match declared.lookup target with
  | some (.counter index) => .ok index
  | _ => .error (.undeclared target)

/-- The body of a clause as it is written so far. -/
def body (declared : Variables) (target : Variable) : Except Fault String :=
  match declared.lookup target with
  | some (.body text) => .ok text
  | _ => .error (.undeclared target)

/-- What remains of the body of a clause. -/
def trimmed (declared : Variables) (target : Variable) : Except Fault String :=
  match declared.lookup target with
  | some (.trimmed text) => .ok text
  | _ => .error (.undeclared target)

/-- The variables with other contents in the newest one of a name. -/
def assign (target : Variable) (cell : Cell) : Variables → Variables
  | [] => []
  | (other, old) :: rest =>
    if other == target then (other, cell) :: rest else (other, old) :: assign target cell rest

/-- The variables of `inner` that are as old as those of `outer`. -/
def restore (outer inner : Variables) : Variables :=
  inner.drop (inner.length - outer.length)

end Variables

namespace RunState

def declare (state : RunState) (target : Variable) (cell : Cell) : RunState :=
  { state with declared := (target, cell) :: state.declared }

def write (state : RunState) (text : String) : Buffer → Except Fault RunState
  | .output => .ok { state with sql := state.sql ++ text }
  | .side target => do
    let written ← state.declared.body target
    .ok { state with declared := state.declared.assign target (.body (written ++ text)) }

def leave (outer inner : RunState) : RunState :=
  { inner with declared := outer.declared.restore inner.declared }

variable (state : RunState) (target : Variable) (cell : Cell)

@[simp] theorem sql_declare : (state.declare target cell).sql = state.sql := rfl

@[simp] theorem parameters_declare : (state.declare target cell).parameters = state.parameters := rfl

@[simp] theorem members_declare : (state.declare target cell).members = state.members := rfl

@[simp] theorem lookup_declare :
    (state.declare target cell).declared.lookup target = some cell := by
  simp [declare]

theorem lookup_declare_of_ne {other : Variable} (different : other ≠ target) :
    (state.declare target cell).declared.lookup other = state.declared.lookup other := by
  simp only [declare, List.lookup_cons, beq_eq_false_iff_ne.2 different]

end RunState

def constantValue (literal : Literal) : Value :=
  literal.toValue.dropZeroSign

namespace RunContext

/-- Follows one step of a path. -/
def follow (cache : MemberCache) (target : Accessor) (access : Access) :
    Option Value × MemberCache :=
  if access.counts then cache.countOrMember? target access.name
  else cache.member? target access.name

/-- Follows the steps of a path; a missing member ends it. -/
def followAll (cache : MemberCache) (value : Option Value) :
    List Access → Option Value × MemberCache
  | [] => (value, cache)
  | access :: rest =>
    match value with
    | none => (none, cache)
    | some value =>
      let (member, cache) := follow cache value.accessor access
      followAll cache member rest

def value (context : RunContext) (state : RunState) :
    ValueCode Variable → Except Fault (Value × RunState)
  | .constant literal => .ok (constantValue literal, state)
  | .read (.parameter member) path =>
    let (first, members) := follow state.members context.parameter member
    let (last, members) := followAll members first path
    .ok (last.getD .null, { state with members })
  | .read (.variable target) path => do
    let first ← state.declared.value target
    let (last, members) := followAll state.members (some first) path
    .ok (last.getD .null, { state with members })

/-- The joined texts of values. -/
def texts (context : RunContext) (state : RunState) :
    List (ValueCode Variable) → Except Fault (String × RunState)
  | [] => .ok ("", state)
  | code :: rest => do
    let (value, state) ← context.value state code
    let (text, state) ← context.texts state rest
    .ok (value.toText ++ text, state)

/-- The value for a name. -/
def bound (context : RunContext) (state : RunState) :
    BindCode Variable → Except Fault (Value × RunState)
  | .value code => context.value state code
  | .concat parts => do
    let (text, state) ← context.texts state parts
    .ok (.string text, state)
  | .null => .ok (.null, state)

def condition (context : RunContext) (state : RunState) :
    ConditionCode Variable → Except Fault (Bool × RunState)
  | .truthy code => do
    let (value, state) ← context.value state code
    .ok (value.truthy, state)
  | .compare code op literal => do
    let (value, state) ← context.value state code
    .ok (value.compare op (constantValue literal), state)
  | .never => .ok (false, state)

/-- Whether conditions hold together; looks no further than the first that decides it. -/
def conditions (context : RunContext) (state : RunState) (junction : Junction) :
    List (ConditionCode Variable) → Except Fault (Bool × RunState)
  | [] => .ok (junction == .all, state)
  | code :: rest => do
    let (holds, state) ← context.condition state code
    if holds == (junction == .all) then context.conditions state junction rest
    else .ok (holds, state)

def test (context : RunContext) (state : RunState) (code : TestCode Variable) :
    Except Fault (Bool × RunState) :=
  context.conditions state code.junction code.conditions

def inBlock (run : RunState → Except Fault RunState) (outer entered : RunState) :
    Except Fault RunState := do
  let inner ← run entered
  .ok (outer.leave inner)

/-- Runs a block for each item. -/
def forItems (run : RunState → Except Fault RunState) (counter item : Variable) (index : Nat)
    (state : RunState) : List Value → Except Fault RunState
  | [] => .ok state
  | value :: rest => do
    let entered := (state.declare counter (.counter index)).declare item (.value value)
    let after ← inBlock run state entered
    forItems run counter item (index + 1) after rest

mutual

def step (context : RunContext) (state : RunState) : Code → Except Fault RunState
  | .push buffer text => state.write text buffer
  | .pushMark buffer code => do
    let (value, state) ← context.value state code
    let (marker, parameters) := bindNext context.style state.parameters value
    { state with parameters }.write marker buffer
  | .pushTrusted buffer code => do
    let (value, state) ← context.value state code
    state.write value.toText buffer
  | .pushGuarded buffer parameter code => do
    let (value, state) ← context.value state code
    match guardIdentifier context.statement parameter value with
    | .ok text => state.write text buffer
    | .error violation => .error (.refused violation)
  | .pushBody buffer body => do
    let text ← state.declared.trimmed body
    state.write text buffer
  | .define target code => do
    let (value, state) ← context.bound state code
    .ok (state.declare target (.value value))
  | .defineIndex target counter => do
    let index ← state.declared.counter counter
    .ok (state.declare target (.value (.ofNat index)))
  | .openBody body => .ok (state.declare body (.body ""))
  | .trimBody kind body => do
    let text ← state.declared.body body
    .ok (state.declare body (.trimmed (kind.trimBody text)))
  | .block inner => inBlock (fun state => context.steps state inner) state state
  | .branch branches none => do
    let (_, state) ← context.firstBranch state branches
    .ok state
  | .branch branches (some fallback) => do
    let (taken, state) ← context.firstBranch state branches
    if taken then .ok state
    else inBlock (fun state => context.steps state fallback) state state
  | .ifNonempty body inner => do
    let text ← state.declared.trimmed body
    if text.isEmpty then .ok state
    else inBlock (fun state => context.steps state inner) state state
  | .ifList items collection inner => do
    let value ← state.declared.value collection
    match value.items? with
    | none => .ok state
    | some list =>
      inBlock (fun state => context.steps state inner) state (state.declare items (.items list))
  | .forEach counter item items inner => do
    let list ← state.declared.items items
    forItems (fun state => context.steps state inner) counter item 0 state list
  | .ifLater counter inner => do
    let index ← state.declared.counter counter
    if index == 0 then .ok state
    else inBlock (fun state => context.steps state inner) state state
  | .remark _ => .ok state
termination_by structural code => code

/-- Runs steps one after the other. -/
def steps (context : RunContext) (state : RunState) : List Code → Except Fault RunState
  | [] => .ok state
  | code :: rest => do
    let state ← context.step state code
    context.steps state rest
termination_by structural codes => codes

/-- Runs the block of the first test that holds, and tells whether there was one. -/
def firstBranch (context : RunContext) (state : RunState) :
    List (TestCode Variable × List Code) → Except Fault (Bool × RunState)
  | [] => .ok (false, state)
  | (test, inner) :: rest => do
    let (holds, state) ← context.test state test
    if holds then
      let state ← inBlock (fun state => context.steps state inner) state state
      .ok (true, state)
    else context.firstBranch state rest
termination_by structural branches => branches

end

end RunContext

/-- Runs a function, starting and ending with a cache of members. -/
def Function.run (function : Function) (style : MarkerStyle) (parameter : Accessor)
    (members : MemberCache) : Except Fault (RenderedSql × MemberCache) := do
  let context : RunContext := { style, parameter, statement := function.statement }
  let state ← context.steps { members } function.body
  .ok (.finish state.sql state.parameters, state.members)

end SqlMapper.Generated
