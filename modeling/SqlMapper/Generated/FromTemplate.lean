import SqlMapper.Config
import SqlMapper.Generated.Code
import SqlMapper.Generated.Name
import SqlMapper.Mapper.Basic

/-!
# From templates to functions

Each directive becomes the steps that do what rendering it does, with a variable for every name that
the template binds.  A raw substitution is guarded unless its path is declared to be a checked
identifier.
-/

namespace SqlMapper.Generated

/-- What is carried along while steps are generated. -/
structure Generation where
  /-- The number of the next variable. -/
  next : Nat := 0
  /-- The variables for the names in scope. -/
  locals : Scope Variable := {}

namespace Generation

/-- A new variable for a purpose. -/
def fresh (state : Generation) (role : Role) : Variable × Generation :=
  ({ role, number := state.next }, { state with next := state.next + 1 })

def bind (state : Generation) (name : String) (target : Variable) : Generation :=
  { state with locals := state.locals.push name target }

/-- Leaves a block: its names are forgotten, the numbers stay taken. -/
def leave (outer inner : Generation) : Generation :=
  { inner with locals := outer.locals }

/-- What was generated for a block, which is left. -/
def closeBlock (outer : Generation) (generated : List Code × Generation) :
    List Code × Generation :=
  (generated.1, leave outer generated.2)

/-- The step that gives the index of a loop a value, if the loop has one. -/
def declareIndex (state : Generation) (header : Loop) (counter : Variable) :
    List Code × Generation :=
  match header.index with
  | none => ([], state)
  | some name =>
    let (index, state) := state.fresh .index
    ([.defineIndex index counter], state.bind name index)

end Generation

/-- The step that writes the text between items. -/
def separatorCode (buffer : Buffer) (header : Loop) (counter : Variable) : List Code :=
  match header.separator with
  | none => []
  | some text => if text.isEmpty then [] else [.ifLater counter [.push buffer text]]

/-- The step that writes the text in front of the items or behind them. -/
def edgeCode (buffer : Buffer) (text : Option String) : List Code :=
  (text.map (Code.push buffer)).toList

/-- The step for a raw substitution. -/
def spliceCode (trusts : String → Bool) (buffer : Buffer) (locals : Scope Variable)
    (name : String) : Code :=
  let path := Path.ofPlaceholder name
  let value := ofPath locals path
  if trusts path.toText then .pushTrusted buffer value
  else .pushGuarded buffer path.toText value

def clauseCode (buffer : Buffer) (kind : Clause) (body : Variable) (inner : List Code) : Code :=
  let written := [.push buffer kind.keyword, .pushBody buffer body]
  .block (.openBody body :: inner ++ [.trimBody kind body, .ifNonempty body written])

mutual

/-- The steps that write a tree into a buffer, where `trusts` selects the paths whose raw
substitution needs no guard. -/
def generate (trusts : String → Bool) (buffer : Buffer) (state : Generation) :
    Node → List Code × Generation
  | .text content => (if content.isEmpty then [] else [.push buffer content], state)
  | .parameter name false =>
    ([.pushMark buffer (ofPath state.locals (.ofPlaceholder name))], state)
  | .parameter name true => ([spliceCode trusts buffer state.locals name], state)
  | .condition test children =>
    let (body, after) := state.closeBlock (generateAll trusts buffer state children)
    ([.branch [(ofTest state.locals (.parse test), body)] none], after)
  | .choice branches none =>
    let (blocks, state) := generateBranches trusts buffer state branches
    ([.branch blocks none], state)
  | .choice branches (some children) =>
    let (blocks, state) := generateBranches trusts buffer state branches
    let (fallback, state) := state.closeBlock (generateAll trusts buffer state children)
    ([.branch blocks (some fallback)], state)
  | .clause kind children =>
    let (body, state) := state.fresh (.clause kind)
    let (inner, state) := state.closeBlock (generateAll trusts (.side body) state children)
    ([clauseCode buffer kind body inner], state)
  | .loop header children =>
    let value := ofPath state.locals (.ofPlaceholder header.collection)
    let (collection, state) := state.fresh .collection
    let (items, state) := state.fresh .items
    let (counter, state) := state.fresh .counter
    let (item, state) := state.fresh .item
    let (index, entered) := (state.bind header.item item).declareIndex header counter
    let (inner, state) := state.closeBlock (generateAll trusts buffer entered children)
    let body := separatorCode buffer header counter ++ index ++ inner
    let run := edgeCode buffer header.opening ++ [.forEach counter item items body]
      ++ edgeCode buffer header.closing
    ([.define collection (.value value), .ifList items collection run], state)
  | .bind name value =>
    let code := ofBind state.locals (.parse value)
    let (bound, state) := state.fresh .bind
    ([.define bound code], state.bind name bound)
  | .reference fragment => ([.remark fragment], state)
  | .mixed children => generateAll trusts buffer state children
termination_by structural node => node

/-- The steps that write trees one after the other. -/
def generateAll (trusts : String → Bool) (buffer : Buffer) (state : Generation) :
    List Node → List Code × Generation
  | [] => ([], state)
  | node :: rest =>
    let (code, state) := generate trusts buffer state node
    let (codes, state) := generateAll trusts buffer state rest
    (code ++ codes, state)
termination_by structural nodes => nodes

/-- The tests and blocks of branches. -/
def generateBranches (trusts : String → Bool) (buffer : Buffer) (state : Generation) :
    List (String × List Node) → List (TestCode Variable × List Code) × Generation
  | [] => ([], state)
  | (test, children) :: rest =>
    let (body, after) := state.closeBlock (generateAll trusts buffer state children)
    let (others, after) := generateBranches trusts buffer after rest
    ((ofTest state.locals (.parse test), body) :: others, after)
termination_by structural branches => branches

end

def ofStatement (config : Config) (mapper : Mapper) (name : String) (statement : Statement) :
    Function where
  name
  statement := mapper.qualify statement.id
  body := (generate (config.trusts statement.id) .output {} statement.root).1

/-- Names that every module uses itself. -/
def reservedNames : List String :=
  ["compare", "truthy", "guard_identifier", "items", "stringify", "trim_set_body",
    "trim_where_body"]

def ofMapper (config : Config) (mapper : Mapper) : Module where
  name := snakeCase mapper.nameSpace
  nameSpace := mapper.nameSpace
  functions :=
    let names := NameTable.uniqueAll { used := reservedNames } (mapper.statements.map (·.id))
    names.zipWith (ofStatement config mapper) mapper.statements

end SqlMapper.Generated
