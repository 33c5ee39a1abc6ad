import SqlMapper.Diagnostic.Basic
import SqlMapper.Template.Placeholder
import SqlMapper.Text.Integer
import SqlMapper.Xml.Event

/-!
# Reading mappers

A mapper is read from the events of its XML by a machine with a stack of open elements.  Every
element has a role that says what becomes of its content when it closes.  Misuse of directives is
reported and reading goes on; a fault of the XML stops it.
-/

namespace SqlMapper

open Xml (Element Event Located)

/-- What the content of an open element is for. -/
inductive Role where
  /-- What stands around the root of a mapper. -/
  | outside
  /-- A template on its own. -/
  | template
  | mapper
  | statement (kind : StatementKind)
  | fragment
  /-- An unknown element; its content counts as content of its parent. -/
  | inline
  | condition (test : String)
  | clause (kind : Clause)
  | loop (header : Loop)
  | choice (branches : List (String × List Node)) (fallback : Option (List Node))
  | branch (test : String)
  | fallback
  /-- An element without content of interest; `depth` more elements are open inside. -/
  | skipped (result : Option Node) (depth : Nat)

/-- An open element with the nodes read inside it. -/
structure Frame where
  /-- The tag; what stands around everything has none. -/
  element : Option Element
  role : Role
  nodes : List Node := []

/-- How far reading has come. -/
inductive Progress where
  | running
  | finished
  | halted
deriving DecidableEq

/-- The state of reading. -/
structure Reader where
  /-- The open elements, innermost first. -/
  stack : List Frame
  /-- The declarations read so far. -/
  mapper : Mapper := default
  /-- The findings so far. -/
  diagnostics : List Diagnostic := []
  progress : Progress := .running

namespace Element

/-- The bytes of a tag. -/
def span (element : Element) : Span :=
  ⟨element.start, element.stop⟩

end Element

namespace Role

/-- Elements of a mapper that belong to other layers. -/
def foreignDeclarations : List String := ["resultMap", "parameterMap", "cache", "cache-ref"]

def collects : Role → Bool
  | .outside | .mapper | .choice _ _ | .skipped _ _ => false
  | _ => true

end Role

namespace Reader

/-- The declaration that is being read. -/
def owner? (reader : Reader) : Option String :=
  reader.stack.findSome? fun frame =>
    match frame.role with
    | .statement _ | .fragment =>
      let id := (frame.element.bind (·.attribute? "id")).getD "?"
      some (reader.mapper.qualify id)
    | _ => none

/-- Adds a finding about the declaration that is being read. -/
def report (reader : Reader) (kind : DiagnosticKind) (span : Span) (detail : Option String) :
    Reader :=
  let finding : Diagnostic := { kind, span, detail, owner := reader.owner? }
  { reader with diagnostics := reader.diagnostics ++ [finding] }

/-- Stops reading for a fault of the XML. -/
def halt (reader : Reader) (span : Span) (detail : String) : Reader :=
  { reader.report .malformedXml span (some detail) with progress := .halted }

def push (reader : Reader) (element : Element) (role : Role) : Reader :=
  { reader with stack := { element := some element, role } :: reader.stack }

/-- Reports a required attribute that is missing. -/
def require (reader : Reader) (element : Element) (key : String) : Reader :=
  match element.attribute? key with
  | some _ => reader
  | none =>
    reader.report .missingAttribute (Element.span element)
      (some s!"`{key}` on `<{element.name}>`")

/-- Changes the innermost open element. -/
def modifyTop (reader : Reader) (change : Frame → Frame) : Reader :=
  match reader.stack with
  | [] => reader
  | frame :: rest => { reader with stack := change frame :: rest }

/-- Adds nodes to the innermost open element. -/
def addNodes (reader : Reader) (added : List Node) : Reader :=
  reader.modifyTop fun frame => { frame with nodes := Node.appendAll frame.nodes added }

/-- Adds one directive to the innermost open element. -/
def addDirective (reader : Reader) (node : Node) : Reader :=
  reader.modifyTop fun frame => { frame with nodes := frame.nodes ++ [node] }

/-- The id that a reference means; the namespace of the mapper itself may stand in front. -/
def localReference (nameSpace reference : String) : String :=
  let lead := nameSpace.toList ++ ['.']
  if !nameSpace.isEmpty && lead.isPrefixOf reference.toList then
    String.ofList (reference.toList.drop lead.length)
  else reference

def openRoot (reader : Reader) (element : Element) : Reader :=
  if element.name != "mapper" then
    reader.halt (Element.span element)
      s!"expected `<mapper>` root element, found `<{element.name}>`"
  else
    let reader := reader.require element "namespace"
    let mapper : Mapper := { nameSpace := (element.attribute? "namespace").getD "" }
    { reader with mapper }.push element .mapper

def openDeclaration (reader : Reader) (element : Element) : Reader :=
  if element.name == "sql" then (reader.push element .fragment).require element "id"
  else
    match StatementKind.ofTag? element.name with
    | some kind => (reader.push element (.statement kind)).require element "id"
    | none =>
      let reader :=
        if element.name ∈ Role.foreignDeclarations then reader
        else reader.report .unknownElement (Element.span element) (some element.name)
      reader.push element (.skipped none 0)

def openDirective (reader : Reader) (element : Element) : Reader :=
  let value (key : String) : String := (element.attribute? key).getD ""
  match element.name with
  | "if" => (reader.require element "test").push element (.condition (value "test"))
  | "choose" => reader.push element (.choice [] none)
  | "where" => reader.push element (.clause .whereClause)
  | "set" => reader.push element (.clause .setClause)
  | "foreach" =>
    let header : Loop := {
      collection := value "collection"
      item := value "item"
      index := element.attribute? "index"
      opening := element.attribute? "open"
      closing := element.attribute? "close"
      separator := element.attribute? "separator" }
    ((reader.require element "collection").require element "item").push element (.loop header)
  | "bind" =>
    let node := Node.bind (value "name") (value "value")
    ((reader.require element "name").require element "value").push element
      (.skipped (some node) 0)
  | "include" =>
    let node := Node.reference (localReference reader.mapper.nameSpace (value "refid"))
    (reader.require element "refid").push element (.skipped (some node) 0)
  | name =>
    (reader.report .unknownElement (Element.span element) (some name)).push element .inline

def openBranch (reader : Reader) (element : Element) : Reader :=
  match element.name with
  | "when" =>
    (reader.require element "test").push element (.branch ((element.attribute? "test").getD ""))
  | "otherwise" => reader.push element .fallback
  | name =>
    (reader.report .unknownElement (Element.span element) (some name)).push element
      (.skipped none 0)

/-- Opens an element inside the innermost open one. -/
def openElement (reader : Reader) (element : Element) : Reader :=
  match reader.stack with
  | [] => reader
  | frame :: rest =>
    match frame.role with
    | .outside => reader.openRoot element
    | .mapper => reader.openDeclaration element
    | .choice _ _ => reader.openBranch element
    | .skipped result depth =>
      { reader with stack := { frame with role := .skipped result (depth + 1) } :: rest }
    | _ => reader.openDirective element

/-- The time limit of a statement; a value that is no number is reported. -/
def readTimeout (reader : Reader) (element : Element) : Option Nat × Reader :=
  match element.attribute? "timeout" with
  | none => (none, reader)
  | some text =>
    match Text.readNat? UInt32.size (Text.trim text.toList) with
    | some seconds => (some seconds, reader)
    | none => (none, reader.report .invalidNumber (Element.span element) (some text))

/-- Adds a finding about a declaration that is named. -/
def reportRepeated (reader : Reader) (kind : DiagnosticKind) (span : Span) (id : String) :
    Reader :=
  let owner := reader.mapper.qualify id
  let finding : Diagnostic := { kind, span, detail := some id, owner := some owner }
  { reader with diagnostics := reader.diagnostics ++ [finding] }

/-- Declares a statement whose element has just been read up to `stop`.  One without an id is
dropped, and so is one whose id is taken. -/
def closeStatement (reader : Reader) (outer : List Frame) (element : Element)
    (kind : StatementKind) (nodes : List Node) (stop : Nat) : Reader :=
  let span : Span := ⟨element.start, stop⟩
  let (timeout, reader) := reader.readTimeout element
  let reader := { reader with stack := outer }
  match element.attribute? "id" with
  | none => reader
  | some id =>
    if (reader.mapper.statement? id).isSome then
      reader.reportRepeated .duplicateStatement span id
    else
      let statement : Statement := {
        id, kind, timeout, span
        root := Node.sequence nodes
        result := element.attribute? "resultMap" <|> element.attribute? "resultType"
        parameterType := element.attribute? "parameterType" }
      let statements := reader.mapper.statements ++ [statement]
      { reader with mapper := { reader.mapper with statements } }

/-- Declares a fragment whose element has just been read up to `stop`, under the rules for
statements. -/
def closeFragment (reader : Reader) (outer : List Frame) (element : Element)
    (nodes : List Node) (stop : Nat) : Reader :=
  let span : Span := ⟨element.start, stop⟩
  let reader := { reader with stack := outer }
  match element.attribute? "id" with
  | none => reader
  | some id =>
    if (reader.mapper.fragment? id).isSome then
      reader.reportRepeated .duplicateFragment span id
    else
      let fragments := reader.mapper.fragments ++ [{ id, span, root := Node.sequence nodes }]
      { reader with mapper := { reader.mapper with fragments } }

def addBranch (reader : Reader) (test : String) (nodes : List Node) : Reader :=
  reader.modifyTop fun frame =>
    match frame.role with
    | .choice branches fallback =>
      { frame with role := .choice (branches ++ [(test, nodes)]) fallback }
    | _ => frame

/-- Whether the choice on top has its fallback. -/
def hasFallback (reader : Reader) : Bool :=
  match reader.stack with
  | { role := .choice _ (some _), .. } :: _ => true
  | _ => false

/-- Gives the choice around it a fallback; only the first one counts. -/
def setFallback (reader : Reader) (element : Element) (nodes : List Node) : Reader :=
  if reader.hasFallback then reader.report .duplicateOtherwise (Element.span element) none
  else
    reader.modifyTop fun frame =>
      match frame.role with
      | .choice branches _ => { frame with role := .choice branches (some nodes) }
      | _ => frame

/-- Adds a choice to what is around it; one without branches is reported. -/
def closeChoice (reader : Reader) (element : Element) (branches : List (String × List Node))
    (fallback : Option (List Node)) : Reader :=
  let reader :=
    if branches.isEmpty then reader.report .emptyChoose (Element.span element) none else reader
  reader.addDirective (.choice branches fallback)

/-- Closes the innermost open element, read up to `stop`. -/
def closeElement (reader : Reader) (stop : Nat) : Reader :=
  match reader.stack with
  | { element := some element, role, nodes } :: outer =>
    let closed := { reader with stack := outer }
    match role with
    | .outside | .template => reader
    | .mapper => { closed with progress := .finished }
    | .statement kind => reader.closeStatement outer element kind nodes stop
    | .fragment => reader.closeFragment outer element nodes stop
    | .inline => closed.addNodes nodes
    | .condition test => closed.addDirective (.condition test nodes)
    | .clause kind => closed.addDirective (.clause kind nodes)
    | .loop header => closed.addDirective (.loop header nodes)
    | .choice branches fallback => closed.closeChoice element branches fallback
    | .branch test => closed.addBranch test nodes
    | .fallback => closed.setFallback element nodes
    | .skipped none 0 => closed
    | .skipped (some node) 0 => closed.addDirective node
    | .skipped result (depth + 1) =>
      { reader with stack := { element, role := .skipped result depth, nodes } :: outer }
  | _ => reader

/-- Reads text inside the innermost open element. -/
def addText (reader : Reader) (content : String) (stop : Nat) : Reader :=
  match reader.stack with
  | [] => reader
  | frame :: _ =>
    match frame.role with
    | .outside =>
      if content.toList.all Text.isBlank then reader
      else reader.halt ⟨stop, stop⟩ "content outside `<mapper>`"
    | role => if role.collects then reader.addNodes (Node.scan content) else reader

/-- Reads one event. -/
def step (reader : Reader) (located : Located) : Reader :=
  if reader.progress != .running then reader
  else
    match located.event with
    | .text content => reader.addText content located.stop
    | .closing => reader.closeElement located.stop
    | .opening element =>
      let opened := reader.openElement element
      if element.isEmpty && opened.progress == .running then opened.closeElement located.stop
      else opened

/-- Comes to the end of the events. -/
def finish (reader : Reader) (ending : Xml.Ending) : Reader :=
  if reader.progress != .running then reader
  else
    match ending with
    | .fault start stop cause => reader.halt ⟨start, stop⟩ cause.message
    | .complete =>
      match reader.stack with
      | { element := some element, .. } :: _ =>
        reader.halt (Element.span element) s!"`<{element.name}>` is never closed"
      | { role := .template, .. } :: _ => { reader with progress := .finished }
      | _ => reader.halt ⟨0, 0⟩ "missing `<mapper>` root element"

def readAll (role : Role) (source : String) : Reader :=
  let document := Xml.Document.read source
  let start : Reader := { stack := [{ element := none, role }] }
  (document.events.foldl step start).finish document.ending

/-- Whether reading came to its end without a finding that stops the compilation. -/
def succeeded (reader : Reader) : Bool :=
  reader.progress == .finished && !Diagnostic.hasFatal reader.diagnostics

end Reader

/-- What was read with its findings, or the findings if nothing could be made of the source. -/
abbrev ReadResult (α : Type) : Type := Except (List Diagnostic) (α × List Diagnostic)

def Mapper.parse (source : String) : ReadResult Mapper :=
  let reader := Reader.readAll .outside source
  if reader.succeeded then .ok (reader.mapper, reader.diagnostics) else .error reader.diagnostics

/-- Reads a template on its own: text with placeholders and directives. -/
def Node.parse (source : String) : ReadResult Node :=
  let reader := Reader.readAll .template source
  let nodes := reader.stack.head?.elim [] (·.nodes)
  if reader.succeeded then .ok (Node.sequence nodes, reader.diagnostics)
  else .error reader.diagnostics

/-- Reads a template on its own as a fragment. -/
def Fragment.parse (id source : String) : ReadResult Fragment :=
  match Node.parse source with
  | .error diagnostics => .error diagnostics
  | .ok (root, diagnostics) =>
    .ok ({ id, root, span := ⟨0, Text.utf8Length source.toList⟩ }, diagnostics)

end SqlMapper
