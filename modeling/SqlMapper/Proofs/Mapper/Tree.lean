import SqlMapper.Mapper.Reader
import SqlMapper.Xml.Tree

/-!
# Mappers as trees

What a mapper in the form of a tree declares, and what is found wrong with it, by recursion on the
tree.  Nothing here depends on how far reading has come: an element stands for what its own children
stand for.
-/

namespace SqlMapper

namespace Node

/-- Nodes with texts in a row joined and empty texts left out. -/
def joined (nodes : List Node) : List Node :=
  appendAll [] nodes

end Node

namespace Xml

/-- What an element inside a template is for. -/
inductive Directive where
  | condition
  | choice
  | clause (kind : Clause)
  | loop
  | bind
  | reference
  | unknown

def Directive.ofName : String → Directive
  | "if" => .condition
  | "choose" => .choice
  | "where" => .clause .whereClause
  | "set" => .clause .setClause
  | "foreach" => .loop
  | "bind" => .bind
  | "include" => .reference
  | _ => .unknown

/-- What an element inside a choice is for. -/
inductive Alternative where
  | branch
  | fallback
  | unknown

def Alternative.ofName : String → Alternative
  | "when" => .branch
  | "otherwise" => .fallback
  | _ => .unknown

/-- What an element directly below the root of a mapper is for. -/
inductive Section where
  | fragment
  | statement (kind : StatementKind)
  | foreign
  | unknown

def Section.ofName (name : String) : Section :=
  if name = "sql" then .fragment
  else
    match StatementKind.ofTag? name with
    | some kind => .statement kind
    | none => if name ∈ Role.foreignDeclarations then .foreign else .unknown

namespace Tag

def span (tag : Tag) : Span :=
  ⟨tag.start, tag.stop⟩

/-- The finding about an attribute that is required and missing. -/
def requiring (tag : Tag) (owner : Option String) (key : String) : List Diagnostic :=
  match tag.attribute? key with
  | some _ => []
  | none =>
    [{ kind := .missingAttribute, span := tag.span, detail := some s!"`{key}` on `<{tag.name}>`"
       owner }]

/-- The finding about an element that is not known. -/
def unknown (tag : Tag) (owner : Option String) : Diagnostic :=
  { kind := .unknownElement, span := tag.span, detail := some tag.name, owner }

/-- The head of a loop. -/
def loop (tag : Tag) : Loop where
  collection := tag.value "collection"
  item := tag.value "item"
  index := tag.attribute? "index"
  opening := tag.attribute? "open"
  closing := tag.attribute? "close"
  separator := tag.attribute? "separator"

/-- What is found wrong with the tag of an element inside a template. -/
def directiveFindings (tag : Tag) (owner : Option String) : List Diagnostic :=
  match Directive.ofName tag.name with
  | .condition => tag.requiring owner "test"
  | .choice | .clause _ => []
  | .loop => tag.requiring owner "collection" ++ tag.requiring owner "item"
  | .bind => tag.requiring owner "name" ++ tag.requiring owner "value"
  | .reference => tag.requiring owner "refid"
  | .unknown => [tag.unknown owner]

/-- The time limit of a statement. -/
def timeout? (tag : Tag) : Option Nat := do
  let text ← tag.attribute? "timeout"
  Text.readNat? UInt32.size (Text.trim text.toList)

/-- The finding about a time limit that is no number. -/
def timeoutFinding (tag : Tag) (owner : Option String) : List Diagnostic :=
  match tag.attribute? "timeout", tag.timeout? with
  | some text, none => [{ kind := .invalidNumber, span := tag.span, detail := some text, owner }]
  | _, _ => []

/-- The declaration that a tag opens, as it is named in findings. -/
def owner (tag : Tag) (nameSpace : String) : Option String :=
  some (Mapper.qualifyIn nameSpace ((tag.attribute? "id").getD "?"))

/-- The finding about an id that is declared before; the element of the tag ends behind `stop`. -/
def repetition (tag : Tag) (nameSpace : String) (stop : Nat) (taken : List (DiagnosticKind × String))
    (kind : DiagnosticKind) : List Diagnostic :=
  match tag.attribute? "id" with
  | none => []
  | some id =>
    if (kind, id) ∈ taken then
      [{ kind, span := ⟨tag.start, stop⟩, detail := some id
         owner := some (Mapper.qualifyIn nameSpace id) }]
    else []

end Tag

namespace Tree

/-- Whether a tree is an element of a name. -/
def isNamed (name : String) : Tree → Bool
  | .text _ => false
  | .element tag _ _ => tag.name == name

mutual

/-- The nodes that a tree inside a template stands for. -/
def nodes (nameSpace : String) : Tree → List Node
  | .text content => Node.scan content
  | .element tag children _ =>
    match Directive.ofName tag.name with
    | .condition =>
      [.condition (tag.value "test") (Node.joined (nodesOfAll nameSpace children))]
    | .choice => [.choice (branches nameSpace children) (fallbacks nameSpace children).head?]
    | .clause kind => [.clause kind (Node.joined (nodesOfAll nameSpace children))]
    | .loop => [.loop tag.loop (Node.joined (nodesOfAll nameSpace children))]
    | .bind => [.bind (tag.value "name") (tag.value "value")]
    | .reference => [.reference (Reader.localReference nameSpace (tag.value "refid"))]
    | .unknown => nodesOfAll nameSpace children

/-- The nodes that trees one after the other stand for. -/
def nodesOfAll (nameSpace : String) : List Tree → List Node
  | [] => []
  | tree :: rest => nodes nameSpace tree ++ nodesOfAll nameSpace rest

/-- The branches of a choice. -/
def branches (nameSpace : String) : List Tree → List (String × List Node)
  | [] => []
  | .text _ :: rest => branches nameSpace rest
  | .element tag children _ :: rest =>
    match Alternative.ofName tag.name with
    | .branch =>
      (tag.value "test", Node.joined (nodesOfAll nameSpace children)) :: branches nameSpace rest
    | .fallback | .unknown => branches nameSpace rest

/-- The fallbacks of a choice, of which the first one counts. -/
def fallbacks (nameSpace : String) : List Tree → List (List Node)
  | [] => []
  | .text _ :: rest => fallbacks nameSpace rest
  | .element tag children _ :: rest =>
    match Alternative.ofName tag.name with
    | .fallback => Node.joined (nodesOfAll nameSpace children) :: fallbacks nameSpace rest
    | .branch | .unknown => fallbacks nameSpace rest

end

mutual

/-- What is found wrong with a tree inside a template, for the declaration that it belongs to. -/
def findings (owner : Option String) : Tree → List Diagnostic
  | .text _ => []
  | .element tag children _ =>
    tag.directiveFindings owner ++
      match Directive.ofName tag.name with
      | .condition | .clause _ | .loop | .unknown => findingsOfAll owner children
      | .choice =>
        choiceFindings owner false children
          ++ if children.any (isNamed "when") then []
            else [{ kind := .emptyChoose, span := tag.span, owner }]
      | .bind | .reference => []

/-- What is found wrong with trees one after the other. -/
def findingsOfAll (owner : Option String) : List Tree → List Diagnostic
  | [] => []
  | tree :: rest => findings owner tree ++ findingsOfAll owner rest

/-- What is found wrong with the children of a choice, given whether it has a fallback already. -/
def choiceFindings (owner : Option String) (decided : Bool) : List Tree → List Diagnostic
  | [] => []
  | .text _ :: rest => choiceFindings owner decided rest
  | .element tag children _ :: rest =>
    match Alternative.ofName tag.name with
    | .branch =>
      tag.requiring owner "test" ++ findingsOfAll owner children
        ++ choiceFindings owner decided rest
    | .fallback =>
      findingsOfAll owner children
        ++ (if decided then [{ kind := .duplicateOtherwise, span := tag.span, owner }] else [])
        ++ choiceFindings owner true rest
    | .unknown => tag.unknown owner :: choiceFindings owner decided rest

end

/-- A choice has a branch where it has an element for one. -/
theorem any_isNamed_when (nameSpace : String) (trees : List Tree) :
    trees.any (isNamed "when") = !(branches nameSpace trees).isEmpty := by
  induction trees with
  | nil => rfl
  | cons tree rest ih =>
    cases tree with
    | text content => rw [branches, ← ih, List.any_cons, isNamed, Bool.false_or]
    | element tag children stop =>
      rw [branches, List.any_cons, isNamed]
      fun_cases Alternative.ofName tag.name <;> simp_all

/-- What a child of the root declares: an id, and the kind of finding if the id is taken. -/
def declares? : Tree → Option (DiagnosticKind × String)
  | .text _ => none
  | .element tag _ _ =>
    match Section.ofName tag.name with
    | .fragment => (tag.attribute? "id").map (.duplicateFragment, ·)
    | .statement _ => (tag.attribute? "id").map (.duplicateStatement, ·)
    | .foreign | .unknown => none

/-- The statement that a child of the root declares. -/
def statement? (nameSpace : String) : Tree → Option Statement
  | .text _ => none
  | .element tag children stop =>
    match Section.ofName tag.name with
    | .statement kind =>
      (tag.attribute? "id").map fun id =>
        { id, kind
          root := Node.sequence (Node.joined (nodesOfAll nameSpace children))
          result := tag.attribute? "resultMap" <|> tag.attribute? "resultType"
          parameterType := tag.attribute? "parameterType"
          timeout := tag.timeout?
          span := ⟨tag.start, stop⟩ }
    | .fragment | .foreign | .unknown => none

/-- The fragment that a child of the root declares. -/
def fragment? (nameSpace : String) : Tree → Option Fragment
  | .text _ => none
  | .element tag children stop =>
    match Section.ofName tag.name with
    | .fragment =>
      (tag.attribute? "id").map fun id =>
        { id
          root := Node.sequence (Node.joined (nodesOfAll nameSpace children))
          span := ⟨tag.start, stop⟩ }
    | .statement _ | .foreign | .unknown => none

/-- What is found wrong with a child of the root, given what is declared before it. -/
def sectionFindings (nameSpace : String) (taken : List (DiagnosticKind × String)) :
    Tree → List Diagnostic
  | .text _ => []
  | .element tag children stop =>
    let owner := tag.owner nameSpace
    let content := tag.requiring owner "id" ++ findingsOfAll owner children
    match Section.ofName tag.name with
    | .fragment => content ++ tag.repetition nameSpace stop taken .duplicateFragment
    | .statement _ =>
      content ++ (tag.timeoutFinding owner
        ++ tag.repetition nameSpace stop taken .duplicateStatement)
    | .foreign => []
    | .unknown => [tag.unknown none]

/-- What is found wrong with the children of the root, given what is declared before them. -/
def rootFindings (nameSpace : String) (taken : List (DiagnosticKind × String)) :
    List Tree → List Diagnostic
  | [] => []
  | child :: rest =>
    child.sectionFindings nameSpace taken
      ++ rootFindings nameSpace (child.declares?.toList ++ taken) rest

/-- Whether a child of the root declares nothing that is declared before it. -/
def isFirst (taken : List (DiagnosticKind × String)) (child : Tree) : Bool :=
  child.declares?.all (· ∉ taken)

/-- The children of the root that declare nothing which is declared before them. -/
def firsts (taken : List (DiagnosticKind × String)) : List Tree → List Tree
  | [] => []
  | child :: rest =>
    let later := firsts (child.declares?.toList ++ taken) rest
    if child.isFirst taken then child :: later else later

theorem firsts_singleton (taken : List (DiagnosticKind × String)) (child : Tree) :
    firsts taken [child] = if child.isFirst taken then [child] else [] := rfl

theorem firsts_cons (taken : List (DiagnosticKind × String)) (child : Tree) (rest : List Tree) :
    firsts taken (child :: rest)
      = firsts taken [child] ++ firsts (child.declares?.toList ++ taken) rest := by
  rw [firsts_singleton, firsts]
  cases child.isFirst taken <;> rfl

end Tree

/-- The mapper in the form of an element and its children.  Of several statements with one id the first
one counts, and so it is with fragments. -/
def Tag.mapper (tag : Tag) (children : List Tree) : Mapper :=
  let nameSpace := tag.value "namespace"
  let kept := Tree.firsts [] children
  { nameSpace
    statements := kept.filterMap (Tree.statement? nameSpace)
    fragments := kept.filterMap (Tree.fragment? nameSpace) }

/-- What is found wrong with a mapper in the form of an element and its children. -/
def Tag.mapperFindings (tag : Tag) (children : List Tree) : List Diagnostic :=
  tag.requiring none "namespace" ++ Tree.rootFindings (tag.value "namespace") [] children

/-- What is read from a mapper in the form of an element and its children. -/
def Tag.readMapper (tag : Tag) (children : List Tree) : ReadResult Mapper :=
  let findings := tag.mapperFindings children
  if Diagnostic.hasFatal findings then .error findings else .ok (tag.mapper children, findings)

end Xml

end SqlMapper
