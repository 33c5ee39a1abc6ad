import SqlMapper.Template.Node
import SqlMapper.Text.Blank
import SqlMapper.Text.Quoted

/-!
# Outlines of templates

An outline shows a template with one line for each node, children indented under their parent.
-/

namespace SqlMapper

namespace Outline

/-- A line at a depth. -/
def line (depth : Nat) (text : String) : String :=
  String.ofList (List.replicate (2 * depth) ' ') ++ text

/-- Lines as one text, without white space at its end. -/
def join (lines : List String) : String :=
  String.ofList (Text.trimEnd ("\n".intercalate lines).toList)

end Outline

/-- What a loop runs over, with the texts it writes. -/
def Loop.outline (header : Loop) : String :=
  let index := (header.index.map fun name => s!" index {name}").getD ""
  let label (name : String) (text : Option String) : String :=
    (text.map fun text => s!" {name} {Text.quoted text}").getD ""
  s!"{header.collection} as {header.item}" ++ index ++ label "open" header.opening
    ++ label "separator" header.separator ++ label "close" header.closing

def Clause.outline : Clause → String
  | .whereClause => "Where"
  | .setClause => "Set"

namespace Node

mutual

/-- The lines of a tree at a depth. -/
def outlineAt (depth : Nat) : Node → List String
  | .text content => [Outline.line depth s!"Text {Text.quoted content}"]
  | .parameter name raw =>
    let sigil := if raw then "$" else "#"
    [Outline.line depth ("Param " ++ sigil ++ "\x7b" ++ name ++ "\x7d")]
  | .condition test children =>
    Outline.line depth s!"If {Text.quoted test}" :: outlineAll (depth + 1) children
  | .choice branches none =>
    Outline.line depth "Choose" :: outlineBranches (depth + 1) branches
  | .choice branches (some children) =>
    Outline.line depth "Choose" :: outlineBranches (depth + 1) branches
      ++ Outline.line (depth + 1) "Otherwise" :: outlineAll (depth + 2) children
  | .clause kind children =>
    Outline.line depth kind.outline :: outlineAll (depth + 1) children
  | .loop header children =>
    Outline.line depth s!"ForEach {header.outline}" :: outlineAll (depth + 1) children
  | .bind name value => [Outline.line depth s!"Bind {name} = {Text.quoted value}"]
  | .reference fragment => [Outline.line depth s!"Include {fragment}"]
  | .mixed children => Outline.line depth "Mixed" :: outlineAll (depth + 1) children

/-- The lines of trees at one depth. -/
def outlineAll (depth : Nat) : List Node → List String
  | [] => []
  | node :: rest => outlineAt depth node ++ outlineAll depth rest

/-- The lines of the branches of a choice. -/
def outlineBranches (depth : Nat) : List (String × List Node) → List String
  | [] => []
  | (test, children) :: rest =>
    (Outline.line depth s!"When {Text.quoted test}" :: outlineAll (depth + 1) children)
      ++ outlineBranches depth rest

end

def outline (node : Node) : String :=
  Outline.join (node.outlineAt 0)

end Node

end SqlMapper
