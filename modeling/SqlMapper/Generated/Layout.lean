/-!
# Layout of generated source

Source is a list of lines.  A line opens a block, closes one, does both or neither, and that alone
decides how far it is indented.
-/

namespace SqlMapper.Generated

inductive Line where
  | plain (text : String)
  /-- A line that opens a block. -/
  | opening (text : String)
  /-- A line that closes a block. -/
  | closing (text : String)
  /-- A line that closes a block and opens the next one. -/
  | reopening (text : String)
  | blank
deriving DecidableEq

namespace Line

def text : Line → String
  | .plain text | .opening text | .closing text | .reopening text => text
  | .blank => ""

/-- The depth at which a line stands, given the depth before it. -/
def depth (before : Nat) : Line → Nat
  | .plain _ | .opening _ | .blank => before
  | .closing _ | .reopening _ => before - 1

/-- The depth after a line, given the depth before it. -/
def depthAfter (before : Nat) (line : Line) : Nat :=
  match line with
  | .plain _ | .closing _ | .blank => line.depth before
  | .opening _ | .reopening _ => line.depth before + 1

/-- A line with its indentation and its end. -/
def render (before : Nat) (line : Line) : String :=
  match line with
  | .blank => "\n"
  | _ => String.ofList (List.replicate (4 * line.depth before) ' ') ++ line.text ++ "\n"

/-- Lines one after the other. -/
def renderAll (before : Nat) : List Line → String
  | [] => ""
  | line :: rest => line.render before ++ renderAll (line.depthAfter before) rest

end Line

end SqlMapper.Generated
