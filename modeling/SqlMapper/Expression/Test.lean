import SqlMapper.Expression.Literal
import SqlMapper.Expression.Path
import SqlMapper.Expression.Token

/-!
# Tests

A test joins conditions with one junction: `and` or `or` as a word between white space.  If both
occur only `and` splits the test, and the pieces around `or` stay inside their conditions.  A
condition is a bare path or a path compared with a literal.
-/

namespace SqlMapper

/-- A condition of a test. -/
inductive Atom where
  /-- Holds if the value of the path is true on its own. -/
  | truthy (path : Path)
  | compare (path : Path) (op : CompareOp) (literal : Literal)
  /-- A condition that cannot be read; it never holds. -/
  | invalid (text : String)
deriving DecidableEq

/-- How the conditions of a test are joined. -/
inductive Junction where
  | all
  | any
deriving DecidableEq

structure Test where
  source : String
  junction : Junction
  atoms : List Atom
  /-- Whether both junctions occur between conditions. -/
  mixed : Bool
deriving DecidableEq

namespace Junction

def name : Junction → String
  | .all => "All"
  | .any => "Any"

def spellings : Junction → List (List Char)
  | .all => [['a', 'n', 'd'], ['A', 'N', 'D']]
  | .any => [['o', 'r'], ['O', 'R']]

def spells (junction : Junction) (token : Token) : Bool :=
  token.kind == .word && junction.spellings.contains token.text

/-- The token lists between the junctions that have white space on both sides. -/
def split (junction : Junction) (afterBlank : Bool) : List Token → List (List Token)
  | [] => [[]]
  | token :: rest =>
    let beforeBlank := rest.head?.any (·.kind == .whitespace)
    if junction.spells token && afterBlank && beforeBlank then [] :: junction.split false rest
    else
      match junction.split (token.kind == .whitespace) rest with
      | [] => [[token]]
      | piece :: pieces => (token :: piece) :: pieces

end Junction

namespace CompareOp

def tokenKind : CompareOp → TokenKind
  | .ne => .ne
  | .eq => .eqEq
  | .ge => .ge
  | .le => .le
  | .gt => .gt
  | .lt => .lt

/-- The first operator in trial order that occurs among the tokens. -/
def findIn? (tokens : List Token) : Option CompareOp :=
  trialOrder.find? fun op => tokens.any (·.kind == op.tokenKind)

end CompareOp

namespace Atom

/-- The condition that tokens spell. -/
def parse (tokens : List Token) : Atom :=
  let text := Token.trimmedText tokens
  let invalid := Atom.invalid (String.ofList text)
  match CompareOp.findIn? tokens with
  | none =>
    match Path.parse? text with
    | some path => .truthy path
    | none => invalid
  | some op =>
    let isOther (token : Token) : Bool := token.kind != op.tokenKind
    let right := Token.trimmedText (tokens.dropWhile isOther).tail
    match Path.parse? (Token.trimmedText (tokens.takeWhile isOther)) with
    | none => invalid
    | some path => if right.isEmpty then invalid else .compare path op (Literal.parse right)

end Atom

namespace Test

/-- The test that a text spells. -/
def parse (source : String) : Test :=
  let tokens := Token.lex source
  let conjuncts := Junction.all.split false tokens
  let disjuncts := Junction.any.split false tokens
  let hasAnd := conjuncts.length > 1
  let hasOr := disjuncts.length > 1
  let (junction, pieces) :=
    if hasAnd then (Junction.all, conjuncts)
    else if hasOr then (Junction.any, disjuncts)
    else (Junction.all, [tokens])
  { source, junction, atoms := pieces.map Atom.parse, mixed := hasAnd && hasOr }

/-- The texts of the conditions that could not be read. -/
def invalidAtoms (test : Test) : List String :=
  test.atoms.filterMap fun
    | .invalid text => some text
    | _ => none

end Test

end SqlMapper
