import SqlMapper.Text.Alphanumeric
import SqlMapper.Text.Split

/-!
# Property paths

A path names a member of the parameter, or of something bound by the template, and members of
members behind dots.
-/

namespace SqlMapper

/-- A dotted path; there is always a first segment. -/
structure Path where
  head : String
  rest : List String
deriving DecidableEq

namespace Path

def segments (path : Path) : List String :=
  path.head :: path.rest

/-- The segments with dots between. -/
def toText (path : Path) : String :=
  ".".intercalate path.segments

/-- The path of the given segments, if there are any. -/
def ofSegments? : List String → Option Path
  | [] => none
  | head :: rest => some { head, rest }

def isSegmentChar (c : Char) : Bool :=
  Text.isAlphanumeric c || c == '_'

/-- A path in an expression: nonempty segments of letters, digits and underscores. -/
def parse? (text : List Char) : Option Path :=
  let segments := Text.split (· == '.') text
  if segments.all fun segment => !segment.isEmpty && segment.all isSegmentChar then
    ofSegments? (segments.map String.ofList)
  else none

/-- The path of a placeholder: options behind a comma do not belong to it, and white space around
segments does not count.  Odd segments simply name nothing. -/
def ofPlaceholder (name : String) : Path :=
  let text := Text.trim (name.toList.takeWhile (· != ','))
  match (Text.split (· == '.') text).map fun segment => String.ofList (Text.trim segment) with
  | [] => { head := "", rest := [] }
  | head :: rest => { head, rest }

end Path

end SqlMapper
