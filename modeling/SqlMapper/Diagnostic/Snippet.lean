import SqlMapper.Diagnostic.Basic
import SqlMapper.Text.Split
import SqlMapper.Text.Utf8

/-!
# Diagnostics beside their source

A finding is shown with the lines that it points at.  Marks stand under a span within one line; a
span over several lines has a bar at the left from its first line to its last.  Of a long span only
the beginning and the end are shown.
-/

namespace SqlMapper

namespace Snippet

structure SourceLine where
  /-- Number of the line, counted from one. -/
  number : Nat
  /-- Byte at which the line starts. -/
  start : Nat
  /-- The line without what ends it. -/
  text : List Char
  /-- Number of bytes that end the line. -/
  ending : Nat

instance : Inhabited SourceLine := ⟨⟨1, 0, [], 0⟩⟩

namespace SourceLine

/-- Byte at which what ends the line starts. -/
def stop (line : SourceLine) : Nat :=
  line.start + Text.utf8Length line.text

def next (line : SourceLine) : Nat :=
  line.stop + line.ending

/-- The line that starts at a byte, given its text with a possible carriage return behind. -/
def closed (number start : Nat) (text : List Char) : SourceLine :=
  if text.getLast? == some '\r' then { number, start, text := text.dropLast, ending := 2 }
  else { number, start, text, ending := 1 }

/-- The lines of the pieces between line breaks.  Nothing behind the last break is no line. -/
def ofPieces (number start : Nat) : List (List Char) → List SourceLine
  | [] => []
  | [text] => if text.isEmpty then [] else [{ number, start, text, ending := 0 }]
  | text :: rest =>
    let line := closed number start text
    line :: ofPieces (number + 1) line.next rest

end SourceLine

/-- The lines of a source; an empty one has a single empty line. -/
def sourceLines (source : List Char) : List SourceLine :=
  match SourceLine.ofPieces 1 0 (Text.split (· == '\n') source) with
  | [] => [default]
  | lines => lines

/-- How a character is shown: a tab as spaces and any other control character as its picture. -/
def shown (c : Char) : List Char :=
  if c == '\t' then [' ', ' ', ' ', ' ']
  else if c.toNat < 0x20 then [Char.ofNat (0x2400 + c.toNat)]
  else if c == '\x7f' then ['\u2421']
  else [c]

structure Place where
  line : SourceLine
  /-- Number of characters in front. -/
  characters : Nat
  /-- Number of columns in front. -/
  columns : Nat

/-- The characters of a text that start before a byte. -/
def charactersBefore : Nat → List Char → List Char
  | 0, _ => []
  | _, [] => []
  | count, c :: rest => c :: charactersBefore (count - c.utf8Size) rest

/-- The place of a byte, in the last line if no line holds it. -/
def placeOf (lines : List SourceLine) (byte : Nat) : Place :=
  let holds (line : SourceLine) : Bool := line.start ≤ byte && byte < line.next
  let line := (lines.find? holds <|> lines.getLast?).getD default
  let before := charactersBefore (byte - line.start) line.text
  { line, characters := before.length, columns := (before.flatMap shown).length }

/-- What a span covers. -/
inductive Extent where
  /-- Columns of one line. -/
  | within (start : Place) (width : Nat)
  /-- Several lines up to a column. -/
  | across (start : Place) (last : SourceLine) (columns : Nat)

/-- The part of a span that can be shown: inside of the source, and not empty before its end. -/
def visible (span : Span) (length : Nat) : Span :=
  let start := min span.start length
  let stop := min span.stop length
  if start == stop then { start, stop := min (start + 1) length } else { start, stop }

/-- What a visible span covers. -/
def extentOf (lines : List SourceLine) (span : Span) : Extent :=
  let start := placeOf lines span.start
  let stop := placeOf lines span.stop
  if start.line.number == stop.line.number then
    .within start (max 1 (stop.columns - start.columns))
  else
    let pastEnd := if span.stop > stop.line.stop then 1 else 0
    .across start stop.line (stop.columns + pastEnd)

/-- Spaces. -/
def blanks (count : Nat) : List Char :=
  List.replicate count ' '

/-- A row behind a gutter; an empty row leaves no space. -/
def row (gutter content : List Char) : String :=
  String.ofList (gutter ++ " |".toList ++ if content.isEmpty then [] else ' ' :: content)

/-- A row without a line number. -/
def unnumbered (width : Nat) (content : List Char) : String :=
  row (blanks width) content

/-- A row with a line number. -/
def numbered (width number : Nat) (content : List Char) : String :=
  let digits := (toString number).toList
  row (blanks (width - digits.length) ++ digits) content

/-- A text set off from what is in front of it, if there is any. -/
def setOff (margin text : List Char) : List Char :=
  if text.isEmpty then [] else margin ++ text

/-- Whether a text is a comment between two slashes and the end of its line, but none that documents
what is near it. -/
def isComment : List Char → Bool
  | '/' :: '/' :: '/' :: _ | '/' :: '/' :: '!' :: _ => false
  | '/' :: '/' :: _ => true
  | _ => false

/-- Whether a line says little: nothing, a comment or a single bracket. -/
def isTrivial (line : SourceLine) : Bool :=
  let text := Text.trim line.text
  isComment text || text ∈ [[], ['\x7b'], ['\x7d'], ['('], [')'], ['['], [']']]

/-- The lines of a long span that are shown between its first and its last: up to three at the
beginning, without trivial ones behind, and the one before the last unless that is trivial. -/
def shownBetween (lines : List SourceLine) (first last : Nat) : List SourceLine :=
  let middle := min (first + 4) last
  let early := lines.filter fun line =>
    first ≤ line.number && line.number < middle && !isTrivial line
  let bound := ((early.getLast?).map (·.number)).getD first
  lines.filter fun line =>
    (first < line.number && line.number ≤ bound)
      || (middle + 1 < last && line.number + 1 == last && !isTrivial line)

/-- A row of a span over several lines, with the bar in front. -/
def barred (width : Nat) (line : SourceLine) : String :=
  numbered width line.number ('|' :: setOff [' '] (line.text.flatMap shown))

/-- Rows of a span, `previous` being the number of the line above: one line left out is shown all
the same, more of them as dots. -/
def barredRows (width : Nat) (lines : List SourceLine) (previous : Nat) :
    List SourceLine → List String
  | [] => []
  | line :: rest =>
    let gap :=
      if line.number > previous + 2 then
        [String.ofList ("...".toList ++ blanks width ++ ['|'])]
      else
        (lines.filter fun other => previous < other.number && other.number < line.number).map
          (barred width)
    gap ++ barred width line :: barredRows width lines line.number rest

/-- The rows for what a span covers, with a label at its end. -/
def extentRows (width : Nat) (lines : List SourceLine) (label : List Char) :
    Extent → List String
  | .within start count =>
    [numbered width start.line.number (start.line.text.flatMap shown),
      unnumbered width (blanks start.columns ++ List.replicate count '^' ++ label)]
  | .across start last columns =>
    let text := start.line.text.flatMap shown
    let opening :=
      if (text.take start.columns).all Text.isBlank then
        [numbered width start.line.number ('/' :: setOff [' '] text)]
      else
        [numbered width start.line.number (setOff [' ', ' '] text),
          unnumbered width (' ' :: List.replicate (start.columns + 1) '_' ++ ['^'])]
    let between := shownBetween lines start.line.number last.number
    let closing := '|' :: List.replicate (columns - 1 + 1) '_' ++ '^' :: label
    opening ++ barredRows width lines start.line.number (between ++ [last])
      ++ [unnumbered width closing]

/-- The rows of a title; line breaks continue it under its beginning. -/
def titleRows (severity message : List Char) : List String :=
  let rows := (Text.split (· == '\n') message).map fun line => line.flatMap shown
  match rows with
  | [] => []
  | first :: rest =>
    String.ofList (severity ++ ": ".toList ++ first)
      :: rest.map fun line => String.ofList (blanks (severity.length + 2) ++ line)

def before (source : List Char) (offset : Nat) : List Char :=
  charactersBefore offset source

def rows (diagnostic : Diagnostic) (source : List Char) (origin : Option String) :
    List String :=
  let span := visible diagnostic.span (Text.utf8Length source)
  let lines := sourceLines source
  let width := (toString (1 + (before source span.stop).count '\n')).length
  let start := placeOf lines span.start
  let column := start.characters + 1 + if span.start > start.line.stop then 1 else 0
  let arrow := origin.map fun name =>
    String.ofList (blanks width) ++ s!"--> {name}:{start.line.number}:{column}"
  let label := (diagnostic.owner.map fun owner => (" in " ++ owner).toList).getD []
  let help := (diagnostic.kind.hint.map fun hint =>
    [unnumbered width [], String.ofList (blanks (width + 1)) ++ s!"= help: {hint}"]).getD []
  titleRows diagnostic.kind.severity.name.toList diagnostic.message.toList ++ arrow.toList
    ++ unnumbered width [] :: extentRows width lines label (extentOf lines span) ++ help

end Snippet

/-- Findings in order, each beside its source. -/
def Diagnostic.report (diagnostics : List Diagnostic) (source : String) (origin : Option String) :
    String :=
  let source := source.toList
  "\n".intercalate (diagnostics.flatMap fun diagnostic => Snippet.rows diagnostic source origin)

/-- Findings in order, one line each. -/
def Diagnostic.listing (diagnostics : List Diagnostic) : String :=
  "\n".intercalate (diagnostics.map Diagnostic.toText)

end SqlMapper
