import SqlMapper.Xml.Attribute

/-!
# XML as events

A source is read as a sequence of elements that open and close and of text between them; comments,
instructions and the like leave nothing.  Reading stops at the first fault.
-/

namespace SqlMapper.Xml

/-- A stretch of the source, without the signs that enclose it. -/
inductive Piece where
  | text (content : List Char)
  | tag (content : List Char)
  /-- What stands behind `</`. -/
  | endTag (content : List Char)
  | characterData (content : List Char)
  /-- A comment, an instruction, a declaration or a document type. -/
  | silent

namespace Piece

/-- Cuts at the first `>` outside quotes. -/
def cutTag (quote : Option Char) : List Char → Option (List Char × List Char)
  | [] => none
  | c :: rest =>
    match quote with
    | some close =>
      (cutTag (if c == close then none else some close) rest).map fun (content, after) =>
        (c :: content, after)
    | none =>
      if c == '>' then some ([], rest)
      else
        let inside := if c == '"' || c == '\x27' then some c else none
        (cutTag inside rest).map fun (content, after) => (c :: content, after)

/-- Cuts at the first `>` that closes what stands before it; `before` holds that read backwards. -/
def cutWhere (closes : List Char → Bool) (before : List Char) :
    List Char → Option (List Char × List Char)
  | [] => none
  | c :: rest =>
    if c == '>' && closes before then some (before.reverse, rest)
    else cutWhere closes (c :: before) rest

/-- Whether a comment ends here; its marks may not overlap. -/
def closesComment (before : List Char) : Bool :=
  before.length > 4 && before.take 2 == ['-', '-']

/-- Whether a character data section ends here. -/
def closesCharacterData (before : List Char) : Bool :=
  before.take 2 == [']', ']']

/-- Whether a document type ends here: all angle brackets inside it are matched. -/
def closesDoctype (before : List Char) : Bool :=
  before.count '<' == before.count '>'

/-- Whether an instruction ends here. -/
def closesInstruction (before : List Char) : Bool :=
  before.head? == some '?'

/-- A character data section from what stands between `<` and `>`. -/
def ofCharacterData (content : List Char) : Except Fault Piece :=
  if "![CDATA[".toList.isPrefixOf content then
    .ok (.characterData ((content.drop 8).take (content.length - 10)))
  else .error .unclosedCharacterData

/-- A comment from what stands between `<` and `>`. -/
def ofComment (content : List Char) : Except Fault Piece :=
  if "!--".toList.isPrefixOf content then .ok .silent else .error .unclosedComment

/-- A document type from what stands between `<` and `>`.  It has a name. -/
def ofDoctype (content : List Char) : Except Fault Piece :=
  if (content.take 8).map Char.toUpper == "!DOCTYPE".toList then
    if (content.drop 8).all isSpace then .error .unnamedDoctype else .ok .silent
  else .error .unclosedDoctype

/-- An instruction from what stands between `<` and `>`. -/
def ofInstruction (content : List Char) : Except Fault Piece :=
  if content.length > 1 then .ok .silent else .error .unclosedInstruction

/-- A fault and what follows the place where it was found. -/
abbrev Broken : Type := Fault × List Char

/-- Cuts a piece of markup, faulty or not; a piece that is never closed takes all that follows. -/
def finish (cut : Option (List Char × List Char)) (unclosed : Fault)
    (interpret : List Char → Except Fault Piece) : Except Broken (Piece × List Char) :=
  match cut with
  | none => .error (unclosed, [])
  | some (content, after) =>
    match interpret content with
    | .ok piece => .ok (piece, after)
    | .error fault => .error (fault, after)

/-- The markup behind a `<`, and what follows it. -/
def ofMarkup (text : List Char) : Except Broken (Piece × List Char) :=
  match text with
  | [] => .error (.unclosedTag, [])
  | '!' :: '[' :: _ =>
    finish (cutWhere closesCharacterData [] text) .unclosedCharacterData ofCharacterData
  | '!' :: '-' :: _ => finish (cutWhere closesComment [] text) .unclosedComment ofComment
  | '!' :: 'D' :: _ | '!' :: 'd' :: _ =>
    finish (cutWhere closesDoctype [] text) .unclosedDoctype ofDoctype
  | '!' :: _ => .error (.unknownMarkup, text)
  | '?' :: _ => finish (cutWhere closesInstruction [] text) .unclosedInstruction ofInstruction
  | '/' :: _ => finish (cutTag none text) .unclosedTag fun content => .ok (.endTag content.tail)
  | _ => finish (cutTag none text) .unclosedTag fun content => .ok (.tag content)

/-- The first piece of a nonempty source, and what follows it. -/
def first (c : Char) (rest : List Char) : Except Broken (Piece × List Char) :=
  if c == '<' then ofMarkup rest
  else .ok (.text (c :: rest.takeWhile (· != '<')), rest.dropWhile (· != '<'))

theorem cutTag_length {quote : Option Char} {text content after : List Char}
    (cut : cutTag quote text = some (content, after)) : after.length < text.length := by
  induction text generalizing quote content with
  | nil => simp [cutTag] at cut
  | cons c rest ih =>
    unfold cutTag at cut
    split at cut
    · simp only [Option.map_eq_some_iff, Prod.exists, Prod.mk.injEq] at cut
      obtain ⟨inner, _, found, _, rfl⟩ := cut
      have := ih found
      simp only [List.length_cons]
      omega
    · split at cut
      · simp only [Option.some.injEq, Prod.mk.injEq] at cut
        simp [cut.2]
      · simp only [Option.map_eq_some_iff, Prod.exists, Prod.mk.injEq] at cut
        obtain ⟨inner, _, found, _, rfl⟩ := cut
        have := ih found
        simp only [List.length_cons]
        omega

theorem cutWhere_length {closes : List Char → Bool} {before text content after : List Char}
    (cut : cutWhere closes before text = some (content, after)) : after.length < text.length := by
  induction text generalizing before with
  | nil => simp [cutWhere] at cut
  | cons c rest ih =>
    unfold cutWhere at cut
    split at cut
    · simp only [Option.some.injEq, Prod.mk.injEq] at cut
      simp [cut.2]
    · have := ih cut
      simp only [List.length_cons]
      omega

theorem finish_length {cut : Option (List Char × List Char)} {unclosed : Fault}
    {interpret : List Char → Except Fault Piece} {piece : Piece} {text after : List Char}
    (shorter : ∀ content rest, cut = some (content, rest) → rest.length < text.length)
    (ok : finish cut unclosed interpret = .ok (piece, after)) : after.length < text.length := by
  unfold finish at ok
  split at ok
  · simp at ok
  · split at ok
    · simp only [Except.ok.injEq, Prod.mk.injEq] at ok
      obtain ⟨_, rfl⟩ := ok
      exact shorter _ _ rfl
    · simp at ok

theorem ofMarkup_length {text after : List Char} {piece : Piece}
    (ok : ofMarkup text = .ok (piece, after)) : after.length < text.length := by
  unfold ofMarkup at ok
  split at ok
  all_goals first
    | exact finish_length (fun _ _ cut => cutTag_length cut) ok
    | exact finish_length (fun _ _ cut => cutWhere_length cut) ok
    | simp at ok

theorem first_length {c : Char} {rest after : List Char} {piece : Piece}
    (ok : first c rest = .ok (piece, after)) : after.length < (c :: rest).length := by
  unfold first at ok
  split at ok
  · have := ofMarkup_length ok
    simp only [List.length_cons]
    omega
  · simp only [Except.ok.injEq, Prod.mk.injEq] at ok
    have := (List.dropWhile_suffix (· != '<') (l := rest)).length_le
    rw [ok.2] at this
    simp only [List.length_cons]
    omega

end Piece

/-- The opening tag of an element. -/
structure Element where
  name : String
  /-- Keys and values in the order of the source. -/
  attributes : List (String × String)
  /-- First byte of the tag. -/
  start : Nat
  /-- Behind the last byte of the tag. -/
  stop : Nat
  /-- Whether the tag closes the element as well. -/
  isEmpty : Bool
deriving DecidableEq

namespace Element

def attribute? (element : Element) (key : String) : Option String :=
  element.attributes.lookup key

def ofTag (content : List Char) (start stop : Nat) : Except Fault Element := do
  let isEmpty := content.getLast? == some '/'
  let content := if isEmpty then content.dropLast else content
  let name := content.takeWhile (!isSpace ·)
  let attributes ← readAttributes [] {
    position := Text.utf8Length name
    text := content.dropWhile (!isSpace ·) }
  return { name := String.ofList name, attributes, start, stop, isEmpty }

end Element

/-- What a reader of XML meets. -/
inductive Event where
  | opening (element : Element)
  | text (content : String)
  | closing
deriving DecidableEq

/-- An event and the place behind it. -/
structure Located where
  event : Event
  stop : Nat
deriving DecidableEq

/-- How the events of a source end. -/
inductive Ending where
  /-- With the source. -/
  | complete
  /-- With a fault in a range of bytes. -/
  | fault (start stop : Nat) (cause : Fault)

/-- The events of a source. -/
structure Document where
  events : List Located
  ending : Ending

namespace Document

/-- The document with one more event in front. -/
def addFront (event : Located) (document : Document) : Document :=
  { document with events := event :: document.events }

def broken (start stop : Nat) (cause : Fault) : Document where
  events := []
  ending := .fault start stop cause

/-- The name in an end tag, without the white space behind it; white space alone is a name. -/
def endName (content : List Char) : List Char :=
  if content.all isSpace then content else (content.reverse.dropWhile isSpace).reverse

/-- What is wrong with an end tag, given the names of the open elements, innermost first. -/
def endFault? (opened : List String) (content : List Char) : Option Fault :=
  let found := String.ofList (endName content)
  match opened with
  | [] => some (.unmatchedEnd found)
  | expected :: _ => if found == expected then none else some (.mismatchedEnd expected found)

/-- Reads the events of a source from an offset on; `opened` holds the names of the open elements,
innermost first. -/
def readFrom (offset : Nat) (opened : List String) (source : List Char) : Document :=
  match source with
  | [] => { events := [], ending := .complete }
  | c :: rest =>
    match _ : Piece.first c rest with
    | .error (fault, after) =>
      broken offset (offset + (Text.utf8Length source - Text.utf8Length after)) fault
    | .ok (piece, after) =>
      let stop := offset + (Text.utf8Length source - Text.utf8Length after)
      match piece with
      | .silent => readFrom stop opened after
      | .text content =>
        match Entity.decode content with
        | .error fault => broken offset stop fault
        | .ok text => (readFrom stop opened after).addFront { event := .text text, stop }
      | .characterData content =>
        (readFrom stop opened after).addFront { event := .text (String.ofList content), stop }
      | .endTag content =>
        match endFault? opened content with
        | some fault => broken offset stop fault
        | none => (readFrom stop opened.tail after).addFront { event := .closing, stop }
      | .tag content =>
        match Element.ofTag content offset stop with
        | .error fault => broken offset stop fault
        | .ok element =>
          let inner := if element.isEmpty then opened else element.name :: opened
          (readFrom stop inner after).addFront { event := .opening element, stop }
termination_by source.length
decreasing_by all_goals exact Piece.first_length (by assumption)

/-- The events of a source; a byte order mark in front does not count. -/
def read (source : String) : Document :=
  match source.toList with
  | '\ufeff' :: rest => readFrom 0 [] rest
  | text => readFrom 0 [] text

end Document

end SqlMapper.Xml
