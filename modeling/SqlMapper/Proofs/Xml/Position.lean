import SqlMapper.Xml.Event

/-!
# Events without positions

What a source delivers does not depend on where it begins, but for the positions of its events.
-/

namespace SqlMapper.Xml

def Element.unplaced (element : Element) : Element :=
  { element with start := 0, stop := 0 }

def Event.unplaced : Event → Event
  | .opening element => .opening element.unplaced
  | event => event

def Located.unplaced (located : Located) : Located :=
  ⟨located.event.unplaced, 0⟩

def Ending.unplaced : Ending → Ending
  | .complete => .complete
  | .fault _ _ cause => .fault 0 0 cause

def Document.unplaced (document : Document) : Document :=
  ⟨document.events.map Located.unplaced, document.ending.unplaced⟩

/-- What a piece does wherever it stands: the events it delivers, and the names of the elements open
behind it. -/
def Piece.effect (opened : List String) : Piece → Except Fault (List Event × List String)
  | .silent => .ok ([], opened)
  | .text content => (Entity.decode content).map fun text => ([.text text], opened)
  | .characterData content => .ok ([.text (String.ofList content)], opened)
  | .endTag content =>
    match Document.endFault? opened content with
    | some fault => .error fault
    | none => .ok ([.closing], opened.tail)
  | .tag content => (Element.ofTag content 0 0).map fun element =>
    ([.opening element], if element.isEmpty then opened else element.name :: opened)

theorem Element.ofTag_unplaced (content : List Char) (start stop : Nat) :
    (Element.ofTag content start stop).map Element.unplaced = Element.ofTag content 0 0 := by
  unfold Element.ofTag
  simp only [bind, Except.bind]
  split <;> rfl

/-- A source without the byte order mark in front. -/
def withoutMark : List Char → List Char
  | '\ufeff' :: rest => rest
  | text => text

namespace Document

/-- A document with more events in front. -/
def behind (events : List Event) (document : Document) : Document :=
  { document with events := events.map (⟨·, 0⟩) ++ document.events }

variable {c : Char} {rest after : List Char} {piece : Piece}

theorem readFrom_of_first (cut : Piece.first c rest = .ok (piece, after)) (offset : Nat)
    (opened : List String) :
    ∃ stop, (readFrom offset opened (c :: rest)).unplaced =
      match piece.effect opened with
      | .error fault => ⟨[], .fault 0 0 fault⟩
      | .ok (events, inner) => (readFrom stop inner after).unplaced.behind events := by
  refine ⟨offset + (Text.utf8Length (c :: rest) - Text.utf8Length after), ?_⟩
  rw [readFrom]
  split
  · simp_all
  · rename_i found
    rw [cut] at found
    cases found
    cases piece with
    | silent => rfl
    | text content =>
        simp only [Piece.effect]
        cases Entity.decode content <;> rfl
    | characterData content => rfl
    | endTag content =>
        simp only [Piece.effect]
        cases endFault? opened content <;> rfl
    | tag content =>
        simp only [Piece.effect, ← Element.ofTag_unplaced content offset
          (offset + (Text.utf8Length (c :: rest) - Text.utf8Length after))]
        cases Element.ofTag content offset _ <;> rfl

theorem readFrom_of_error {fault : Fault} (cut : Piece.first c rest = .error (fault, after))
    (offset : Nat) (opened : List String) :
    (readFrom offset opened (c :: rest)).unplaced = ⟨[], .fault 0 0 fault⟩ := by
  rw [readFrom]
  split
  · rename_i found
    rw [cut] at found
    cases found
    rfl
  · simp_all

theorem unplaced_readFrom (offset other : Nat) (opened : List String) (text : List Char) :
    (readFrom offset opened text).unplaced = (readFrom other opened text).unplaced := by
  induction measure : text.length using Nat.strongRecOn generalizing text opened offset other with
  | ind size ih =>
      cases text with
      | nil =>
          rw [readFrom, readFrom]
      | cons c rest =>
          cases cut : Piece.first c rest with
          | error broken => rw [readFrom_of_error cut, readFrom_of_error cut]
          | ok result =>
              obtain ⟨piece, after⟩ := result
              obtain ⟨stop, read⟩ := readFrom_of_first cut offset opened
              obtain ⟨stopOther, readOther⟩ := readFrom_of_first cut other opened
              rw [read, readOther]
              cases piece.effect opened with
              | error fault => rfl
              | ok done =>
                  have shorter := Piece.first_length cut
                  rw [measure] at shorter
                  dsimp only
                  rw [ih _ shorter stop stopOther done.2 after rfl]

/-- The events of a text without their positions; `opened` holds the names of the open elements,
innermost first. -/
def bare (opened : List String) (text : List Char) : Document :=
  (readFrom 0 opened text).unplaced

theorem bare_of_first (cut : Piece.first c rest = .ok (piece, after)) (opened : List String) :
    bare opened (c :: rest) =
      match piece.effect opened with
      | .error fault => ⟨[], .fault 0 0 fault⟩
      | .ok (events, inner) => (bare inner after).behind events := by
  obtain ⟨stop, read⟩ := readFrom_of_first cut 0 opened
  rw [bare, read]
  cases piece.effect opened with
  | error fault => rfl
  | ok done =>
      dsimp only
      rw [unplaced_readFrom stop 0, bare]

theorem bare_nil (opened : List String) : bare opened [] = ⟨[], .complete⟩ := by
  rw [bare, readFrom]
  rfl

theorem read_eq_readFrom (source : String) : read source = readFrom 0 [] (withoutMark source.toList) := by
  unfold read
  generalize source.toList = text
  fun_cases withoutMark text with
  | case1 rest => rfl
  | case2 text other =>
      split
      · exact absurd rfl (other _)
      · rfl

theorem unplaced_read (source : String) :
    (read source).unplaced = bare [] (withoutMark source.toList) := by
  rw [read_eq_readFrom, bare]

end Document

end SqlMapper.Xml
