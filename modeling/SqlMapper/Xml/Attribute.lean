import SqlMapper.Xml.Entity

/-!
# Attributes

A tag holds a name and then attributes: a key, an equals sign and a value in quotes of either kind.
White space may stand around each of them and need not separate attributes.  No key occurs twice.
-/

namespace SqlMapper.Xml

/-- White space inside tags. -/
def isSpace (c : Char) : Bool :=
  c == ' ' || c == '\t' || c == '\n' || c == '\r'

/-- A piece of a tag and its place in bytes behind the `<`. -/
structure Cursor where
  position : Nat
  text : List Char

namespace Cursor

/-- Goes on while a condition holds. -/
def skipWhile (cursor : Cursor) (keep : Char → Bool) : Cursor where
  position := cursor.position + Text.utf8Length (cursor.text.takeWhile keep)
  text := cursor.text.dropWhile keep

theorem skipWhile_length_le (cursor : Cursor) (keep : Char → Bool) :
    (cursor.skipWhile keep).text.length ≤ cursor.text.length :=
  (List.dropWhile_suffix keep).length_le

/-- The place behind the last character. -/
def stop (cursor : Cursor) : Nat :=
  cursor.position + Text.utf8Length cursor.text

end Cursor

/-- An attribute as written, and the cursor behind it. -/
structure RawAttribute where
  /-- The place of the key. -/
  position : Nat
  key : List Char
  value : List Char
  after : Cursor

namespace RawAttribute

/-- Reads the value of a key from behind the equals sign. -/
def readValue (position : Nat) (key : List Char) (cursor : Cursor) : Except Fault RawAttribute :=
  let cursor := cursor.skipWhile isSpace
  match cursor.text with
  | [] => .error (.missingValue cursor.position)
  | quote :: rest =>
    if quote == '"' || quote == '\x27' then
      let inner : Cursor := { position := cursor.position + 1, text := rest }
      let close := inner.skipWhile (· != quote)
      match close.text with
      | [] => .error (.unclosedValue close.position quote)
      | _ :: after =>
        let value := rest.takeWhile (· != quote)
        .ok { position, key, value, after := { position := close.position + 1, text := after } }
    else .error (.unquotedValue cursor.position)

/-- Reads an attribute that begins with the first character at a cursor; the keys read before it
are given with their places. -/
def read (seen : List (List Char × Nat)) (first : Char) (rest : Cursor) :
    Except Fault RawAttribute :=
  let start := rest.position - first.utf8Size
  let key := first :: rest.text.takeWhile fun c => c != '=' && !isSpace c
  let equals := (rest.skipWhile fun c => c != '=' && !isSpace c).skipWhile isSpace
  match equals.text with
  | '=' :: after =>
    match seen.lookup key with
    | some previous => .error (.repeatedAttribute start previous)
    | none => readValue start key { position := equals.position + 1, text := after }
  | _ => .error (.missingEquals equals.position)

theorem readValue_shorter {position : Nat} {key : List Char} {cursor : Cursor}
    {found : RawAttribute} (ok : readValue position key cursor = .ok found) :
    found.after.text.length < cursor.text.length := by
  have skipped := cursor.skipWhile_length_le isSpace
  unfold readValue at ok
  dsimp only at ok
  split at ok
  · simp at ok
  · rename_i quote rest opened
    split at ok
    · split at ok
      · simp at ok
      · rename_i close after closed
        have inner := Cursor.skipWhile_length_le
          { position := (cursor.skipWhile isSpace).position + 1, text := rest } (· != quote)
        simp only [Except.ok.injEq] at ok
        subst ok
        rw [opened] at skipped
        rw [closed] at inner
        simp only [List.length_cons] at skipped inner ⊢
        omega
    · simp at ok

theorem read_shorter {seen : List (List Char × Nat)} {first : Char} {rest : Cursor}
    {found : RawAttribute} (ok : read seen first rest = .ok found) :
    found.after.text.length < rest.text.length := by
  unfold read at ok
  dsimp only at ok
  split at ok
  · rename_i after opened
    have spaces := (rest.skipWhile fun c => c != '=' && !isSpace c).skipWhile_length_le isSpace
    have keys := rest.skipWhile_length_le fun c => c != '=' && !isSpace c
    rw [opened] at spaces
    split at ok
    · simp at ok
    · have := readValue_shorter ok
      simp only [List.length_cons] at spaces this
      omega
  · simp at ok

end RawAttribute

/-- Reads the attributes from a cursor to the end of the tag, with their values decoded. -/
def readAttributes (seen : List (List Char × Nat)) (cursor : Cursor) :
    Except Fault (List (String × String)) :=
  match _ : (cursor.skipWhile isSpace).text with
  | [] => .ok []
  | first :: rest =>
    let place := (cursor.skipWhile isSpace).position + first.utf8Size
    match _ : RawAttribute.read seen first { position := place, text := rest } with
    | .error fault => .error fault
    | .ok found => do
      let value ← Entity.decode found.value
      let others ← readAttributes (seen ++ [(found.key, found.position)]) found.after
      return (String.ofList found.key, value) :: others
termination_by cursor.text.length
decreasing_by
  rename_i opened ok
  have := RawAttribute.read_shorter ok
  have := cursor.skipWhile_length_le isSpace
  rw [opened] at this
  simp only [List.length_cons] at *
  omega

end SqlMapper.Xml
