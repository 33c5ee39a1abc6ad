import SqlMapper.Proofs.Generated.Name
import SqlMapper.Proofs.Generated.Quoted

/-!
# Reading a line of source

A reader goes through a line character by character.  It passes over strings and comments, and of the
names of generated variables it tells those in patterns, which the line introduces, from those that the
line uses.  What it finds in a text does not depend on what it found before.
-/

namespace SqlMapper.Generated

/-! ### Reading a line -/

/-- Where the reader of a line is. -/
inductive Place where
  | code
  /-- Behind a slash.  A second one begins a comment. -/
  | slash
  | string
  /-- Behind a backslash in a string. -/
  | escape
  /-- In a comment, which ends where a line break is in the text of the line. -/
  | comment
deriving DecidableEq

/-- What is known of a line while it is read. -/
structure Reader where
  place : Place := .code
  /-- The name that is being read. -/
  name : List Char := []
  /-- Whether a pattern is being read. -/
  pattern : Bool := false
  introduced : List String := []
  used : List String := []
deriving DecidableEq

namespace Reader

/-- A character of names, with the mark of reserved words among them. -/
def isNameChar (c : Char) : Bool :=
  c.isAlphanum || c == '_' || c == '#'

/-- Ends a name.  Behind `let` and `for` there is a pattern.  The names of generated variables are those
that begin with two underscores. -/
def endName (reader : Reader) : Reader :=
  let ended := { reader with name := [] }
  if reader.name = ['l', 'e', 't'] ∨ reader.name = ['f', 'o', 'r'] then { ended with pattern := true }
  else if reader.name = ['i', 'n'] then { ended with pattern := false }
  else if ['_', '_'].isPrefixOf reader.name then
    let name := String.ofList reader.name
    if reader.pattern then { ended with introduced := reader.introduced ++ [name] }
    else { ended with used := reader.used ++ [name] }
  else ended

/-- Reads a character that is part of no name. -/
def readMark (reader : Reader) (c : Char) : Reader :=
  if c == '"' then { reader with place := .string }
  else if c == '/' then { reader with place := .slash }
  else if c == '=' then { reader with pattern := false }
  else reader

def readCode (reader : Reader) (c : Char) : Reader :=
  if isNameChar c then { reader with name := reader.name ++ [c] } else reader.endName.readMark c

def read (reader : Reader) (c : Char) : Reader :=
  match reader.place with
  | .code => reader.readCode c
  | .slash =>
    if c == '/' then { reader with place := .comment }
    else { reader with place := .code }.readCode c
  | .string =>
    if c == '"' then { reader with place := .code }
    else if c == '\\' then { reader with place := .escape }
    else reader
  | .escape => { reader with place := .string }
  | .comment => if c == '\n' then { reader with place := .code } else reader

def readAll (reader : Reader) (text : List Char) : Reader :=
  text.foldl read reader

end Reader

namespace Line

/-- The generated variables that stand in patterns of a line. -/
def introduced (line : Line) : List String :=
  (Reader.readAll {} line.text.toList).endName.introduced

/-- The generated variables that stand elsewhere in a line, strings and comments left out. -/
def used (line : Line) : List String :=
  (Reader.readAll {} line.text.toList).endName.used

end Line

namespace Reader

variable {reader : Reader} {text rest : List Char} {c : Char}

@[simp]
theorem readAll_append (reader : Reader) (first second : List Char) :
    reader.readAll (first ++ second) = (reader.readAll first).readAll second :=
  List.foldl_append

@[simp]
theorem readAll_cons (reader : Reader) (c : Char) (rest : List Char) :
    reader.readAll (c :: rest) = (reader.read c).readAll rest :=
  rfl

/-- What a reader knows that found something before. -/
def after (introduced used : List String) (reader : Reader) : Reader :=
  { reader with introduced := introduced ++ reader.introduced, used := used ++ reader.used }

section After

variable (introduced used : List String)

theorem endName_after :
    (reader.after introduced used).endName = reader.endName.after introduced used := by
  unfold endName after
  dsimp only
  split_ifs <;> simp

theorem readMark_after :
    (reader.after introduced used).readMark c = (reader.readMark c).after introduced used := by
  simp only [readMark]
  split_ifs <;> rfl

theorem readCode_after :
    (reader.after introduced used).readCode c = (reader.readCode c).after introduced used := by
  simp only [readCode, endName_after, readMark_after]
  split_ifs <;> rfl

theorem read_after :
    (reader.after introduced used).read c = (reader.read c).after introduced used := by
  have place : (reader.after introduced used).place = reader.place := rfl
  simp only [read, place]
  split
  · exact readCode_after introduced used
  · split_ifs
    · rfl
    · exact @readCode_after { reader with place := .code } c introduced used
  · split_ifs <;> rfl
  · rfl
  · split_ifs <;> rfl

/-- What was found before makes no difference to a reader. -/
theorem readAll_after (reader : Reader) (text : List Char) :
    (reader.after introduced used).readAll text = (reader.readAll text).after introduced used := by
  induction text generalizing reader with
  | nil => rfl
  | cons c rest ih => rw [readAll_cons, readAll_cons, read_after, ih]

end After

theorem readAll_name (code : reader.place = .code) (letters : ∀ c ∈ text, isNameChar c) :
    reader.readAll text = { reader with name := reader.name ++ text } := by
  induction text generalizing reader with
  | nil => simp [readAll]
  | cons c rest ih =>
      rw [List.forall_mem_cons] at letters
      have first : reader.read c = { reader with name := reader.name ++ [c] } := by
        simp [read, code, readCode, letters.1]
      have later : readAll { reader with name := reader.name ++ [c] } rest = _ := ih code letters.2
      rw [readAll_cons, first, later, List.append_assoc, List.singleton_append]

theorem read_of_mark (code : reader.place = .code) (mark : isNameChar c = false) :
    reader.read c = reader.endName.readMark c := by
  simp [read, code, readCode, mark]

theorem place_endName : reader.endName.place = reader.place := by
  unfold endName
  dsimp only
  split_ifs <;> rfl

/-- A comment takes the rest of a line that is not broken. -/
theorem readAll_comment (comment : reader.place = .comment) (unbroken : '\n' ∉ text) :
    reader.readAll text = reader := by
  induction text with
  | nil => rfl
  | cons c rest ih =>
      have other : c ≠ '\n' := (List.ne_of_not_mem_cons unbroken).symm
      have kept : reader.read c = reader := by simp [read, comment, other]
      rw [readAll_cons, kept, ih (List.not_mem_of_not_mem_cons unbroken)]

@[simp]
theorem endName_of_nil (ended : reader.name = []) : reader.endName = reader := by
  cases reader
  simp only at ended
  subst ended
  rfl

/-- A text that is passed over when no name is being read. -/
def passes (text : List Char) : Bool :=
  readAll {} text == {}

/-- A text that is passed over and ends the name before it. -/
def separates (text : List Char) : Bool :=
  text.head?.any (!isNameChar ·) && passes text

theorem readAll_of_passes (passed : passes text) : readAll {} text = {} :=
  eq_of_beq passed

theorem exists_of_separates (passed : separates text) :
    passes text ∧ ∃ c rest, text = c :: rest ∧ isNameChar c = false := by
  cases text with
  | nil => cases passed
  | cons c rest =>
      simp only [separates, List.head?_cons, Option.any_some, Bool.and_eq_true,
        Bool.not_eq_true'] at passed
      exact ⟨passed.2, c, rest, rfl, passed.1⟩

end Reader

open Reader (passes readAll separates)

/-! ### Texts and the variables in them -/

/-- What a line that begins with a text has mentioned at the end of it, outside of names. -/
def Reads (text : String) (pattern : Bool) (introduced used : List String) : Prop :=
  readAll {} text.toList = { pattern, introduced, used }

/-- Which variables an expression uses.  It may end with a name, so something else has to follow. -/
def Spells (text : String) (used : List String) : Prop :=
  ∀ c rest, Reader.isNameChar c = false →
    readAll {} (text.toList ++ c :: rest) = (readAll {} (c :: rest)).after [] used

section Texts

variable {first second text : String} {introduced used more others : List String} {pattern : Bool}
  {opening closing : List Char}

theorem reads_ofList (passed : passes opening) : Reads (String.ofList opening) false [] [] := by
  rw [Reads, String.toList_ofList]
  exact Reader.readAll_of_passes passed

/-- Fixed text in front of a pattern. -/
theorem reads_pattern (passed : readAll {} opening = { pattern := true }) :
    Reads (String.ofList opening) true [] [] := by
  rw [Reads, String.toList_ofList]
  exact passed

theorem Reads.spells (reads : Reads text false [] used) : Spells text used := by
  intro c rest _
  have before : ({ used } : Reader) = Reader.after [] used {} := by simp [Reader.after]
  rw [Reader.readAll_append, reads, before, Reader.readAll_after]

theorem spells_of_endName (passed : (readAll {} text.toList).endName = {}) : Spells text [] := by
  intro c rest mark
  have code : (readAll {} text.toList).place = .code := by
    rw [← Reader.place_endName, passed]
  have fresh : Reader.read {} c = Reader.readMark {} c := Reader.read_of_mark rfl mark
  rw [Reader.readAll_append, Reader.readAll_cons, Reader.read_of_mark code mark, passed, ← fresh]
  rfl

/-- A fixed text that may end with a name. -/
theorem spells_ofList (passed : (readAll {} opening).endName = {}) :
    Spells (String.ofList opening) [] := by
  apply spells_of_endName
  rwa [String.toList_ofList]

theorem Reads.append (before : Reads first false introduced used)
    (behind : Reads second pattern more others) :
    Reads (first ++ second) pattern (introduced ++ more) (used ++ others) := by
  have found : ({ introduced, used } : Reader) = Reader.after introduced used {} := by
    simp [Reader.after]
  rw [Reads, String.toList_append, Reader.readAll_append, before, found, Reader.readAll_after, behind]
  rfl

theorem Reads.spelled (before : Reads first false [] used) (behind : Spells second others) :
    Spells (first ++ second) (used ++ others) := by
  intro c rest mark
  have found : ({ used } : Reader) = Reader.after [] used {} := by simp [Reader.after]
  rw [String.toList_append, List.append_assoc, Reader.readAll_append, before, found,
    Reader.readAll_after, behind c rest mark]
  simp [Reader.after]

/-- An expression with fixed text behind it. -/
theorem Spells.closed (expression : Spells text used) (passed : separates closing) :
    Reads (text ++ String.ofList closing) false [] used := by
  obtain ⟨passed, c, rest, rfl, mark⟩ := Reader.exists_of_separates passed
  rw [Reads, String.toList_append, String.toList_ofList, expression c rest mark,
    Reader.readAll_of_passes passed]
  simp [Reader.after]

theorem Reads.followed (before : Reads first false introduced used) (expression : Spells second others)
    (passed : separates closing) :
    Reads (first ++ second ++ String.ofList closing) false introduced (used ++ others) := by
  have whole := before.append (expression.closed passed)
  rwa [List.append_nil, ← String.append_assoc] at whole

theorem Spells.enclosed (expression : Spells text used) (before : passes opening)
    (behind : separates closing) :
    Reads (String.ofList opening ++ text ++ String.ofList closing) false [] used :=
  (reads_ofList before).followed expression behind

theorem Spells.append (one : Spells first used) (two : Spells second others)
    (mark : second.toList.head?.any (!Reader.isNameChar ·)) :
    Spells (first ++ second) (used ++ others) := by
  intro c rest isMark
  rw [String.toList_append, List.append_assoc]
  cases characters : second.toList with
  | nil =>
      rw [characters] at mark
      cases mark
  | cons d more =>
      rw [characters, List.head?_cons, Option.any_some, Bool.not_eq_true'] at mark
      have later := two c rest isMark
      rw [characters] at later
      rw [List.cons_append, one d _ mark, ← List.cons_append, later]
      simp [Reader.after]

theorem toList_variable (target : Variable) :
    ∃ rest, target.source.toList = '_' :: '_' :: rest ∧ ∀ c ∈ rest, Reader.isNameChar c := by
  have whole : target.source =
      String.ofList ['_', '_'] ++ target.role.source ++ toString target.number := rfl
  refine ⟨target.role.source.toList ++ (toString target.number).toList, ?_, ?_⟩
  · rw [whole, String.toList_append, String.toList_append, String.toList_ofList]
    rfl
  have letters : target.role.source.toList.all Reader.isNameChar := by
    unfold Role.source
    split <;> decide
  refine List.forall_mem_append.2 ⟨List.all_eq_true.1 letters, ?_⟩
  intro c member
  simp [Reader.isNameChar, Char.isAlphanum, Text.isDigit_of_mem_toString target.number c member]

/-- The name of a variable is found where it ends. -/
theorem readAll_variable (target : Variable) (pattern : Bool) {c : Char}
    (mark : Reader.isNameChar c = false) (rest : List Char) :
    readAll { pattern } (target.source.toList ++ c :: rest) =
      (readAll { pattern } (c :: rest)).after (if pattern then [target.source] else [])
        (if pattern then [] else [target.source]) := by
  obtain ⟨more, characters, letters⟩ := toList_variable target
  have name : ∀ c ∈ target.source.toList, Reader.isNameChar c := by
    rw [characters]
    exact List.forall_mem_cons.2 ⟨by decide, List.forall_mem_cons.2 ⟨by decide, letters⟩⟩
  have ended : Reader.endName { pattern, name := target.source.toList } =
      Reader.after (if pattern then [target.source] else []) (if pattern then [] else [target.source])
        { pattern } := by
    unfold Reader.endName Reader.after
    rw [← String.ofList_toList (s := target.source)]
    simp only [characters, String.toList_ofList]
    cases pattern <;> simp
  rw [Reader.readAll_append, Reader.readAll_name rfl name, Reader.readAll_cons, Reader.readAll_cons,
    Reader.read_of_mark rfl mark, Reader.read_of_mark rfl mark, List.nil_append, ended,
    Reader.readMark_after, Reader.readAll_after, Reader.endName_of_nil rfl]

theorem spells_variable (target : Variable) : Spells target.source [target.source] :=
  fun _ rest mark => readAll_variable target false mark rest

/-- A variable that stands in a pattern. -/
theorem Reads.introduces (before : Reads first true introduced used) (target : Variable)
    (passed : readAll { pattern := true } closing = { pattern })
    (mark : closing.head?.any (!Reader.isNameChar ·)) :
    Reads (first ++ target.source ++ String.ofList closing) pattern (introduced ++ [target.source])
      used := by
  have found : ({ pattern := true, introduced, used } : Reader) =
      Reader.after introduced used { pattern := true } := by
    simp [Reader.after]
  cases closing with
  | nil => cases mark
  | cons c rest =>
      rw [List.head?_cons, Option.any_some, Bool.not_eq_true'] at mark
      rw [Reads, String.toList_append, String.toList_append, String.toList_ofList, List.append_assoc,
        Reader.readAll_append, before, found, Reader.readAll_after, readAll_variable target true mark,
        passed]
      simp [Reader.after]

/-- A digit is part of no name that has a meaning. -/
theorem spells_nat (number : Nat) : Spells (toString number) [] := by
  have digits := Text.isDigit_of_mem_toString number
  apply spells_of_endName
  rw [Reader.readAll_name rfl]
  · cases characters : (toString number).toList with
    | nil => rfl
    | cons c rest =>
        have digit : c.isDigit := digits c (by rw [characters]; exact List.mem_cons_self)
        have others : c ≠ 'l' ∧ c ≠ 'f' ∧ c ≠ 'i' ∧ c ≠ '_' := by
          refine ⟨?_, ?_, ?_, ?_⟩ <;> rintro rfl <;> cases digit
        simp [Reader.endName, others, others.2.2.2.symm]
  · intro c member
    simp [Reader.isNameChar, Char.isAlphanum, digits c member]

theorem spells_int : (number : Int) → Spells (toString number) []
  | .ofNat magnitude => spells_nat magnitude
  | .negSucc magnitude =>
      have sign : Reads (String.ofList ['-']) false [] [] := reads_ofList (by decide)
      sign.spelled (spells_nat (magnitude + 1))

/-- What a character becomes in quotes does not end the string. -/
theorem readAll_escape (c : Char) :
    readAll { place := .string } (Text.Quoted.escape '"' c) = { place := .string } := by
  have inside {text : List Char} (plain : text.all fun c => c != '"' && c != '\\') :
      readAll { place := .string } text = { place := .string } := by
    induction text with
    | nil => rfl
    | cons d rest ih =>
        simp only [List.all_cons, Bool.and_eq_true, bne_iff_ne] at plain
        simpa [Reader.read, plain.1] using ih (by simpa using plain.2)
  unfold Text.Quoted.escape
  split
  · rfl
  rename_i own
  split
  · rfl
  split
  · rfl
  split
  · rfl
  split
  · rfl
  split
  · have digits : (Nat.toDigits 16 c.toNat).all fun c => c != '"' && c != '\\' :=
      Text.all_toDigits (by decide) c.toNat
    have opened : readAll { place := .string } ['\\', 'u', '\x7b'] = { place := .string } := by decide
    have closed : readAll { place := .string } ['\x7d'] = { place := .string } := by decide
    rw [Reader.readAll_append, Reader.readAll_append, String.toList_ofList, opened, inside digits, closed]
  · apply inside
    simpa using own

/-- A quoted text is one string. -/
theorem reads_quoted (text : String) : Reads (Text.quoted text) false [] [] := by
  have inside (characters : List Char) : readAll { place := .string }
      (characters.flatMap (Text.Quoted.escape '"')) = { place := .string } := by
    induction characters with
    | nil => rfl
    | cons c rest ih => rw [List.flatMap_cons, Reader.readAll_append, readAll_escape, ih]
  have opened : Reader.read {} '"' = { place := .string } := rfl
  rw [Reads, Text.quoted, String.toList_ofList, Text.Quoted.encode, Reader.readAll_append,
    Reader.readAll_cons {}, opened, inside]
  rfl

theorem reads_join {texts : List String} (steps : ∀ step ∈ texts, Reads step false [] []) :
    Reads (String.join texts) false [] [] := by
  rw [Reads, String.toList_join]
  induction texts with
  | nil => rfl
  | cons step rest ih =>
      rw [List.forall_mem_cons] at steps
      have first : readAll {} step.toList = {} := steps.1
      rw [List.flatMap_cons, Reader.readAll_append, first]
      exact ih steps.2

theorem Spells.intercalate {α : Type} {spell : α → String} {uses : α → List String}
    (spells : ∀ item, Spells (spell item) (uses item)) (passed : separates closing) (items : List α) :
    Spells ((String.ofList closing).intercalate (items.map spell)) (items.flatMap uses) := by
  induction items with
  | nil => exact (reads_ofList (by decide)).spells
  | cons item rest ih =>
      cases rest with
      | nil => simpa using spells item
      | cons next others =>
          rw [List.map_cons, List.map_cons, String.intercalate_cons_cons, ← List.map_cons,
            List.flatMap_cons]
          exact ((spells item).closed passed).spelled ih

end Texts

end SqlMapper.Generated
