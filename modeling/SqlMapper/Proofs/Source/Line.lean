import SqlMapper.Proofs.Source.Row

/-!
# Lines of source

Source is cut at its line breaks.  A remark may stand on a line of its own and behind whatever else a
line holds, and the indentation of a line makes no difference.
-/

namespace SqlMapper.Generated

/-- Whether nothing but a remark stands in a text. -/
def isRemark (text : List Char) : Bool :=
  let visible := text.dropWhile (· == ' ')
  visible.isEmpty || ['/', '/'].isPrefixOf visible

/-- What a line of the function of a statement holds besides remarks. -/
def rowsOfLine? (statement : String) (line : List Char) : Option (List Row) :=
  match Scan.row statement (line.dropWhile (· == ' ')) with
  | some (row, rest) => if isRemark rest then some [row] else none
  | none => if isRemark line then some [] else none

def rowsOfLines? (statement : String) : List (List Char) → Option (List Row)
  | [] => some []
  | line :: rest => do
    let here ← rowsOfLine? statement line
    let later ← rowsOfLines? statement rest
    some (here ++ later)

/-- What lines hold besides remarks, apart from how they are written. -/
def rowsOf? (statement : String) (lines : List Line) : Option (List Row) :=
  rowsOfLines? statement (lines.map (·.text.toList))

theorem dropWhile_indentation (width : Nat) (text : List Char) :
    (List.replicate width ' ' ++ text).dropWhile (· == ' ') = text.dropWhile (· == ' ') := by
  apply List.dropWhile_append_of_pos
  intro c member
  rw [List.eq_of_mem_replicate member]
  rfl

variable {statement : String} {row : Row}

/-- The indentation of a line makes no difference. -/
theorem rowsOfLine?_indented (width : Nat) (text : List Char) :
    rowsOfLine? statement (List.replicate width ' ' ++ text) = rowsOfLine? statement text := by
  simp only [rowsOfLine?, isRemark, dropWhile_indentation]
  rfl

theorem rowsOfLine?_of_row {text rest : List Char} (taken : Scan.row statement text = some (row, rest))
    (remark : isRemark rest) : rowsOfLine? statement text = some [row] := by
  have visible : text.dropWhile (· == ' ') = text := by
    cases text with
    | nil => rfl
    | cons c rest =>
        apply List.dropWhile_cons_of_neg
        intro blank
        rw [eq_of_beq blank] at taken
        cases taken
  simp only [rowsOfLine?, visible, taken, remark, if_true]

theorem row_plain {text : String} (taken : Scan.Takes (Scan.row statement) text row) :
    Scan.row statement (Line.plain text).text.toList = some (row, []) :=
  taken.whole

theorem row_opening {text : String} (taken : Scan.Takes (Scan.row statement) text row) :
    Scan.row statement (Line.opening text).text.toList = some (row, []) :=
  taken.whole

theorem rowsOfLine?_remark (text : List Char) : rowsOfLine? statement ('/' :: '/' :: text) = some [] :=
  rfl

theorem rowsOfLines?_append (first second : List (List Char)) :
    rowsOfLines? statement (first ++ second) =
      (rowsOfLines? statement first).bind fun rows => (rowsOfLines? statement second).map (rows ++ ·) := by
  induction first with
  | nil => cases later : rowsOfLines? statement second <;> simp [rowsOfLines?, later]
  | cons line rest ih =>
      simp only [List.cons_append, rowsOfLines?, ih]
      cases rowsOfLine? statement line <;> cases rowsOfLines? statement rest <;>
        cases rowsOfLines? statement second <;> simp

section Lines

variable {lines more : List Line} {rows others : List Row} {line : Line}

theorem rowsOf?_nil : rowsOf? statement [] = some [] :=
  rfl

theorem rowsOf?_cons (here : rowsOfLine? statement line.text.toList = some rows)
    (later : rowsOf? statement lines = some others) :
    rowsOf? statement (line :: lines) = some (rows ++ others) := by
  rw [rowsOf?, List.map_cons, rowsOfLines?, here]
  exact congrArg (Option.bind · fun later => some (rows ++ later)) later

theorem rowsOf?_append (one : rowsOf? statement lines = some rows)
    (two : rowsOf? statement more = some others) :
    rowsOf? statement (lines ++ more) = some (rows ++ others) := by
  rw [rowsOf?] at one two
  rw [rowsOf?, List.map_append, rowsOfLines?_append, one, two]
  rfl

/-- A line that is taken as a whole stands in front of what follows. -/
theorem rowsOf?_row (taken : Scan.row statement line.text.toList = some (row, []))
    (later : rowsOf? statement lines = some others) :
    rowsOf? statement (line :: lines) = some (row :: others) :=
  rowsOf?_cons (rowsOfLine?_of_row taken rfl) later

theorem rowsOf?_closed (inner : rowsOf? statement lines = some rows) :
    rowsOf? statement (lines ++ [closeLine]) = some (rows ++ [.closing]) :=
  rowsOf?_append inner (rowsOf?_row Scan.row_closing rowsOf?_nil)

end Lines

/-- The lines of source that lines come to: one that is broken comes to several. -/
def Line.pieces (lines : List Line) : List (List Char) :=
  lines.flatMap fun line => Text.split (· == '\n') line.text.toList

theorem Line.pieces_append (lines more : List Line) :
    Line.pieces (lines ++ more) = Line.pieces lines ++ Line.pieces more :=
  List.flatMap_append

theorem split_of_lacks {text : List Char} (unbroken : '\n' ∉ text) :
    Text.split (· == '\n') text = [text] :=
  Text.split_of_none fun _ inside => beq_eq_false_iff_ne.2 fun same => unbroken (same ▸ inside)

theorem rowsOfLines?_pieces {lines : List Line}
    (unbroken : ∀ line ∈ lines, Text.Lacks ['\n'] line.text) :
    rowsOfLines? statement (Line.pieces lines) = rowsOf? statement lines := by
  have whole : ∀ line ∈ lines, Text.split (· == '\n') line.text.toList = [line.text.toList] :=
    fun line member => split_of_lacks fun inside => unbroken line member _ inside List.mem_cons_self
  rw [Line.pieces, List.flatMap_congr whole, rowsOf?, List.map_eq_flatMap]

theorem Line.exists_toList_render (depth : Nat) (line : Line) :
    ∃ width, (line.render depth).toList = List.replicate width ' ' ++ (line.text.toList ++ ['\n']) := by
  cases line with
  | blank => exact ⟨0, by simp [Line.render, Line.text]⟩
  | _ => exact ⟨_, by simp only [Line.render, String.toList_append, String.toList_ofList,
      List.append_assoc]; rfl⟩

/-- The pieces of a line in source are those of its text, the first of them indented. -/
theorem rowsOfLines?_split_indented (width : Nat) (text : List Char) :
    rowsOfLines? statement (Text.split (· == '\n') (List.replicate width ' ' ++ text)) =
      rowsOfLines? statement (Text.split (· == '\n') text) := by
  rcases List.exists_cons_of_ne_nil (Text.split_ne_nil (· == '\n') text) with ⟨first, others, cut⟩
  have indented : Text.split (· == '\n') (List.replicate width ' ' ++ text) =
      (List.replicate width ' ' ++ first) :: others := by
    induction width with
    | zero => exact cut
    | succ width ih => simp [List.replicate_succ, Text.split, ih]
  rw [indented, cut, rowsOfLines?, rowsOfLines?, rowsOfLine?_indented]

/-- Lines are read from source as they were before they were written, in pieces if they are broken. -/
theorem rowsOfLines?_renderAll (depth : Nat) (lines : List Line) :
    rowsOfLines? statement (Text.split (· == '\n') (Line.renderAll depth lines).toList) =
      rowsOfLines? statement (Line.pieces lines) := by
  induction lines generalizing depth with
  | nil => rfl
  | cons line rest ih =>
      rcases line.exists_toList_render depth with ⟨width, written⟩
      rw [Line.renderAll, String.toList_append, written, List.append_assoc, List.append_assoc,
        List.singleton_append, rowsOfLines?_split_indented, Text.split_append rfl, Line.pieces,
        List.flatMap_cons, rowsOfLines?_append, rowsOfLines?_append, ih]
      rfl

end SqlMapper.Generated
