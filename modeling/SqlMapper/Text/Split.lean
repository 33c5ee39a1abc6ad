import SqlMapper.Text.Blank

/-!
# Pieces of a text

Splitting a text at every character of a kind; the words of a text are the pieces between white
space that hold something.
-/

namespace SqlMapper.Text

/-- The pieces of a text between the characters that `separates` selects.  There is always one
piece more than there are separators. -/
def split (separates : Char → Bool) : List Char → List (List Char)
  | [] => [[]]
  | c :: rest =>
    if separates c then [] :: split separates rest
    else
      match split separates rest with
      | [] => [[c]]
      | piece :: pieces => (c :: piece) :: pieces

/-- The pieces of a string between the occurrences of one character. -/
def splitString (separator : Char) (text : String) : List String :=
  (split (· == separator) text.toList).map String.ofList

/-- The maximal runs of characters that are not white space. -/
def words (text : List Char) : List (List Char) :=
  (split isBlank text).filter (!·.isEmpty)

theorem split_ne_nil (separates : Char → Bool) (text : List Char) :
    split separates text ≠ [] := by
  induction text with
  | nil => simp [split]
  | cons c rest ih =>
    unfold split
    split
    · simp
    · split <;> simp

theorem split_of_none {separates : Char → Bool} {text : List Char}
    (none : ∀ c ∈ text, separates c = false) : split separates text = [text] := by
  induction text with
  | nil => rfl
  | cons c rest ih =>
    simp only [split, none c List.mem_cons_self, Bool.false_eq_true, if_false]
    rw [ih fun d member => none d (List.mem_cons_of_mem c member)]

end SqlMapper.Text
