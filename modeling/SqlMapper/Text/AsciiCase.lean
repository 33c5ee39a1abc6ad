/-!
# ASCII case

Names are compared exactly first and then without regard to the case of ASCII letters; letters of
other scripts always count as written.
-/

namespace SqlMapper.Text

/-- The text with its ASCII letters in lower case. -/
def foldCase (text : String) : String :=
  String.ofList (text.toList.map Char.toLower)

/-- Equality up to the case of ASCII letters. -/
def sameIgnoringCase (left right : String) : Bool :=
  foldCase left == foldCase right

@[simp] theorem sameIgnoringCase_self (text : String) : sameIgnoringCase text text = true := by
  simp [sameIgnoringCase]

theorem sameIgnoringCase_iff {left right : String} :
    sameIgnoringCase left right = true ↔ foldCase left = foldCase right := by
  simp [sameIgnoringCase]

end SqlMapper.Text
