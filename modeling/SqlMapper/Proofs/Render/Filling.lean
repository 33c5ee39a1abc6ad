import Mathlib.Data.List.Induction
import SqlMapper.Clause
import SqlMapper.Marker
import SqlMapper.Text.Integer

/-!
# Filling in markers

SQL text with question marks is turned into text of another style by writing the marker of its
number for every question mark.  No marker begins or ends with anything that is trimmed, begins like
a junction or ends with a comma, so it makes no difference whether a text is mended before or after.
-/

namespace SqlMapper

namespace MarkerStyle

/-- The text with the marker of its number for every question mark, numbered from `index`. -/
def fill (style : MarkerStyle) (index : Nat) : List Char → List Char
  | [] => []
  | c :: rest =>
    if c = '?' then (style.marker index).toList ++ style.fill (index + 1) rest
    else c :: style.fill index rest

/-- `fill` on strings. -/
def fillText (style : MarkerStyle) (index : Nat) (text : String) : String :=
  String.ofList (style.fill index text.toList)

variable (style : MarkerStyle)

@[simp]
theorem fill_nil (index : Nat) : style.fill index [] = [] := rfl

@[simp]
theorem fill_mark (index : Nat) (rest : List Char) :
    style.fill index ('?' :: rest) =
      (style.marker index).toList ++ style.fill (index + 1) rest := by
  simp [fill]

@[simp]
theorem fill_cons_of_ne {c : Char} (other : c ≠ '?') (index : Nat) (rest : List Char) :
    style.fill index (c :: rest) = c :: style.fill index rest := by
  simp [fill, other]

theorem fill_append (index : Nat) (first second : List Char) :
    style.fill index (first ++ second) =
      style.fill index first ++ style.fill (index + first.count '?') second := by
  induction first generalizing index with
  | nil => simp
  | cons c rest ih =>
      by_cases mark : c = '?'
      · subst mark
        have next : index + 1 + rest.count '?' = index + ('?' :: rest).count '?' := by
          rw [List.count_cons_self]
          omega
        rw [List.cons_append, fill_mark, fill_mark, ih, next, List.append_assoc]
      · rw [List.cons_append, fill_cons_of_ne style mark, fill_cons_of_ne style mark, ih,
          List.count_cons_of_ne mark, List.cons_append]

theorem fill_concat_of_ne {last : Char} (other : last ≠ '?') (index : Nat) (text : List Char) :
    style.fill index (text ++ [last]) = style.fill index text ++ [last] := by
  rw [fill_append, fill_cons_of_ne style other, fill_nil]

theorem fill_eq_self {text : List Char} (unmarked : '?' ∉ text) (index : Nat) :
    style.fill index text = text := by
  induction text with
  | nil => rfl
  | cons c rest ih =>
      rw [List.mem_cons, not_or] at unmarked
      rw [fill_cons_of_ne style (Ne.symm unmarked.1), ih unmarked.2]

/-! ### Markers -/

/-- What stands in front of the number of a marker. -/
def stems : List String := ["@p", "$", ":p"]

/-- The characters that markers begin with. -/
def sigils : List Char := ['?', '@', '$', ':']

theorem isBlank_of_mem_sigils {sigil : Char} (known : sigil ∈ sigils) :
    Text.isBlank sigil = false := by
  simp only [sigils, List.mem_cons, List.not_mem_nil, or_false] at known
  rcases known with rfl | rfl | rfl | rfl <;> rfl

theorem toLower_of_mem_sigils {sigil : Char} (known : sigil ∈ sigils) : sigil.toLower = sigil := by
  simp only [sigils, List.mem_cons, List.not_mem_nil, or_false] at known
  rcases known with rfl | rfl | rfl | rfl <;> rfl

theorem marker_cases (index : Nat) :
    style.marker index = "?" ∨
      ∃ stem ∈ stems, ∃ number : Nat, style.marker index = stem ++ toString number := by
  cases style with
  | question => exact .inl rfl
  | atNamed => exact .inr ⟨"@p", by decide, index, rfl⟩
  | dollar => exact .inr ⟨"$", by decide, index + 1, rfl⟩
  | colonNamed => exact .inr ⟨":p", by decide, index, rfl⟩

theorem marker_eq_cons (index : Nat) :
    ∃ sigil rest, (style.marker index).toList = sigil :: rest ∧ sigil ∈ sigils := by
  rcases style.marker_cases index with plain | ⟨stem, known, number, numbered⟩
  · exact ⟨'?', [], by rw [plain]; decide, by decide⟩
  · rw [numbered, String.toList_append]
    simp only [stems, List.mem_cons, List.not_mem_nil, or_false] at known
    rcases known with rfl | rfl | rfl
    · exact ⟨'@', 'p' :: (toString number).toList, rfl, by decide⟩
    · exact ⟨'$', (toString number).toList, rfl, by decide⟩
    · exact ⟨':', 'p' :: (toString number).toList, rfl, by decide⟩

/-- A marker ends with a character that is neither white space nor a comma. -/
theorem marker_eq_concat (index : Nat) :
    ∃ start last, (style.marker index).toList = start ++ [last] ∧
      Text.isBlank last = false ∧ last ≠ ',' := by
  rcases style.marker_cases index with plain | ⟨stem, _, number, numbered⟩
  · exact ⟨[], '?', by rw [plain]; decide, by decide, by decide⟩
  · rcases Text.toString_eq_concat number with ⟨start, digit, split, isDigit⟩
    refine ⟨stem.toList ++ start, digit, ?_, Text.isBlank_of_isDigit isDigit, ?_⟩
    · rw [numbered, String.toList_append, split, List.append_assoc]
    · rintro rfl
      cases isDigit

theorem fill_concat_mark (index : Nat) (text : List Char) :
    ∃ start last, style.fill index (text ++ ['?']) = start ++ [last] ∧
      Text.isBlank last = false ∧ last ≠ ',' := by
  rcases style.marker_eq_concat (index + text.count '?') with ⟨start, last, marker, ends⟩
  refine ⟨style.fill index text ++ start, last, ?_, ends⟩
  rw [fill_append, fill_mark, fill_nil, marker, List.append_nil, List.append_assoc]

end MarkerStyle

/-- A way of mending texts that keeps all marks, and for which it makes no difference whether they
are filled in before or after. -/
structure KeepsMarks (mend : List Char → List Char) : Prop where
  count : ∀ text, (mend text).count '?' = text.count '?'
  fill : ∀ (style : MarkerStyle) (index : Nat) (text : List Char),
    mend (style.fill index text) = style.fill index (mend text)

namespace KeepsMarks

theorem comp {first second : List Char → List Char} (early : KeepsMarks first)
    (late : KeepsMarks second) : KeepsMarks fun text => second (first text) := by
  constructor
  · intro text
    rw [late.count, early.count]
  · intro style index text
    rw [early.fill, late.fill]

theorem trimStart : KeepsMarks Text.trimStart := by
  constructor
  · intro text
    induction text with
    | nil => rfl
    | cons c rest ih =>
        cases blank : Text.isBlank c with
        | false => rw [Text.trimStart_cons_of_solid blank]
        | true =>
            have other : c ≠ '?' := by
              rintro rfl
              cases blank
            rw [Text.trimStart_cons_of_blank blank, ih, List.count_cons_of_ne other]
  · intro style index text
    induction text with
    | nil => rfl
    | cons c rest ih =>
        by_cases mark : c = '?'
        · -- Neither the question mark nor the marker for it is dropped.
          subst mark
          rcases style.marker_eq_cons index with ⟨sigil, others, marker, known⟩
          have solid := MarkerStyle.isBlank_of_mem_sigils known
          rw [Text.trimStart_cons_of_solid (by decide), style.fill_mark, marker, List.cons_append,
            Text.trimStart_cons_of_solid solid]
        · rw [style.fill_cons_of_ne mark]
          cases blank : Text.isBlank c with
          | false =>
              rw [Text.trimStart_cons_of_solid blank, Text.trimStart_cons_of_solid blank,
                style.fill_cons_of_ne mark]
          | true =>
              rw [Text.trimStart_cons_of_blank blank, Text.trimStart_cons_of_blank blank, ih]

theorem trimEnd : KeepsMarks Text.trimEnd := by
  constructor
  · intro text
    induction text using List.reverseRecOn with
    | nil => rfl
    | append_singleton text last ih =>
        cases blank : Text.isBlank last with
        | false => rw [Text.trimEnd_eq_of_last blank]
        | true =>
            have other : last ≠ '?' := by
              rintro rfl
              cases blank
            rw [Text.trimEnd_concat_of_blank blank, ih, List.count_append,
              List.count_cons_of_ne other, List.count_nil, Nat.add_zero]
  · intro style index text
    induction text using List.reverseRecOn with
    | nil => rfl
    | append_singleton text last ih =>
        by_cases mark : last = '?'
        · subst mark
          rcases style.fill_concat_mark index text with ⟨start, last, filled, solid, _⟩
          have solidMark : Text.isBlank '?' = false := by decide
          rw [Text.trimEnd_eq_of_last solidMark, filled, Text.trimEnd_eq_of_last solid]
        · rw [style.fill_concat_of_ne mark]
          cases blank : Text.isBlank last with
          | false =>
              rw [Text.trimEnd_eq_of_last blank, Text.trimEnd_eq_of_last blank,
                style.fill_concat_of_ne mark]
          | true =>
              rw [Text.trimEnd_concat_of_blank blank, Text.trimEnd_concat_of_blank blank, ih]

theorem trim : KeepsMarks Text.trim :=
  trimStart.comp trimEnd

end KeepsMarks

namespace Clause

/-- A word no letter of which begins a marker. -/
def IsLettered (word : List Char) : Prop :=
  ∀ letter ∈ word, letter.toLower ∉ MarkerStyle.sigils

instance (word : List Char) : Decidable (IsLettered word) :=
  List.decidableBAll (fun letter : Char => letter.toLower ∉ MarkerStyle.sigils) word

variable {word : List Char}

theorem toLower_ne {sigil letter : Char} (known : sigil ∈ MarkerStyle.sigils)
    (other : letter.toLower ∉ MarkerStyle.sigils) : sigil.toLower ≠ letter.toLower := by
  intro same
  rw [MarkerStyle.toLower_of_mem_sigils known] at same
  exact other (same ▸ known)

theorem count_of_afterWord? (lettered : IsLettered word) {text rest : List Char}
    (found : afterWord? word text = some rest) : rest.count '?' = text.count '?' := by
  induction word generalizing text with
  | nil =>
      rw [afterWord?_nil] at found
      split at found
      · rw [Option.some.inj found]
      · cases found
  | cons letter word ih =>
      rcases List.forall_mem_cons.1 lettered with ⟨solid, others⟩
      cases text with
      | nil =>
          rw [afterWord?_cons_nil] at found
          cases found
      | cons c text =>
          rw [afterWord?_cons_cons] at found
          split at found
          · rename_i same
            have unmarked : c ≠ '?' := by
              rintro rfl
              exact toLower_ne (by decide) solid same
            rw [ih others found, List.count_cons_of_ne unmarked]
          · cases found

theorem head?_fill (style : MarkerStyle) (index : Nat) (text : List Char) :
    (style.fill index text).head?.any Text.isBlank = text.head?.any Text.isBlank := by
  cases text with
  | nil => rfl
  | cons c rest =>
      by_cases mark : c = '?'
      · subst mark
        rcases style.marker_eq_cons index with ⟨sigil, others, marker, known⟩
        have solid := MarkerStyle.isBlank_of_mem_sigils known
        rw [style.fill_mark, marker]
        exact solid
      · rw [style.fill_cons_of_ne mark]
        rfl

/-- A text begins with a word if and only if it does so with its marks filled in. -/
theorem afterWord?_fill (lettered : IsLettered word) (style : MarkerStyle) (index : Nat)
    (text : List Char) :
    afterWord? word (style.fill index text) = (afterWord? word text).map (style.fill index) := by
  induction word generalizing text with
  | nil =>
      rw [afterWord?_nil, afterWord?_nil, head?_fill]
      split <;> rfl
  | cons letter word ih =>
      rcases List.forall_mem_cons.1 lettered with ⟨solid, others⟩
      cases text with
      | nil => rw [style.fill_nil, afterWord?_cons_nil, Option.map_none]
      | cons c text =>
          by_cases mark : c = '?'
          · -- The word begins neither with the question mark nor with the marker for it.
            subst mark
            rcases style.marker_eq_cons index with ⟨sigil, digits, marker, known⟩
            have plain : '?'.toLower ≠ letter.toLower := toLower_ne (by decide) solid
            have filled : sigil.toLower ≠ letter.toLower := toLower_ne known solid
            rw [style.fill_mark, marker, List.cons_append, afterWord?_cons_cons, if_neg filled,
              afterWord?_cons_cons, if_neg plain, Option.map_none]
          · rw [style.fill_cons_of_ne mark, afterWord?_cons_cons, afterWord?_cons_cons]
            split
            · exact ih others text
            · rfl

end Clause

namespace KeepsMarks

theorem dropJunction : KeepsMarks fun body =>
    match Clause.afterWord? ['A', 'N', 'D'] body <|> Clause.afterWord? ['O', 'R'] body with
    | some rest => Text.trimStart rest
    | none => body := by
  have conjunction : Clause.IsLettered ['A', 'N', 'D'] := by decide
  have disjunction : Clause.IsLettered ['O', 'R'] := by decide
  constructor
  · intro body
    split
    · rename_i rest found
      simp only [Option.orElse_eq_orElse, Option.orElse_eq_or, Option.or_eq_some_iff] at found
      rw [trimStart.count]
      rcases found with first | ⟨_, second⟩
      · exact Clause.count_of_afterWord? conjunction first
      · exact Clause.count_of_afterWord? disjunction second
    · rfl
  · intro style index body
    rw [Clause.afterWord?_fill conjunction, Clause.afterWord?_fill disjunction]
    cases Clause.afterWord? ['A', 'N', 'D'] body with
    | some rest => exact trimStart.fill style index rest
    | none =>
        cases Clause.afterWord? ['O', 'R'] body with
        | some rest => exact trimStart.fill style index rest
        | none => rfl

theorem dropComma : KeepsMarks fun body =>
    if body.getLast? == some ',' then Text.trimEnd body.dropLast else body := by
  constructor
  · intro body
    induction body using List.reverseRecOn with
    | nil => rfl
    | append_singleton body last _ =>
        by_cases comma : last = ','
        · subst comma
          simp [trimEnd.count]
        · simp [comma]
  · intro style index body
    induction body using List.reverseRecOn with
    | nil => rfl
    | append_singleton body last _ =>
        by_cases mark : last = '?'
        · subst mark
          rcases style.fill_concat_mark index body with ⟨start, last, filled, _, noComma⟩
          simp [filled, noComma]
        · rw [style.fill_concat_of_ne mark]
          by_cases comma : last = ','
          · subst comma
            simp [trimEnd.fill]
          · simp [comma, style.fill_concat_of_ne mark]

theorem trimWhere : KeepsMarks Clause.trimWhere :=
  trim.comp dropJunction

theorem trimSet : KeepsMarks Clause.trimSet :=
  trim.comp dropComma

end KeepsMarks

/-- Number of question marks. -/
def markCount (text : String) : Nat :=
  text.toList.count '?'

/-- A text without question marks. -/
def Unmarked (text : String) : Prop :=
  '?' ∉ text.toList

instance (text : String) : Decidable (Unmarked text) :=
  inferInstanceAs (Decidable ('?' ∉ text.toList))

theorem unmarked_empty : Unmarked "" := by
  decide

theorem Unmarked.markCount {text : String} (unmarked : Unmarked text) : markCount text = 0 :=
  List.count_eq_zero.2 unmarked

theorem markCount_append (first second : String) :
    markCount (first ++ second) = markCount first + markCount second := by
  rw [markCount, String.toList_append, List.count_append]
  rfl

namespace MarkerStyle

variable (style : MarkerStyle) (index : Nat)

theorem fillText_append (first second : String) :
    style.fillText index (first ++ second) =
      style.fillText index first ++ style.fillText (index + markCount first) second := by
  rw [fillText, String.toList_append, fill_append, String.ofList_append]
  rfl

theorem fillText_eq_self {text : String} (unmarked : Unmarked text) :
    style.fillText index text = text := by
  rw [fillText, fill_eq_self style unmarked, String.ofList_toList]

theorem fillText_mark : style.fillText index "?" = style.marker index := by
  have filled : style.fill index "?".toList = (style.marker index).toList := by
    rw [← List.append_nil (style.marker index).toList]
    exact style.fill_mark index []
  rw [fillText, filled, String.ofList_toList]

theorem fill_eq_nil_iff (text : List Char) : style.fill index text = [] ↔ text = [] := by
  cases text with
  | nil => simp
  | cons c rest =>
      by_cases mark : c = '?'
      · subst mark
        rcases style.marker_eq_cons index with ⟨sigil, others, marker, _⟩
        simp [marker]
      · simp [mark]

theorem isEmpty_fillText (text : String) : (style.fillText index text).isEmpty = text.isEmpty := by
  rw [Bool.eq_iff_iff, String.isEmpty_iff, String.isEmpty_iff, ← String.toList_eq_nil_iff,
    fillText, String.toList_ofList, fill_eq_nil_iff, String.toList_eq_nil_iff]

end MarkerStyle

namespace KeepsMarks

variable {mend : List Char → List Char}

theorem markCount (keeps : KeepsMarks mend) (text : String) :
    markCount (String.ofList (mend text.toList)) = SqlMapper.markCount text := by
  rw [SqlMapper.markCount, String.toList_ofList]
  exact keeps.count text.toList

theorem fillText (keeps : KeepsMarks mend) (style : MarkerStyle) (index : Nat) (text : String) :
    String.ofList (mend (style.fillText index text).toList) =
      style.fillText index (String.ofList (mend text.toList)) := by
  rw [MarkerStyle.fillText, MarkerStyle.fillText, String.toList_ofList, String.toList_ofList,
    keeps.fill]

end KeepsMarks

namespace Clause

variable (kind : Clause)

theorem markCount_trimBody (body : String) : markCount (kind.trimBody body) = markCount body := by
  cases kind with
  | whereClause => exact KeepsMarks.trimWhere.markCount body
  | setClause => exact KeepsMarks.trimSet.markCount body

theorem fillText_trimBody (style : MarkerStyle) (index : Nat) (body : String) :
    kind.trimBody (style.fillText index body) = style.fillText index (kind.trimBody body) := by
  cases kind with
  | whereClause => exact KeepsMarks.trimWhere.fillText style index body
  | setClause => exact KeepsMarks.trimSet.fillText style index body

theorem unmarked_keyword : Unmarked kind.keyword := by
  cases kind <;> decide

theorem markCount_wrap (body : String) : markCount (kind.wrap body) = markCount body := by
  rw [← kind.markCount_trimBody body]
  simp only [wrap]
  split
  · rename_i empty
    rw [String.isEmpty_iff.1 empty]
  · rw [markCount_append, kind.unmarked_keyword.markCount, Nat.zero_add]

/-- Filling in the markers of a body and wrapping it come in any order. -/
theorem fillText_wrap (style : MarkerStyle) (index : Nat) (body : String) :
    kind.wrap (style.fillText index body) = style.fillText index (kind.wrap body) := by
  simp only [wrap]
  rw [fillText_trimBody, style.isEmpty_fillText]
  split
  · rw [style.fillText_eq_self index unmarked_empty]
  · rw [style.fillText_append, style.fillText_eq_self index kind.unmarked_keyword,
      kind.unmarked_keyword.markCount, Nat.add_zero]

end Clause

end SqlMapper
