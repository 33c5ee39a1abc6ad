import SqlMapper.Identifier
import SqlMapper.Proofs.Text.Bytes
import SqlMapper.Proofs.Text.Split
import Mathlib

/-!
# Which texts are identifiers

A grammar says which texts may be spliced into SQL: nonempty runs of ASCII letters, digits and
underscores with single dots between them, none of which joins another query.  The checks made one after
the other admit exactly these texts, and of any other text they report the first rule that it breaks.
-/

namespace SqlMapper.SafeIdentifier

/-! ### The grammar -/

def IsRunChar (c : Char) : Prop :=
  ('a' ≤ c ∧ c ≤ 'z') ∨ ('A' ≤ c ∧ c ≤ 'Z') ∨ ('0' ≤ c ∧ c ≤ '9') ∨ c = '_'

/-- Nonempty runs of characters that write a text with single dots between them. -/
structure Writes (runs : List (List Char)) (text : List Char) : Prop where
  some_run : runs ≠ []
  nonempty : ∀ run ∈ runs, run ≠ []
  chars : ∀ run ∈ runs, ∀ c ∈ run, IsRunChar c
  written : ['.'].intercalate runs = text

/-- Whether a run is an operator on whole queries, whatever the case of its letters. -/
structure Spells (run : List Char) (keyword : String) : Prop where
  isOperator : keyword ∈ ["UNION", "INTERSECT", "EXCEPT", "MINUS"]
  letters : run.map Char.toUpper = keyword.toList

structure IsAdmissible (text : String) : Prop where
  nonempty : 1 ≤ text.utf8ByteSize
  short : text.utf8ByteSize ≤ 128
  runs : ∃ runs, Writes runs text.toList ∧ ∀ run ∈ runs, ∀ keyword, ¬Spells run keyword

/-- The rules that a text breaks, by what is to be reported of each. -/
inductive Breaks (text : String) : Problem → Prop where
  | empty (empty : text = "") : Breaks text .empty
  | tooLong (long : 128 < text.utf8ByteSize) : Breaks text .tooLong
  /-- The first character that stands in no path is named. -/
  | invalidCharacter {before after : List Char} {found : Char}
      (cut : text.toList = before ++ found :: after) (allowed : ∀ c ∈ before, IsRunChar c ∨ c = '.')
      (foreign : ¬(IsRunChar found ∨ found = '.')) : Breaks text (.invalidCharacter found)
  | malformedPath (unwritten : ∀ runs, ¬Writes runs text.toList) : Breaks text (.malformedPath text)
  /-- The operator that the first such run spells is named. -/
  | forbiddenKeyword {before after : List (List Char)} {run : List Char} {keyword : String}
      (writes : Writes (before ++ run :: after) text.toList)
      (allowed : ∀ earlier ∈ before, ∀ other, ¬Spells earlier other) (spells : Spells run keyword) :
      Breaks text (.forbiddenKeyword keyword)

/-- The place of the rule behind a problem in the order in which rules apply. -/
def Problem.rank : Problem → Nat
  | .empty => 0
  | .tooLong => 1
  | .invalidCharacter _ => 2
  | .malformedPath _ => 3
  | .forbiddenKeyword _ => 4
  | .notAllowed _ => 5

/-- Whether a problem is that of the first rule that applies to a text. -/
structure IsFirst (text : String) (problem : Problem) : Prop where
  broken : Breaks text problem
  first : ∀ other, Breaks text other → problem.rank ≤ other.rank

variable {text : String} {problem other : Problem} {runs others : List (List Char)} {run : List Char}
  {chars : List Char} {c : Char} {keyword : String}

/-! ### Runs -/

theorem isSegmentChar_iff : isSegmentChar c = true ↔ IsRunChar c := by
  simp only [isSegmentChar, IsRunChar, Char.isAlphanum, Char.isAlpha, Char.isUpper, Char.isLower,
    Char.isDigit, Bool.or_eq_true, Bool.and_eq_true, decide_eq_true_eq, beq_iff_eq, ge_iff_le,
    Char.le_def]
  tauto

theorem isIdentifierChar_iff : isIdentifierChar c = true ↔ IsRunChar c ∨ c = '.' := by
  rw [isIdentifierChar, Bool.or_eq_true, isSegmentChar_iff, beq_iff_eq]

theorem IsRunChar.ne_dot (isRunChar : IsRunChar c) : c ≠ '.' := by
  rintro rfl
  exact absurd (isSegmentChar_iff.2 isRunChar) (by decide)

theorem Writes.split (writes : Writes runs chars) : Text.split (· == '.') chars = runs := by
  rw [← writes.written]
  apply Text.split_intercalate writes.some_run
  intro run isRun dot
  exact (writes.chars run isRun '.' dot).ne_dot rfl

theorem Writes.unique (writes : Writes runs chars) (also : Writes others chars) : runs = others := by
  rw [← writes.split, also.split]

theorem Writes.isIdentifierChar (writes : Writes runs chars) :
    ∀ c ∈ chars, SafeIdentifier.isIdentifierChar c := by
  rw [← writes.written]
  apply Text.forall_mem_intercalate (List.forall_mem_singleton.2 (by decide))
  intro run isRun c member
  exact isIdentifierChar_iff.2 (.inl (writes.chars run isRun c member))

/-- Text of allowed characters is written by its pieces between dots unless one of them is empty. -/
theorem writes_split (allowed : ∀ c ∈ chars, isIdentifierChar c)
    (nonempty : ∀ piece ∈ Text.split (· == '.') chars, piece ≠ []) :
    Writes (Text.split (· == '.') chars) chars := by
  refine ⟨Text.split_ne_nil _ chars, nonempty, ?_, Text.intercalate_split '.' chars⟩
  intro piece isPiece c member
  obtain ⟨inside, plain⟩ := Text.mem_of_mem_split isPiece member
  rcases isIdentifierChar_iff.1 (allowed c inside) with isRunChar | rfl
  · exact isRunChar
  · cases plain

/-! ### Operators -/

theorem toLower_eq_toLower_iff {letter : Char} (isUpper : letter.isUpper) :
    c.toLower = letter.toLower ↔ c.toUpper = letter := by
  simp only [Char.isUpper, decide_eq_true_eq, ge_iff_le] at isUpper
  simp only [Char.ext_iff, Char.toLower, Char.toUpper]
  split <;> split <;> grind [UInt32.toNat_add, UInt32.le_iff_toNat_le, UInt32.toNat_inj]

theorem map_toLower_eq_iff {letters : List Char} (upper : ∀ letter ∈ letters, letter.isUpper) :
    run.map Char.toLower = letters.map Char.toLower ↔ run.map Char.toUpper = letters := by
  induction letters generalizing run with
  | nil => simp
  | cons letter rest ih =>
      rw [List.forall_mem_cons] at upper
      cases run with
      | nil => simp
      | cons c more =>
          rw [List.map_cons, List.map_cons, List.map_cons, List.cons.injEq, List.cons.injEq,
            toLower_eq_toLower_iff upper.1, ih upper.2]

theorem sameIgnoringCase_iff_spells (isOperator : keyword ∈ setOperators) :
    Text.sameIgnoringCase (String.ofList run) keyword = true ↔ Spells run keyword := by
  have upper : setOperators.all fun keyword => keyword.toList.all Char.isUpper := by decide
  have letters := List.all_eq_true.1 (List.all_eq_true.1 upper keyword isOperator)
  rw [Text.sameIgnoringCase_iff, Text.foldCase, Text.foldCase, String.toList_ofList,
    String.ofList_inj, map_toLower_eq_iff letters]
  exact ⟨fun same => ⟨isOperator, same⟩, Spells.letters⟩

theorem Spells.keyword_unique {second : String} (spells : Spells run keyword)
    (also : Spells run second) : keyword = second :=
  String.toList_inj.1 (spells.letters.symm.trans also.letters)

theorem setOperator?_eq_some_iff : setOperator? (String.ofList run) = some keyword ↔
    Spells run keyword := by
  constructor
  · intro found
    exact (sameIgnoringCase_iff_spells (List.mem_of_find?_eq_some found)).1 (List.find?_some found)
  · intro spells
    have same := (sameIgnoringCase_iff_spells spells.isOperator).2 spells
    have isSome : (setOperator? (String.ofList run)).isSome :=
      List.find?_isSome.2 ⟨keyword, spells.isOperator, same⟩
    obtain ⟨second, found⟩ := Option.isSome_iff_exists.1 isSome
    have also := (sameIgnoringCase_iff_spells (List.mem_of_find?_eq_some found)).1
      (List.find?_some found)
    rw [found, spells.keyword_unique also]

theorem setOperator?_eq_none_iff : setOperator? (String.ofList run) = none ↔
    ∀ keyword, ¬Spells run keyword := by
  rw [Option.eq_none_iff_forall_ne_some]
  simp only [ne_eq, setOperator?_eq_some_iff]

/-! ### Rules -/

theorem breaks_invalidCharacter_iff : Breaks text (.invalidCharacter c) ↔
    text.toList.find? (!isIdentifierChar ·) = some c := by
  simp only [List.find?_eq_some_iff_append, Bool.not_eq_true', Bool.not_not, ← Bool.not_eq_true,
    isIdentifierChar_iff]
  constructor
  · intro breaks
    cases breaks with
    | invalidCharacter cut allowed foreign => exact ⟨foreign, _, _, cut, allowed⟩
  · rintro ⟨foreign, before, after, cut, allowed⟩
    exact .invalidCharacter cut allowed foreign

theorem breaks_malformedPath_iff (allowed : ∀ c ∈ text.toList, isIdentifierChar c) :
    Breaks text (.malformedPath text) ↔ (Text.splitString '.' text).any (·.isEmpty) := by
  have empty (piece : List Char) : (String.ofList piece).isEmpty = true ↔ piece = [] := by
    rw [String.isEmpty_iff, String.ofList_eq_empty_iff]
  rw [Text.splitString, List.any_map, List.any_eq_true]
  simp only [Function.comp_apply, empty]
  constructor
  · intro breaks
    cases breaks with
    | malformedPath unwritten =>
        by_contra! nonempty
        exact unwritten _ (writes_split allowed nonempty)
  · rintro ⟨piece, isPiece, isEmpty⟩
    refine .malformedPath fun runs writes => ?_
    rw [writes.split] at isPiece
    exact writes.nonempty piece isPiece isEmpty

theorem breaks_forbiddenKeyword_iff (writes : Writes runs text.toList) :
    Breaks text (.forbiddenKeyword keyword) ↔
      (Text.splitString '.' text).findSome? setOperator? = some keyword := by
  rw [Text.splitString, writes.split, List.findSome?_map, List.findSome?_eq_some_iff]
  simp only [Function.comp_apply, setOperator?_eq_some_iff, setOperator?_eq_none_iff]
  constructor
  · intro breaks
    cases breaks with
    | forbiddenKeyword others allowed spells =>
        exact ⟨_, _, _, writes.unique others, spells, allowed⟩
  · rintro ⟨before, run, after, rfl, spells, allowed⟩
    exact .forbiddenKeyword writes allowed spells

theorem IsAdmissible.unbroken (admissible : IsAdmissible text) : ¬Breaks text problem := by
  obtain ⟨runs, writes, none⟩ := admissible.runs
  intro breaks
  cases breaks with
  | empty empty => exact absurd admissible.nonempty (by simp [empty])
  | tooLong long => exact absurd admissible.short (by omega)
  | invalidCharacter cut _ foreign =>
      exact foreign (isIdentifierChar_iff.1 (writes.isIdentifierChar _ (by simp [cut])))
  | malformedPath unwritten => exact unwritten runs writes
  | forbiddenKeyword others _ spells =>
      rw [writes.unique others] at none
      exact none _ (by simp) _ spells

/-- A nonempty text of allowed characters that is not too long can only be badly put together. -/
theorem isAdmissible_or_isFirst (nonempty : 1 ≤ text.utf8ByteSize) (short : text.utf8ByteSize ≤ 128)
    (allowed : ∀ c ∈ text.toList, isIdentifierChar c) :
    let segments := Text.splitString '.' text
    let found :=
      if segments.any (·.isEmpty) then some (.malformedPath text)
      else (segments.findSome? setOperator?).map .forbiddenKeyword
    found = none ∧ IsAdmissible text ∨ ∃ problem, found = some problem ∧ IsFirst text problem := by
  intro segments found
  have passed : ∀ earlier, Breaks text earlier → 3 ≤ earlier.rank := by
    intro earlier breaks
    cases breaks with
    | empty empty => exact absurd nonempty (by simp [empty])
    | tooLong long => exact absurd short (by omega)
    | invalidCharacter cut _ foreign =>
        exact absurd (isIdentifierChar_iff.1 (allowed _ (by simp [cut]))) foreign
    | _ => simp [Problem.rank]
  by_cases malformed : segments.any (·.isEmpty)
  · have reported : found = some (.malformedPath text) := if_pos malformed
    exact .inr ⟨_, reported, (breaks_malformedPath_iff allowed).2 malformed, passed⟩
  · have reported : found = (segments.findSome? setOperator?).map .forbiddenKeyword := if_neg malformed
    have runs : ∃ runs, Writes runs text.toList := by
      by_contra! unwritten
      exact malformed ((breaks_malformedPath_iff allowed).1 (.malformedPath unwritten))
    obtain ⟨runs, writes⟩ := runs
    cases spelled : segments.findSome? setOperator? with
    | none =>
        rw [spelled] at reported
        refine .inl ⟨reported, nonempty, short, runs, writes, ?_⟩
        intro run isRun keyword spells
        have none := List.findSome?_eq_none_iff.1 spelled (String.ofList run)
        rw [setOperator?_eq_none_iff] at none
        refine none ?_ keyword spells
        have written : segments = runs.map String.ofList := congrArg _ writes.split
        rw [written]
        exact List.mem_map_of_mem isRun
    | some keyword =>
        rw [spelled] at reported
        refine .inr ⟨_, reported, (breaks_forbiddenKeyword_iff writes).2 spelled, ?_⟩
        intro earlier breaks
        have later := passed earlier breaks
        cases breaks with
        | malformedPath unwritten => exact absurd writes (unwritten runs)
        | forbiddenKeyword => exact Nat.le_refl _
        | _ => simp [Problem.rank] at later

theorem problem?_cases (text : String) :
    problem? text = none ∧ IsAdmissible text ∨
      ∃ problem, problem? text = some problem ∧ IsFirst text problem := by
  unfold problem?
  dsimp only
  rw [Text.utf8Length_toList]
  by_cases empty : text = ""
  · exact .inr ⟨.empty, by simp [empty], .empty empty, fun other _ => Nat.zero_le _⟩
  rw [if_neg (by simpa using empty)]
  have nonempty : 1 ≤ text.utf8ByteSize :=
    Nat.one_le_iff_ne_zero.2 fun none => empty (String.utf8ByteSize_eq_zero_iff.1 none)
  by_cases long : text.utf8ByteSize > maxLength
  · refine .inr ⟨.tooLong, by simp [long], .tooLong long, ?_⟩
    intro other breaks
    cases breaks with
    | empty same => exact absurd same empty
    | _ => simp [Problem.rank]
  rw [if_neg long]
  cases foreign : text.toList.find? (!isIdentifierChar ·) with
  | some found =>
      refine .inr ⟨_, rfl, breaks_invalidCharacter_iff.2 foreign, ?_⟩
      intro other breaks
      cases breaks with
      | empty same => exact absurd same empty
      | tooLong toolong => exact absurd toolong long
      | _ => simp [Problem.rank]
  | none =>
      apply isAdmissible_or_isFirst nonempty (Nat.le_of_not_gt long)
      intro c member
      simpa using List.find?_eq_none.1 foreign c member

theorem problem?_eq_none_iff : problem? text = none ↔ IsAdmissible text := by
  rcases problem?_cases text with ⟨none, admissible⟩ | ⟨problem, reported, isFirst⟩
  · exact ⟨fun _ => admissible, fun _ => none⟩
  · constructor
    · intro none
      cases reported.symm.trans none
    · intro admissible
      exact absurd isFirst.broken admissible.unbroken

/-- For each rule one problem is reported of a text. -/
theorem Breaks.unique (breaks : Breaks text problem) (also : Breaks text other)
    (same : problem.rank = other.rank) : problem = other := by
  cases problem with
  | empty => cases other <;> first | rfl | cases same
  | tooLong => cases other <;> first | rfl | cases same
  | invalidCharacter found =>
      cases other with
      | invalidCharacter second =>
          rw [breaks_invalidCharacter_iff] at breaks also
          rw [Option.some.inj (breaks.symm.trans also)]
      | _ => cases same
  | malformedPath =>
      cases other with
      | malformedPath =>
          cases breaks
          cases also
          rfl
      | _ => cases same
  | forbiddenKeyword keyword =>
      cases other with
      | forbiddenKeyword second =>
          obtain ⟨runs, writes⟩ : ∃ runs, Writes runs text.toList := by
            cases breaks with
            | forbiddenKeyword writes => exact ⟨_, writes⟩
          rw [breaks_forbiddenKeyword_iff writes] at breaks also
          rw [Option.some.inj (breaks.symm.trans also)]
      | _ => cases same
  | notAllowed => cases breaks

theorem problem?_eq_some_iff : problem? text = some problem ↔ IsFirst text problem := by
  rcases problem?_cases text with ⟨none, admissible⟩ | ⟨first, reported, isFirst⟩
  · constructor
    · intro reported
      cases none.symm.trans reported
    · intro isFirst
      exact absurd isFirst.broken admissible.unbroken
  · rw [reported, Option.some.injEq]
    constructor
    · rintro rfl
      exact isFirst
    · intro also
      apply isFirst.broken.unique also.broken
      exact Nat.le_antisymm (isFirst.first _ also.broken) (also.first _ isFirst.broken)

/-! ### Admission -/

theorem ofAllowed_eq_ok_iff {allowed : List String} {identifier : SafeIdentifier} :
    ofAllowed text allowed = .ok identifier ↔ ofText text = .ok identifier ∧ text ∈ allowed := by
  unfold ofAllowed
  cases ofText text with
  | error problem => simp
  | ok admitted => by_cases listed : text ∈ allowed <;> simp [listed]

theorem exists_ofText_eq_ok_iff :
    (∃ identifier, ofText text = .ok identifier) ↔ IsAdmissible text := by
  rw [← problem?_eq_none_iff]
  constructor
  · rintro ⟨identifier, admitted⟩
    rw [← ofText_eq_ok_iff.1 admitted]
    exact identifier.sound
  · intro sound
    exact ⟨⟨text, sound⟩, ofText_eq_ok_iff.2 rfl⟩

/-- A text is admitted as it is if the grammar writes it, and else the first rule that it breaks is
reported.  Being one of the allowed texts is asked for in addition, and there is no identifier that is not
admitted in this way. -/
theorem ofText_exact (text : String) :
    ((∃ identifier, ofText text = .ok identifier) ↔ IsAdmissible text) ∧
      (∀ identifier, ofText text = .ok identifier ↔ identifier.text = text) ∧
      (∀ problem, ofText text = .error problem ↔ IsFirst text problem) ∧
      (∀ allowed identifier, ofAllowed text allowed = .ok identifier ↔
        ofText text = .ok identifier ∧ text ∈ allowed) ∧
      (∀ (α : Type) [Enumerant α] (member : α) identifier, ofMember member = .ok identifier ↔
        ofText (Enumerant.declaredName member) = .ok identifier) ∧
      ∀ identifier : SafeIdentifier, ofText identifier.text = .ok identifier := by
  refine ⟨exists_ofText_eq_ok_iff, fun identifier => ofText_eq_ok_iff, ?_, ?_, ?_, ?_⟩
  · intro problem
    rw [ofText_eq_error_iff, problem?_eq_some_iff]
  · intro allowed identifier
    exact ofAllowed_eq_ok_iff
  · intro α _ member identifier
    exact Iff.rfl
  · intro identifier
    exact ofText_eq_ok_iff.2 rfl

end SqlMapper.SafeIdentifier
