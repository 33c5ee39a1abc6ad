import SqlMapper.Generated.Source

/-!
# Generated expressions stand on one line

Text of a template gets into generated expressions by way of quotes only, which spell out every line
break.  What else an expression is made of are fixed words and numbers.
-/

namespace SqlMapper

namespace Text

/-- Characters at which a reader of text may begin a new line. -/
def lineBreaks : List Char :=
  ['\n', '\r', '\x0b', '\x0c', '\u0085', '\u2028', '\u2029']

def isUnbroken (characters : List Char) : Bool :=
  characters.all (· ∉ lineBreaks)

/-- Whether none of some characters stands in a text. -/
def Lacks (marks : List Char) (text : String) : Prop :=
  ∀ c ∈ text.toList, c ∉ marks

instance (marks : List Char) (text : String) : Decidable (Lacks marks text) :=
  List.decidableBAll (· ∉ marks) text.toList

variable {marks : List Char} {first second text : String}

theorem isUnbroken_append (first second : List Char) :
    isUnbroken (first ++ second) = (isUnbroken first && isUnbroken second) :=
  List.all_append

theorem lacks_ofList {characters : List Char} (unbroken : isUnbroken characters) :
    Lacks lineBreaks (String.ofList characters) := by
  intro c member
  rw [String.toList_ofList] at member
  exact of_decide_eq_true (List.all_eq_true.1 unbroken c member)

theorem lacks_empty : Lacks marks "" := by
  simp [Lacks]

theorem lacks_append : Lacks marks (first ++ second) ↔ Lacks marks first ∧ Lacks marks second := by
  simp only [Lacks, String.toList_append, List.forall_mem_append]

theorem Lacks.append (before : Lacks marks first) (behind : Lacks marks second) :
    Lacks marks (first ++ second) :=
  lacks_append.2 ⟨before, behind⟩

theorem Lacks.mono {others : List Char} (within : marks ⊆ others) (free : Lacks others text) :
    Lacks marks text := by
  intro c member marked
  exact free c member (within marked)

theorem lacks_enclosed_iff {opening closing : List Char} (within : marks ⊆ lineBreaks)
    (unbroken : isUnbroken (opening ++ closing)) :
    Lacks marks (String.ofList opening ++ text ++ String.ofList closing) ↔ Lacks marks text := by
  rw [isUnbroken_append, Bool.and_eq_true] at unbroken
  have before := (lacks_ofList unbroken.1).mono within
  have behind := (lacks_ofList unbroken.2).mono within
  rw [lacks_append, lacks_append, and_iff_left behind, and_iff_right before]

theorem Lacks.enclosed {opening closing : List Char} (inside : Lacks lineBreaks text)
    (unbroken : isUnbroken (opening ++ closing)) :
    Lacks lineBreaks (String.ofList opening ++ text ++ String.ofList closing) :=
  (lacks_enclosed_iff (List.Subset.refl _) unbroken).2 inside

theorem Lacks.followed {closing : List Char} (before : Lacks lineBreaks first)
    (behind : Lacks lineBreaks second) (unbroken : isUnbroken closing) :
    Lacks lineBreaks (first ++ second ++ String.ofList closing) :=
  (before.append behind).append (lacks_ofList unbroken)

theorem Lacks.of_mem_map {α : Type} {spell : α → String} {items : List α}
    (free : ∀ item, Lacks marks (spell item)) : ∀ text ∈ items.map spell, Lacks marks text := by
  intro text member
  rcases List.mem_map.1 member with ⟨item, _, rfl⟩
  exact free item

theorem Lacks.join {texts : List String} (free : ∀ text ∈ texts, Lacks marks text) :
    Lacks marks (String.join texts) := by
  intro c member
  rw [String.toList_join, List.mem_flatMap] at member
  rcases member with ⟨text, among, inside⟩
  exact free text among c inside

theorem Lacks.intercalate {texts : List String} (separator : Lacks marks first)
    (free : ∀ text ∈ texts, Lacks marks text) : Lacks marks (first.intercalate texts) := by
  induction texts with
  | nil => exact lacks_empty
  | cons text rest ih =>
      rcases List.forall_mem_cons.1 free with ⟨here, later⟩
      cases rest with
      | nil => rwa [String.intercalate_singleton]
      | cons next others =>
          rw [String.intercalate_cons_cons]
          exact (here.append separator).append (ih later)

/-- A text whose characters pass a test that no line break passes. -/
theorem lacks_of_test {test : Char → Bool} (fails : lineBreaks.all fun c => !test c)
    (passes : ∀ c ∈ text.toList, test c) : Lacks lineBreaks text := by
  intro c member marked
  have failed := List.all_eq_true.1 fails c marked
  rw [passes c member] at failed
  cases failed

theorem lacks_toString_nat (number : Nat) : Lacks lineBreaks (toString number) :=
  lacks_of_test (by decide) (isDigit_of_mem_toString number)

theorem lacks_toString_int (number : Int) : Lacks lineBreaks (toString number) := by
  cases number with
  | ofNat magnitude => exact lacks_toString_nat magnitude
  | negSucc magnitude => exact (lacks_ofList (by decide)).append (lacks_toString_nat (magnitude + 1))

theorem all_toDigits {test : Char → Bool} (digits : ∀ digit < 16, test (Nat.digitChar digit))
    (number : Nat) : (Nat.toDigits 16 number).all test := by
  induction number using Nat.strongRecOn with
  | ind number ih =>
      rw [Nat.toDigits_eq_if (by decide)]
      split
      · rename_i small
        simp [digits number small]
      · rename_i large
        have before := ih (number / 16) (by omega)
        have last := digits (number % 16) (Nat.mod_lt number (by decide))
        simp only [List.all_append, List.all_cons, List.all_nil, before, last, Bool.and_self]

/-- What a character becomes in quotes holds no line break, whether it is one or not. -/
theorem isUnbroken_escape (c : Char) : isUnbroken (Quoted.escape '"' c) := by
  by_cases mark : c ∈ lineBreaks
  · have escaped : lineBreaks.all fun c => isUnbroken (Quoted.escape '"' c) := by decide +kernel
    exact List.all_eq_true.1 escaped c mark
  · have own : isUnbroken [c] := by simpa [isUnbroken] using mark
    unfold Quoted.escape
    split
    · have marked := isUnbroken_append ['\\'] [c]
      rw [own] at marked
      exact marked
    split
    · decide
    split
    · decide
    split
    · decide
    split
    · decide
    split
    · have digits : isUnbroken (Nat.toDigits 16 c.toNat) := all_toDigits (by decide) c.toNat
      rw [isUnbroken_append, isUnbroken_append, digits]
      decide
    · exact own

/-- A quoted text stands on one line. -/
theorem lacks_quoted (text : String) : Lacks lineBreaks (quoted text) := by
  apply lacks_ofList
  have inside : isUnbroken (text.toList.flatMap (Quoted.escape '"')) := by
    rw [isUnbroken, List.all_flatMap, List.all_eq_true]
    intro c _
    exact isUnbroken_escape c
  have opened := isUnbroken_append ['"'] (text.toList.flatMap (Quoted.escape '"'))
  rw [inside] at opened
  rw [Quoted.encode, isUnbroken_append]
  exact Bool.and_eq_true_iff.2 ⟨opened, by decide⟩

end Text

namespace Generated

open Text

/-! ### Texts of expressions -/

theorem lacks_access (access : Access) {target : String} (free : Lacks lineBreaks target) :
    Lacks lineBreaks (access.source target) := by
  have method : Lacks lineBreaks (if access.counts then "count_or_member" else "member") := by
    split <;> exact lacks_ofList (by decide)
  exact (method.enclosed (by decide)).followed free (by decide)
    |>.followed (lacks_quoted access.name) (by decide)

theorem lacks_literalSource : (literal : Literal) → Lacks lineBreaks (literalSource literal)
  | .null => lacks_ofList (by decide)
  | .bool true | .bool false => (lacks_ofList (by decide)).enclosed (by decide)
  | .int value => (lacks_toString_int value.toInt).enclosed (by decide)
  | .decimal value =>
      ((lacks_toString_int value.units).enclosed (by decide)).followed
        (lacks_toString_nat value.scale) (by decide)
  | .string text => (lacks_quoted text).enclosed (by decide)

theorem lacks_role (role : Role) : Lacks lineBreaks role.source := by
  unfold Role.source
  split <;> exact lacks_ofList (by decide)

theorem lacks_variable (target : Variable) : Lacks lineBreaks target.source :=
  (lacks_ofList (by decide)).append (lacks_role target.role) |>.append (lacks_toString_nat target.number)

theorem lacks_buffer : (buffer : Buffer) → Lacks lineBreaks buffer.source
  | .output => lacks_ofList (by decide)
  | .side body => lacks_variable body

theorem lacks_origin : (origin : Origin Variable) →
    Lacks lineBreaks (origin.source Variable.source)
  | .parameter member => lacks_access member (lacks_ofList (by decide))
  | .variable target => (lacks_variable target).enclosed (by decide)

theorem lacks_value (value : ValueCode Variable) :
    Lacks lineBreaks (value.source Variable.source) := by
  cases value with
  | constant literal => exact lacks_literalSource literal
  | read origin path =>
      have steps : Lacks lineBreaks (String.join (path.map fun access =>
          ".and_then(|v| " ++ access.source "&v" ++ ")")) := by
        apply Lacks.join
        apply Lacks.of_mem_map
        intro access
        exact (lacks_access access (lacks_ofList (by decide))).enclosed (by decide)
      exact (lacks_origin origin).append steps |>.append (lacks_ofList (by decide))

theorem lacks_bound (code : BindCode Variable) : Lacks lineBreaks (code.source Variable.source) := by
  cases code with
  | value code => exact lacks_value code
  | concat parts =>
      have texts : Lacks lineBreaks (", ".intercalate (parts.map fun part =>
          s!"stringify(&{part.source Variable.source})")) := by
        apply Lacks.intercalate (lacks_ofList (by decide))
        apply Lacks.of_mem_map
        intro part
        exact (lacks_value part).enclosed (by decide)
      exact texts.enclosed (by decide)
  | null => exact lacks_ofList (by decide)

theorem lacks_operator (op : CompareOp) : Lacks lineBreaks op.name := by
  cases op <;> exact lacks_ofList (by decide)

theorem lacks_condition (code : ConditionCode Variable) :
    Lacks lineBreaks (code.source Variable.source) := by
  cases code with
  | truthy value => exact (lacks_value value).enclosed (by decide)
  | compare value op literal =>
      exact ((lacks_value value).enclosed (by decide)).followed (lacks_operator op) (by decide)
        |>.followed (lacks_literalSource literal) (by decide)
  | never => exact lacks_ofList (by decide)

theorem lacks_test (test : TestCode Variable) : Lacks lineBreaks (test.source Variable.source) := by
  have conditions : ∀ text ∈ test.conditions.map (·.source Variable.source),
      Lacks lineBreaks text :=
    .of_mem_map lacks_condition
  unfold TestCode.source
  split
  · rename_i single
    rw [single] at conditions
    exact List.forall_mem_singleton.1 conditions
  · refine (Lacks.intercalate ?_ conditions).enclosed (by decide)
    cases test.junction <;> exact lacks_ofList (by decide)

theorem lacks_pushLine (buffer : Buffer) {argument : String} (free : Lacks lineBreaks argument) :
    Lacks lineBreaks (pushLine buffer argument).text :=
  ((lacks_buffer buffer).append (lacks_ofList (by decide))).followed free (by decide)

theorem lacks_openLine {header : String} (free : Lacks lineBreaks header) :
    Lacks lineBreaks (openLine header).text :=
  free.append (lacks_ofList (by decide))

end Generated

end SqlMapper
