import SqlMapper.Generated.FromTemplate
import SqlMapper.Proofs.Generated.Word
import Mathlib.Data.List.Nodup
import Mathlib.Data.List.Perm.Subperm

/-!
# Names in generated source are usable

The functions of a module have names of their own, none of which the module uses itself, and every one
is a name that source may declare.  The name of a module is made of the words of its namespace alone: it
is kept apart neither from reserved words nor from other modules.
-/

namespace SqlMapper.Generated

open SnakeCase

/-! ### What is a name -/

/-- Words with a meaning of their own in generated source. -/
def reservedWords : List String :=
  ["as", "break", "const", "continue", "crate", "else", "enum", "extern", "false", "fn", "for", "if",
    "impl", "in", "let", "loop", "match", "mod", "move", "mut", "pub", "ref", "return", "self", "Self",
    "static", "struct", "super", "trait", "true", "type", "unsafe", "use", "where", "while"]
    ++ ["async", "await", "dyn", "try", "gen"]
    ++ ["abstract", "become", "box", "do", "final", "macro", "override", "priv", "typeof", "unsized",
      "virtual", "yield"]

/-- Reserved words that are no names even with a mark in front. -/
def unmarkableWords : List String := ["crate", "self", "super", "Self"]

def isNameStart (c : Char) : Bool :=
  c.isLower || c == '_'

def isNameChar (c : Char) : Bool :=
  c.isLower || c.isDigit || c == '_'

/-- A text of lower case letters, digits and underscores that does not begin with a digit. -/
def isNameText : List Char → Bool
  | [] => false
  | c :: rest => isNameStart c && rest.all isNameChar

/-- Whether a text can be declared as a name, be it with a mark. -/
def IsName (name : String) : Prop :=
  (isNameText name.toList ∧ name ≠ "_" ∧ name ∉ reservedWords) ∨
    ∃ word ∈ reservedWords, word ∉ unmarkableWords ∧ name = "r#" ++ word

instance (name : String) : Decidable (IsName name) :=
  inferInstanceAs (Decidable (_ ∨ _))

/-- A text that is a name unless it is reserved, and to which an underscore may be added. -/
structure IsBase (name : String) : Prop where
  text : isNameText name.toList
  ends : name.toList.getLast? ≠ some '_'

theorem isNameChar_of_isWordChar {c : Char} (allowed : isWordChar c) : isNameChar c := by
  simp only [isWordChar] at allowed
  simp [isNameChar, allowed]

theorem isNameChar_of_isNameStart {c : Char} (allowed : isNameStart c) : isNameChar c := by
  simp only [isNameStart, Bool.or_eq_true] at allowed
  rcases allowed with letter | underscore
  · simp [isNameChar, letter]
  · simp [isNameChar, underscore]

theorem isNameChar_of_mem {text : List Char} (isText : isNameText text) :
    ∀ c ∈ text, isNameChar c := by
  cases text with
  | nil => exact List.forall_mem_nil _
  | cons first rest =>
      simp only [isNameText, Bool.and_eq_true, List.all_eq_true] at isText
      exact List.forall_mem_cons.2 ⟨isNameChar_of_isNameStart isText.1, isText.2⟩

theorem isNameChar_of_mem_joined {words : List (List Char)}
    (areWords : ∀ word ∈ words, IsWord word) : ∀ c ∈ joined words, isNameChar c := by
  induction words with
  | nil => exact List.forall_mem_nil _
  | cons word others ih =>
      rcases List.forall_mem_cons.1 areWords with ⟨isWord, areOthers⟩
      have first : ∀ c ∈ word, isNameChar c := fun c member =>
        isNameChar_of_isWordChar (isWord.chars c member)
      cases others with
      | nil => simpa [joined] using first
      | cons next later =>
          simp only [joined, List.intercalate_cons_cons]
          refine List.forall_mem_append.2 ⟨List.forall_mem_append.2 ⟨first, ?_⟩, ih areOthers⟩
          exact List.forall_mem_singleton.2 (by decide)

theorem isBase_named {words : List (List Char)} (areWords : ∀ word ∈ words, IsWord word) :
    isNameText (named words) ∧ (named words).getLast? ≠ some '_' := by
  by_cases some_word : words = []
  · subst words
    decide
  · have chars := isNameChar_of_mem_joined areWords
    rcases joined_eq_cons areWords some_word with ⟨first, rest, written, isFirst⟩
    rcases joined_eq_concat areWords some_word with ⟨start, last, ending, isLast⟩
    have ends : (joined words).getLast? ≠ some '_' := by
      rw [ending, List.getLast?_concat]
      exact fun same => ne_underscore isLast (Option.some.inj same)
    rw [written] at chars ends
    simp only [named, written]
    split
    · refine ⟨?_, ?_⟩
      · simpa [isNameText, isNameStart] using chars
      · rwa [List.getLast?_cons_cons]
    · rename_i letter
      have isLetter : isNameStart first := by
        simp only [isWordChar, Bool.or_eq_true, letter, Bool.false_eq_true, or_false] at isFirst
        simp [isNameStart, isFirst]
      refine ⟨?_, ends⟩
      simpa [isNameText, isLetter] using (List.forall_mem_cons.1 chars).2

theorem isBase_snakeCase (id : String) : IsBase (snakeCase id) := by
  have areWords : ∀ word ∈ words id, IsWord word := fun _ member => isWord_of_mem_words member
  have shape := isBase_named areWords
  rw [← toList_snakeCase] at shape
  exact ⟨shape.1, shape.2⟩

/-! ### Marks on reserved words -/

/-- A name without the mark that keeps it apart from a reserved word. -/
def unmark : List Char → List Char
  | 'r' :: '#' :: rest => rest
  | text => if text.getLast? = some '_' then text.dropLast else text

theorem unmark_of_isBase {name : String} (base : IsBase name) : unmark name.toList = name.toList := by
  have chars := isNameChar_of_mem base.text
  unfold unmark
  split
  · rename_i rest text
    rw [text] at chars
    have mark := chars '#' (by simp)
    cases mark
  · exact if_neg base.ends

/-- The mark on a name can be taken off again. -/
theorem unmark_asIdentifier {name : String} (base : IsBase name) :
    unmark (asIdentifier name).toList = name.toList := by
  unfold asIdentifier
  split
  · simp [unmark]
  · split
    · rename_i reserved
      have marked : ∀ word ∈ pathKeywords, unmark (word ++ "_").toList = word.toList := by decide
      exact marked name reserved
    · exact unmark_of_isBase base

theorem asIdentifier_inj {first second : String} (baseFirst : IsBase first)
    (baseSecond : IsBase second) (same : asIdentifier first = asIdentifier second) :
    first = second := by
  rw [← String.toList_inj, ← unmark_asIdentifier baseFirst, same, unmark_asIdentifier baseSecond]

theorem isName_asIdentifier {name : String} (base : IsBase name) : IsName (asIdentifier name) := by
  unfold asIdentifier
  split
  · rename_i reserved
    have marked : ∀ word ∈ keywords, IsName ("r#" ++ word) := by decide +kernel
    exact marked name reserved
  · rename_i not_keyword
    split
    · rename_i reserved
      have marked : ∀ word ∈ pathKeywords, IsName (word ++ "_") := by decide +kernel
      exact marked name reserved
    · rename_i not_path
      refine .inl ⟨base.text, ?_, ?_⟩
      · rintro rfl
        exact not_path (by decide)
      · intro reserved
        have known : ∀ word ∈ reservedWords, isNameText word.toList →
            word ∈ keywords ∨ word ∈ pathKeywords := by decide +kernel
        rcases known name reserved base.text with keyword | path
        · exact not_keyword keyword
        · exact not_path path

theorem asIdentifier_not_mem_reservedNames {name : String} (free : name ∉ reservedNames) :
    asIdentifier name ∉ reservedNames := by
  unfold asIdentifier
  split
  · rename_i reserved
    have marked : ∀ word ∈ keywords, "r#" ++ word ∉ reservedNames := by decide +kernel
    exact marked name reserved
  · split
    · rename_i reserved
      have marked : ∀ word ∈ pathKeywords, word ++ "_" ∉ reservedNames := by decide +kernel
      exact marked name reserved
    · exact free

/-! ### Numbered names -/

def numberedName (base : String) (number : Nat) : String :=
  s!"{base}_{number}"

theorem toList_numberedName (base : String) (number : Nat) :
    (numberedName base number).toList = base.toList ++ '_' :: (toString number).toList := by
  simp only [numberedName, String.toList_append, List.append_assoc]
  rfl

theorem numberedName_inj {base : String} {first second : Nat}
    (same : numberedName base first = numberedName base second) : first = second := by
  rw [← String.toList_inj, toList_numberedName, toList_numberedName, List.append_cancel_left_eq,
    List.cons_inj_right] at same
  exact Text.toList_toString_inj same

theorem isBase_numberedName {base : String} (isBase : IsBase base) (number : Nat) :
    IsBase (numberedName base number) := by
  have digits : ∀ c ∈ (toString number).toList, isNameChar c := by
    intro c member
    simp [isNameChar, Text.isDigit_of_mem_toString number c member]
  constructor
  · have text := isBase.text
    rw [toList_numberedName]
    generalize base.toList = stem at text ⊢
    cases stem with
    | nil => cases text
    | cons first rest =>
        simp only [isNameText, Bool.and_eq_true, List.all_eq_true] at text
        simp only [List.cons_append, isNameText, text.1, Bool.true_and, List.all_eq_true]
        exact List.forall_mem_append.2 ⟨text.2, List.forall_mem_cons.2 ⟨by decide, digits⟩⟩
  · rcases Text.toString_eq_concat number with ⟨start, digit, split, isDigit⟩
    rw [toList_numberedName, split, ← List.cons_append, ← List.append_assoc, List.getLast?_concat]
    intro same
    cases Option.some.inj same
    cases isDigit

theorem asIdentifier_numberedName (base : String) (number : Nat) :
    asIdentifier (numberedName base number) = numberedName base number := by
  have letters : ∀ word ∈ keywords ++ pathKeywords,
      word.toList.getLast?.all fun c => !c.isDigit := by decide +kernel
  rcases Text.toString_eq_concat number with ⟨start, digit, split, isDigit⟩
  have other : numberedName base number ∉ keywords ++ pathKeywords := by
    intro reserved
    have letter := letters _ reserved
    rw [toList_numberedName, split, ← List.cons_append, ← List.append_assoc, List.getLast?_concat,
      Option.all_some, isDigit] at letter
    cases letter
  rw [List.mem_append, not_or] at other
  rw [asIdentifier, if_neg other.1, if_neg other.2]

/-! ### Free names -/

namespace NameTable

variable {table : NameTable} {base : String}

/-- The search for a free name, which tries one number after the other from the given one on. -/
inductive Finds (table : NameTable) (base : String) : Nat → String → Prop where
  | free {number : Nat} (isFree : numberedName base number ∉ table.used) :
      Finds table base number (numberedName base number)
  | taken {number : Nat} {name : String} (isTaken : numberedName base number ∈ table.used)
      (next : Finds table base (number + 1) name) : Finds table base number name

theorem finds_of_taken {start count : Nat}
    (taken : ∀ step < count, numberedName base (start + step) ∈ table.used)
    (free : numberedName base (start + count) ∉ table.used) :
    table.Finds base start (numberedName base (start + count)) := by
  induction count generalizing start with
  | zero => exact .free free
  | succ count ih =>
      rw [Nat.add_comm count 1, ← Nat.add_assoc] at free ⊢
      refine .taken (taken 0 (Nat.succ_pos count)) (ih ?_ free)
      intro step before
      rw [Nat.add_assoc, Nat.add_comm 1 step]
      exact taken (step + 1) (Nat.succ_lt_succ before)

/-- More names than are taken cannot all be taken. -/
theorem exists_free (table : NameTable) (base : String) :
    ∃ number ∈ List.range (table.used.length + 1),
      numberedName base (number + 2) ∉ table.used := by
  by_contra! all_taken
  have distinct : ((List.range (table.used.length + 1)).map fun number =>
      numberedName base (number + 2)).Nodup := by
    apply List.nodup_range.map
    intro first second same
    exact Nat.add_right_cancel (numberedName_inj same)
  have within : ((List.range (table.used.length + 1)).map fun number =>
      numberedName base (number + 2)) ⊆ table.used := by
    intro name member
    rcases List.mem_map.1 member with ⟨number, counted, rfl⟩
    exact all_taken number counted
  have count := (List.subperm_of_subset distinct within).length_le
  rw [List.length_map, List.length_range] at count
  omega

/-- The search from two on comes to an end, with the name that the table gives. -/
theorem finds_numbered (table : NameTable) (base : String) :
    table.Finds base 2 (table.numbered base) := by
  rcases exists_free table base with ⟨number, counted, free⟩
  have candidates : (List.range (table.used.length + 1)).map (fun number =>
      s!"{base}_{number + 2}") =
        (List.range (table.used.length + 1)).map fun number => numberedName base (number + 2) := rfl
  cases found : (List.range (table.used.length + 1)).find?
      (fun number => numberedName base (number + 2) ∉ table.used) with
  | none =>
      have missed := List.find?_eq_none.1 found number counted
      simp [free] at missed
  | some first =>
      have name : table.numbered base = numberedName base (2 + first) := by
        simp only [numbered, candidates, List.find?_map, Function.comp_def, found, Option.map_some,
          Option.getD_some, Nat.add_comm]
      rcases List.find?_range_eq_some.1 found with ⟨isFree, _, earlier⟩
      rw [name]
      apply finds_of_taken
      · intro step before
        have taken := earlier step before
        simpa [Nat.add_comm] using taken
      · simpa [Nat.add_comm] using isFree

theorem Finds.exists_number {start : Nat} {name : String} (finds : table.Finds base start name) :
    ∃ number, name = numberedName base number ∧ name ∉ table.used := by
  induction finds with
  | free isFree => exact ⟨_, rfl, isFree⟩
  | taken isTaken next ih => exact ih

/-- Every id takes one name that was free, and is given this name with the mark that it needs. -/
theorem unique_eq (table : NameTable) (id : String) :
    ∃ name, IsBase name ∧ name ∉ table.used ∧
      table.unique id = (asIdentifier name, { used := name :: table.used }) := by
  have base := isBase_snakeCase id
  by_cases taken : snakeCase id ∈ table.used
  · rcases (table.finds_numbered (snakeCase id)).exists_number with ⟨number, numbered, free⟩
    refine ⟨numberedName (snakeCase id) number, isBase_numberedName base number, ?_, ?_⟩
    · rwa [← numbered]
    · simp only [unique, if_pos taken, numbered, asIdentifier_numberedName]
  · exact ⟨snakeCase id, base, taken, by simp only [unique, if_neg taken]⟩

/-- What ids are given in turn are different names that were free, with the marks that they need. -/
theorem uniqueAll_eq (table : NameTable) (ids : List String) :
    ∃ names : List String, names.length = ids.length ∧ names.Nodup ∧
      (∀ name ∈ names, IsBase name ∧ name ∉ table.used) ∧
        table.uniqueAll ids = names.map asIdentifier := by
  induction ids generalizing table with
  | nil => exact ⟨[], rfl, List.nodup_nil, List.forall_mem_nil _, rfl⟩
  | cons id rest ih =>
      rcases table.unique_eq id with ⟨name, base, free, given⟩
      rcases ih { used := name :: table.used } with ⟨names, count, distinct, others, same⟩
      refine ⟨name :: names, congrArg (· + 1) count, ?_, ?_, ?_⟩
      · refine List.nodup_cons.2 ⟨?_, distinct⟩
        intro again
        exact (others name again).2 List.mem_cons_self
      · refine List.forall_mem_cons.2 ⟨⟨base, free⟩, ?_⟩
        intro other member
        exact ⟨(others other member).1, fun used => (others other member).2 (.tail _ used)⟩
      · simp only [uniqueAll, given, same, List.map_cons]

end NameTable

/-- The names of the functions of a module whose statements have the given ids. -/
def functionNames (ids : List String) : List String :=
  NameTable.uniqueAll { used := reservedNames } ids

/-- Whatever the ids of a module are, the search for a free name ends each time, and the ids are given
different names that may be declared and that the module does not use itself. -/
theorem functionNames_usable (ids : List String) :
    (functionNames ids).length = ids.length ∧ (functionNames ids).Nodup ∧
      (∀ name ∈ functionNames ids, IsName name ∧ name ∉ reservedNames) ∧
        ∀ (table : NameTable) (base : String), table.Finds base 2 (table.numbered base) := by
  rcases NameTable.uniqueAll_eq { used := reservedNames } ids
    with ⟨bases, count, distinct, shapes, given⟩
  have marked : functionNames ids = bases.map asIdentifier := given
  rw [marked]
  refine ⟨by rw [List.length_map, count], ?_, ?_, NameTable.finds_numbered⟩
  · apply List.Nodup.map_on _ distinct
    intro first memberFirst second memberSecond same
    exact asIdentifier_inj (shapes first memberFirst).1 (shapes second memberSecond).1 same
  · intro name member
    rcases List.mem_map.1 member with ⟨base, memberBase, rfl⟩
    rcases shapes base memberBase with ⟨isBase, free⟩
    exact ⟨isName_asIdentifier isBase, asIdentifier_not_mem_reservedNames free⟩

example : functionNames ["find", "Find", "find_2", "type", "self"] =
    ["find", "find_2", "find_2_2", "r#type", "self_"] := by decide +kernel

/-! ### Names of modules -/

def moduleNames (config : Config) (mappers : List Mapper) : List String :=
  mappers.map fun mapper => (ofMapper config mapper).name

theorem snakeCase_eq_reserved_iff {id word : String} (reserved : word ∈ reservedWords) :
    snakeCase id = word ↔ words id = [word.toList] := by
  have shapes : ∀ word ∈ reservedWords, isNameText word.toList →
      word.toList ≠ [] ∧ word.toList.all isWordChar ∧
        word.toList.head?.all fun c => !c.isDigit := by decide +kernel
  by_cases text : isNameText word.toList
  · rcases shapes word reserved text with ⟨nonempty, chars, letter⟩
    exact snakeCase_eq_word_iff ⟨nonempty, List.all_eq_true.1 chars⟩ letter
  · have capital : ∀ word ∈ reservedWords, ¬isNameText word.toList → word = "Self" := by
      decide +kernel
    obtain rfl := capital word reserved text
    constructor
    · intro same
      rw [← same] at text
      exact absurd (isBase_snakeCase id).text text
    · intro same
      have member : "Self".toList ∈ words id := by simp [same]
      have isWord := isWord_of_mem_words member
      have first := isWord.chars 'S' (by decide)
      cases first

theorem isName_snakeCase_iff {id : String} :
    IsName (snakeCase id) ↔ ∀ word ∈ reservedWords, words id ≠ [word.toList] := by
  have base := isBase_snakeCase id
  constructor
  · rintro (⟨_, _, free⟩ | ⟨word, _, _, marked⟩) other reserved same
    · rw [← snakeCase_eq_reserved_iff reserved] at same
      exact free (same ▸ reserved)
    · have chars := isNameChar_of_mem base.text
      rw [marked] at chars
      have mark := chars '#' (by simp)
      cases mark
  · intro free
    refine .inl ⟨base.text, ?_, ?_⟩
    · intro same
      have ends := base.ends
      rw [same] at ends
      exact ends rfl
    · intro reserved
      exact free (snakeCase id) reserved ((snakeCase_eq_reserved_iff reserved).1 rfl)

/-- The modules of mappers have different names that may be declared if and only if no two namespaces
have the same words and no namespace is a single reserved word. -/
theorem moduleNames_usable_iff (config : Config) (mappers : List Mapper) :
    ((moduleNames config mappers).Nodup ∧ ∀ name ∈ moduleNames config mappers, IsName name) ↔
      (mappers.map fun mapper => words mapper.nameSpace).Nodup ∧
        ∀ mapper ∈ mappers, ∀ word ∈ reservedWords, words mapper.nameSpace ≠ [word.toList] := by
  have names : moduleNames config mappers = mappers.map fun mapper => snakeCase mapper.nameSpace :=
    rfl
  have apart : (moduleNames config mappers).Nodup ↔
      (mappers.map fun mapper => words mapper.nameSpace).Nodup := by
    simp only [names, List.Nodup, List.pairwise_map, ne_eq, snakeCase_eq_iff]
  have usable : (∀ name ∈ moduleNames config mappers, IsName name) ↔
      ∀ mapper ∈ mappers, ∀ word ∈ reservedWords, words mapper.nameSpace ≠ [word.toList] := by
    simp only [names, List.forall_mem_map, isName_snakeCase_iff]
  rw [apart, usable]

/-- Two namespaces that differ in punctuation share the name of their modules, and a namespace that is a
reserved word keeps it. -/
theorem moduleNames_unusable :
    let mappers : List Mapper :=
      [{ nameSpace := "user-orders" }, { nameSpace := "user_orders" }, { nameSpace := "type" }]
    (mappers.map (·.nameSpace)).Nodup ∧
      moduleNames {} mappers = ["user_orders", "user_orders", "type"] ∧
        ¬(moduleNames {} mappers).Nodup ∧ ¬∀ name ∈ moduleNames {} mappers, IsName name := by
  decide +kernel

end SqlMapper.Generated
