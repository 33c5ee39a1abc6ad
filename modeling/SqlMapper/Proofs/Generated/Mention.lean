import SqlMapper.Proofs.Generated.Reader

/-!
# Variables that generated lines mention

Each variable of an expression is in its source, names of a template get there in quotes only, and the
name of a function is no name of a variable.  So what a line introduces and uses are the variables of the
step that it is written for.
-/

namespace SqlMapper.Generated

/-! ### Variables of expressions -/

section Expressions

def Origin.variables : Origin Variable → List Variable
  | .parameter _ => []
  | .variable target => [target]

def ValueCode.variables : ValueCode Variable → List Variable
  | .constant _ => []
  | .read origin _ => origin.variables

def BindCode.variables : BindCode Variable → List Variable
  | .value code => code.variables
  | .concat parts => parts.flatMap (·.variables)
  | .null => []

def ConditionCode.variables : ConditionCode Variable → List Variable
  | .truthy value | .compare value _ _ => value.variables
  | .never => []

def TestCode.variables (test : TestCode Variable) : List Variable :=
  test.conditions.flatMap (·.variables)

def Buffer.variables : Buffer → List Variable
  | .output => []
  | .side body => [body]

theorem reads_access (access : Access) {target : String} (spells : Spells target []) :
    Reads (access.source target) false [] [] := by
  have method : Spells (if access.counts then "count_or_member" else "member") [] := by
    split <;> exact spells_ofList (by decide)
  exact ((method.enclosed (by decide) (by decide)).followed spells (by decide)).followed
    (reads_quoted access.name).spells (by decide)

theorem spells_literal : (literal : Literal) → Spells (literalSource literal) []
  | .null => spells_ofList (by decide)
  | .bool true | .bool false => ((spells_ofList (by decide)).enclosed (by decide) (by decide)).spells
  | .int value => ((spells_int value.toInt).enclosed (by decide) (by decide)).spells
  | .decimal value =>
      (((spells_int value.units).enclosed (by decide) (by decide)).followed
        (spells_nat value.scale) (by decide)).spells
  | .string text => ((reads_quoted text).spells.enclosed (by decide) (by decide)).spells

theorem reads_origin : (origin : Origin Variable) →
    Reads (origin.source Variable.source) false [] (origin.variables.map Variable.source)
  | .parameter member => reads_access member (spells_ofList (by decide))
  | .variable target => (spells_variable target).enclosed (by decide) (by decide)

theorem spells_value (value : ValueCode Variable) :
    Spells (value.source Variable.source) (value.variables.map Variable.source) := by
  cases value with
  | constant literal => exact spells_literal literal
  | read origin path =>
      have steps : Reads (String.join (path.map fun access =>
          ".and_then(|v| " ++ access.source "&v" ++ ")")) false [] [] := by
        apply reads_join
        rw [List.forall_mem_map]
        intro access _
        exact (reads_access access (spells_ofList (by decide))).spells.enclosed (by decide) (by decide)
      have whole : Spells ((ValueCode.read origin path).source Variable.source)
          (origin.variables.map Variable.source ++ []) :=
        (((reads_origin origin).append steps).spells.closed (by decide)).spells
      rwa [List.append_nil] at whole

theorem spells_bound (code : BindCode Variable) :
    Spells (code.source Variable.source) (code.variables.map Variable.source) := by
  cases code with
  | value code => exact spells_value code
  | concat parts =>
      have part (code : ValueCode Variable) : Spells s!"stringify(&{code.source Variable.source})"
          (code.variables.map Variable.source) :=
        ((spells_value code).enclosed (by decide) (by decide)).spells
      have texts : Spells (", ".intercalate (parts.map fun part =>
          s!"stringify(&{part.source Variable.source})")) _ :=
        Spells.intercalate part (by decide) parts
      rw [← List.map_flatMap] at texts
      exact (texts.enclosed (by decide) (by decide)).spells
  | null => exact spells_ofList (by decide)

theorem spells_condition (code : ConditionCode Variable) :
    Spells (code.source Variable.source) (code.variables.map Variable.source) := by
  cases code with
  | truthy value => exact ((spells_value value).enclosed (by decide) (by decide)).spells
  | compare value op literal =>
      have operator : Spells op.name [] := by
        cases op <;> exact spells_ofList (by decide)
      have whole : Spells ((ConditionCode.compare value op literal).source Variable.source)
          (value.variables.map Variable.source ++ [] ++ []) :=
        ((((spells_value value).enclosed (by decide) (by decide)).followed operator
          (by decide)).followed (spells_literal literal) (by decide)).spells
      rwa [List.append_nil, List.append_nil] at whole
  | never => exact spells_ofList (by decide)

theorem spells_test (test : TestCode Variable) :
    Spells (test.source Variable.source) (test.variables.map Variable.source) := by
  have joined {closing : List Char} (passed : Reader.separates closing) :=
    Spells.intercalate spells_condition passed test.conditions
  simp only [← List.map_flatMap] at joined
  unfold TestCode.source
  split
  · rename_i condition single
    have alone : Spells (", ".intercalate (test.conditions.map (·.source Variable.source))) _ :=
      joined (by decide)
    rwa [single, String.intercalate_singleton] at alone
  · refine (Spells.enclosed ?_ (by decide) (by decide)).spells
    cases test.junction with
    | all => exact joined (by decide)
    | any => exact joined (by decide)

theorem spells_buffer (buffer : Buffer) :
    Spells buffer.source (buffer.variables.map Variable.source) := by
  cases buffer with
  | output => exact spells_ofList (by decide)
  | side body => exact spells_variable body

end Expressions

/-! ### Names of functions -/

/-- Names of statements begin with one underscore at most. -/
theorem single_snakeCase (id : String) : ¬['_', '_'] <+: (snakeCase id).toList := by
  have areWords : ∀ word ∈ SnakeCase.words id, SnakeCase.IsWord word :=
    fun _ member => SnakeCase.isWord_of_mem_words member
  rw [SnakeCase.toList_snakeCase]
  by_cases some_word : SnakeCase.words id = []
  · rw [some_word]
    decide
  · obtain ⟨c, rest, written, isChar⟩ := SnakeCase.joined_eq_cons areWords some_word
    have other : '_' ≠ c := (SnakeCase.ne_underscore isChar).symm
    simp only [SnakeCase.named, written]
    split
    · simp [List.cons_prefix_cons, other]
    · simp [List.cons_prefix_cons, other]

theorem single_numberedName {base : String} (isBase : IsBase base)
    (single : ¬['_', '_'] <+: base.toList) (number : Nat) :
    ¬['_', '_'] <+: (numberedName base number).toList := by
  have ends := isBase.ends
  have text := isBase.text
  rw [toList_numberedName]
  generalize base.toList = characters at single ends text ⊢
  rcases characters with _ | ⟨c, _ | ⟨d, rest⟩⟩
  · cases text
  · have other : '_' ≠ c := by simpa [eq_comm] using ends
    simp [List.cons_prefix_cons, other]
  · simpa [List.cons_prefix_cons] using single

/-- The name of a function is none of a generated variable. -/
theorem spells_asIdentifier {name : String} (base : IsBase name) (single : ¬['_', '_'] <+: name.toList) :
    Spells (asIdentifier name) [] := by
  apply spells_of_endName
  unfold asIdentifier
  split
  · rename_i reserved
    have marked : ∀ word ∈ keywords, (Reader.readAll {} ("r#" ++ word).toList).endName = {} := by
      decide +kernel
    exact marked name reserved
  · rename_i not_keyword
    split
    · rename_i reserved
      have marked : ∀ word ∈ pathKeywords, word.toList.getLast? ≠ some '_' →
          (Reader.readAll {} (word ++ "_").toList).endName = {} := by decide +kernel
      exact marked name reserved base.ends
    · have letters : ∀ c ∈ name.toList, Reader.isNameChar c := by
        intro c member
        have allowed := isNameChar_of_mem base.text c member
        simp only [isNameChar, Bool.or_eq_true] at allowed
        rcases allowed with (lower | digit) | underscore
        · simp [Reader.isNameChar, Char.isAlphanum, Char.isAlpha, lower]
        · simp [Reader.isNameChar, Char.isAlphanum, digit]
        · simp [Reader.isNameChar, underscore]
      have other : ∀ word ∈ keywords, name.toList ≠ word.toList := by
        intro word reserved same
        exact not_keyword (String.toList_inj.1 same ▸ reserved)
      have words : name.toList ≠ ['l', 'e', 't'] ∧ name.toList ≠ ['f', 'o', 'r'] ∧
          name.toList ≠ ['i', 'n'] :=
        ⟨other "let" (by decide), other "for" (by decide), other "in" (by decide)⟩
      rw [Reader.readAll_name rfl letters]
      simp [Reader.endName, single, words]

theorem spells_unique (table : NameTable) (id : String) : Spells (table.unique id).1 [] := by
  have base := isBase_snakeCase id
  have single := single_snakeCase id
  by_cases taken : snakeCase id ∈ table.used
  · obtain ⟨number, numbered, -⟩ := (table.finds_numbered (snakeCase id)).exists_number
    have given : (table.unique id).1 = asIdentifier (numberedName (snakeCase id) number) := by
      simp only [NameTable.unique, if_pos taken, numbered, asIdentifier_numberedName]
    rw [given]
    exact spells_asIdentifier (isBase_numberedName base number) (single_numberedName base single number)
  · have given : (table.unique id).1 = asIdentifier (snakeCase id) := by
      simp only [NameTable.unique, if_neg taken]
    rw [given]
    exact spells_asIdentifier base single

theorem spells_of_mem_uniqueAll {table : NameTable} {ids : List String} {name : String}
    (member : name ∈ table.uniqueAll ids) : Spells name [] := by
  induction ids generalizing table with
  | nil => cases member
  | cons id rest ih =>
      rcases List.mem_cons.1 member with same | later
      · rw [same]
        exact spells_unique table id
      · exact ih later

/-! ### Variables of lines -/

/-- Which variables a line introduces and which it uses. -/
structure Line.Mentions (line : Line) (new used : List Variable) : Prop where
  introduced : line.introduced = new.map Variable.source
  used : line.used = used.map Variable.source

section Lines

variable {text : String} {new used : List Variable}

theorem mentions_of_reads {line : Line}
    (reads : Reads line.text false (new.map Variable.source) (used.map Variable.source)) :
    line.Mentions new used := by
  constructor
  · rw [Line.introduced, reads, Reader.endName_of_nil rfl]
  · rw [Line.used, reads, Reader.endName_of_nil rfl]

/-- A comment that no line break ends mentions nothing, whatever it repeats. -/
theorem mentions_comment {line : Line} {opening closing : List Char}
    (comment : line.text = String.ofList ('/' :: '/' :: opening) ++ text ++ String.ofList closing)
    (unbroken : '\n' ∉ line.text.toList) : line.Mentions [] [] := by
  have ended : (Reader.readAll {} line.text.toList).endName = { place := .comment } := by
    rw [comment, String.toList_append, String.toList_append, String.toList_ofList, List.append_assoc,
      List.cons_append, List.cons_append] at unbroken ⊢
    have behind := List.not_mem_of_not_mem_cons (List.not_mem_of_not_mem_cons unbroken)
    rw [Reader.readAll_cons, Reader.readAll_cons]
    exact congrArg Reader.endName (Reader.readAll_comment rfl behind)
  exact ⟨congrArg Reader.introduced ended, congrArg Reader.used ended⟩

example :
    (Line.plain "let __index4 = \"__bind0\"; // __bind1").introduced = ["__index4"] ∧
      (Line.plain "// a remark that goes on\nin __bind0").used = ["__bind0"] := by
  decide

theorem mentions_ofList {line : Line} {opening : List Char} (text : line.text = String.ofList opening)
    (passed : Reader.passes opening) : line.Mentions [] [] := by
  apply mentions_of_reads
  rw [text]
  exact reads_ofList passed

theorem mentions_pushLine (buffer : Buffer) (argument : Spells text (used.map Variable.source)) :
    (pushLine buffer text).Mentions [] (buffer.variables ++ used) := by
  apply mentions_of_reads
  rw [List.map_append]
  exact ((spells_buffer buffer).closed (by decide)).followed argument (by decide)

theorem mentions_let (target : Variable) (value : Spells text (used.map Variable.source)) :
    (Line.plain s!"let {target.source} = {text};").Mentions [target] used :=
  mentions_of_reads
    (((reads_pattern (by decide)).introduces target (by decide) (by decide)).followed value (by decide))

theorem mentions_defineIndex (target counter : Variable) :
    (Line.plain s!"let {target.source} = Value::from({counter.source});").Mentions [target] [counter] :=
  mentions_of_reads (((reads_pattern (by decide)).introduces target (by decide) (by decide)).followed
    (spells_variable counter) (by decide))

theorem mentions_openBody (body : Variable) :
    (Line.plain s!"let mut {body.source} = String::new();").Mentions [body] [] :=
  mentions_of_reads ((reads_pattern (by decide)).introduces body (by decide) (by decide))

theorem mentions_openLine (header : Spells text (used.map Variable.source)) :
    (openLine text).Mentions [] used :=
  mentions_of_reads (header.closed (by decide))

theorem mentions_ifNonempty (body : Variable) :
    (openLine s!"if !{body.source}.is_empty()").Mentions [] [body] :=
  mentions_openLine ((spells_variable body).enclosed (by decide) (by decide)).spells

theorem mentions_ifLater (counter : Variable) :
    (openLine s!"if {counter.source} > 0").Mentions [] [counter] :=
  mentions_openLine (((reads_ofList (by decide)).spelled (spells_variable counter)).append
    (spells_ofList (by decide)) (by decide))

theorem mentions_otherwise (header : Spells text (used.map Variable.source)) :
    (Line.reopening (s!"\x7d else if {text}" ++ openBrace)).Mentions [] used :=
  mentions_of_reads (header.enclosed (by decide) (by decide))

theorem mentions_ifList (items collection : Variable) :
    (openLine s!"if let Some({items.source}) = items(&{collection.source})").Mentions
      [items] [collection] :=
  mentions_of_reads ((((reads_pattern (by decide)).introduces items (by decide) (by decide)).followed
    (spells_variable collection) (by decide)).append (reads_ofList (by decide)))

theorem mentions_forEach (counter item items : Variable) :
    (openLine s!"for ({counter.source}, {item.source}) in {items.source}.iter().enumerate()").Mentions
      [counter, item] [items] :=
  have pattern := ((reads_pattern (by decide)).introduces counter (by decide) (by decide)).introduces item
    (by decide) (by decide)
  mentions_of_reads ((pattern.followed (spells_variable items) (by decide)).append
    (reads_ofList (by decide)))

end Lines

end SqlMapper.Generated
