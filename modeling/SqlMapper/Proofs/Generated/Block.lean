import SqlMapper.Proofs.Generated.Mention

/-!
# Lines of well-formed functions

Lines of a function open and close blocks, and a variable may be used until the block in which it is
introduced is closed.  A walk through lines keeps the variables of the blocks that are open.  Lines that
can be walked through are balanced, and well scoped if no remark among them is broken so that it mentions
variables.
-/

namespace SqlMapper.Generated

namespace Line

/-- The depth behind lines, counted from a block around them, or nothing if they leave this block. -/
def depthWithin? (depth : Nat) : List Line → Option Nat
  | [] => some depth
  | line :: rest =>
    match line, depth with
    | .closing _, 0 | .reopening _, 0 => none
    | line, depth => depthWithin? (line.depthAfter depth) rest

/-- Whether one of some lines introduces a name in a block that is still open at the line behind them. -/
def Declares (front : List Line) (line : Line) (name : String) : Prop :=
  ∃ before declaration between, front = before ++ declaration :: between ∧
    name ∈ declaration.introduced ∧ (depthWithin? 0 (between ++ [line])).isSome

/-- The names that a line introduces anew. -/
def fresh (line : Line) : List String :=
  line.introduced.filter (· ∉ line.used)

/-- The line that introduces the body of a clause again, mended. -/
def rebinding (kind : Clause) (number : Nat) : Line :=
  let body : Variable := { role := .clause kind, number }
  .plain s!"let {body.source} = {trimSource kind}(&{body.source});"

/-- Whether the depth never falls below that before some lines, and the lines end at it. -/
def IsBalanced (lines : List Line) : Prop :=
  ∀ before, depthWithin? before lines = some before

/-- Whether the variables in lines are introduced once, and in time. -/
structure WellScoped (lines : List Line) : Prop where
  /-- Variables are used where their declaration is in scope. -/
  declared : ∀ front line back, lines = front ++ line :: back → ∀ name ∈ line.used,
    Declares front line name
  /-- Variables are numbered in the order in which they are introduced. -/
  numbered : ∃ targets : List Variable, lines.flatMap fresh = targets.map Variable.source ∧
    targets.map (·.number) = List.range targets.length
  /-- Only the body of a clause is introduced again. -/
  rebound : ∀ line ∈ lines, ∀ name ∈ line.introduced, name ∈ line.used →
    ∃ kind number, line = rebinding kind number

/-- There is nothing that the first line could use. -/
theorem WellScoped.used_first {line : Line} {rest : List Line} (scopes : WellScoped (line :: rest)) :
    line.used = [] := by
  refine List.eq_nil_iff_forall_not_mem.2 ?_
  intro name uses
  obtain ⟨before, declaration, between, front, -⟩ := scopes.declared [] line rest rfl name uses
  cases before <;> cases front

end Line

/-! ### Names of variables -/

theorem Variable.takeWhile_reverse_source (target : Variable) :
    target.source.toList.reverse.takeWhile Char.isDigit = (toString target.number).toList.reverse := by
  have whole : target.source = "__" ++ target.role.source ++ toString target.number := rfl
  have stops : ("__" ++ target.role.source).toList.reverse.takeWhile Char.isDigit = [] := by
    unfold Role.source
    split <;> decide
  rw [whole, String.toList_append, List.reverse_append, List.takeWhile_append_of_pos, stops,
    List.append_nil]
  intro c member
  exact Text.isDigit_of_mem_toString target.number c (List.mem_reverse.1 member)

theorem Variable.number_eq_of_source {first second : Variable} (same : first.source = second.source) :
    first.number = second.number := by
  apply Text.toList_toString_inj
  rw [← List.reverse_inj, ← takeWhile_reverse_source, same, takeWhile_reverse_source]

theorem mentions_rebinding (kind : Clause) (number : Nat) :
    (Line.rebinding kind number).Mentions [⟨.clause kind, number⟩] [⟨.clause kind, number⟩] := by
  have trim : Spells (trimSource kind) [] := by
    cases kind <;> exact spells_ofList (by decide)
  exact mentions_of_reads ((((reads_pattern (by decide)).introduces _ (by decide) (by decide)).followed
    trim (by decide)).followed (spells_variable _) (by decide))

/-- Whether a line mentions no variable if there is a line break in it. -/
def Line.IsSilentIfBroken (line : Line) : Prop :=
  '\n' ∈ line.text.toList → line.Mentions [] []

theorem Line.IsSilentIfBroken.mentions {line : Line} (silent : line.IsSilentIfBroken)
    (unbroken : '\n' ∉ line.text.toList → line.Mentions [] []) : line.Mentions [] [] :=
  (Decidable.em ('\n' ∈ line.text.toList)).elim silent unbroken

/-! ### Steps of a walk -/

/-- A walk passes one line.  It keeps the number of the next variable and the variables of the open
blocks, innermost first. -/
inductive Step : Nat → List (List Variable) → Line → Nat → List (List Variable) → Prop where
  | plain {next : Nat} {text : String} {new used block : List Variable} {outer : List (List Variable)}
      (mentions : (Line.plain text).Mentions new used) (known : used ⊆ (block :: outer).flatten)
      (numbers : new.map (·.number) = List.range' next new.length) :
      Step next (block :: outer) (.plain text) (next + new.length) ((new ++ block) :: outer)
  | rebinding {next number : Nat} {kind : Clause} {block : List Variable} {outer : List (List Variable)}
      (known : ⟨.clause kind, number⟩ ∈ (block :: outer).flatten) :
      Step next (block :: outer) (.rebinding kind number) next (block :: outer)
  | opening {next : Nat} {text : String} {new used block : List Variable} {outer : List (List Variable)}
      (mentions : (Line.opening text).Mentions new used) (known : used ⊆ (block :: outer).flatten)
      (numbers : new.map (·.number) = List.range' next new.length) :
      Step next (block :: outer) (.opening text) (next + new.length) (new :: block :: outer)
  | closing {next : Nat} {text : String} {left block : List Variable} {outer : List (List Variable)}
      (mentions : (Line.closing text).Mentions [] []) :
      Step next (left :: block :: outer) (.closing text) next (block :: outer)
  | reopening {next : Nat} {text : String} {new used left block : List Variable}
      {outer : List (List Variable)}
      (mentions : (Line.reopening text).Mentions new used) (known : used ⊆ (block :: outer).flatten)
      (numbers : new.map (·.number) = List.range' next new.length) :
      Step next (left :: block :: outer) (.reopening text) (next + new.length) (new :: block :: outer)
  /-- A comment, in which anything may stand behind a line break. -/
  | remark {next : Nat} {text : String} {block : List Variable} {outer : List (List Variable)}
      (mentions : '\n' ∉ text.toList → (Line.plain text).Mentions [] []) :
      Step next (block :: outer) (.plain text) next (block :: outer)

/-- Whether a name is in one of some blocks, which is still open behind lines. -/
def Knows (blocks : List (List Variable)) (lines : List Line) (name : String) : Prop :=
  ∃ (level : Nat) (block : List Variable), blocks[level]? = some block ∧
    name ∈ block.map Variable.source ∧ (Line.depthWithin? level lines).isSome

/-- Whether all variables of some blocks have numbers before the next one. -/
def Older (next : Nat) (blocks : List (List Variable)) : Prop :=
  ∀ target ∈ blocks.flatten, target.number < next

section Steps

variable {next later : Nat} {blocks after : List (List Variable)} {line : Line} {lines : List Line}
  {name : String} {new used : List Variable}

theorem singleton_subset {target : Variable} {known : List Variable} (member : target ∈ known) :
    [target] ⊆ known :=
  List.cons_subset.2 ⟨member, List.nil_subset _⟩

theorem exists_level (known : used ⊆ blocks.flatten) (uses : name ∈ used.map Variable.source) :
    ∃ (level : Nat) (block : List Variable),
      blocks[level]? = some block ∧ name ∈ block.map Variable.source := by
  obtain ⟨target, member, rfl⟩ := List.mem_map.1 uses
  obtain ⟨block, among, inside⟩ := List.mem_flatten.1 (known member)
  obtain ⟨level, found⟩ := List.mem_iff_getElem?.1 among
  exact ⟨level, block, found, List.mem_map_of_mem inside⟩

namespace Step

/-- The depth of a walk is the number of its blocks. -/
theorem depthWithin?_cons (step : Step next blocks line later after) (before : Nat) (lines : List Line) :
    Line.depthWithin? (before + blocks.length - 1) (line :: lines) =
      Line.depthWithin? (before + after.length - 1) lines := by
  cases step <;> rfl

theorem knows_used (step : Step next blocks line later after) (silent : line.IsSilentIfBroken)
    (uses : name ∈ line.used) : Knows blocks [line] name := by
  cases step with
  | plain mentions known | opening mentions known =>
      rw [mentions.used] at uses
      obtain ⟨level, block, found, member⟩ := exists_level known uses
      exact ⟨level, block, found, member, rfl⟩
  | rebinding known =>
      rw [(mentions_rebinding _ _).used] at uses
      obtain ⟨level, block, found, member⟩ := exists_level (singleton_subset known) uses
      exact ⟨level, block, found, member, rfl⟩
  | closing mentions =>
      rw [mentions.used] at uses
      cases uses
  | reopening mentions known =>
      rw [mentions.used] at uses
      obtain ⟨level, block, found, member⟩ := exists_level known uses
      exact ⟨level + 1, block, found, member, rfl⟩
  | remark mentions =>
      rw [(silent.mentions mentions).used] at uses
      cases uses

/-- What is known behind a line was known before it or is introduced by it. -/
theorem knows_cons (step : Step next blocks line later after) (knows : Knows after lines name) :
    Knows blocks (line :: lines) name ∨
      (name ∈ line.introduced ∧ (Line.depthWithin? 0 lines).isSome) := by
  obtain ⟨level, block, found, member, opened⟩ := knows
  cases step with
  | plain mentions =>
      cases level with
      | zero =>
          cases found
          rw [List.map_append, List.mem_append, ← mentions.introduced] at member
          exact member.symm.imp (fun isOld => ⟨0, _, rfl, isOld, opened⟩) fun isNew => ⟨isNew, opened⟩
      | succ level => exact .inl ⟨level + 1, block, found, member, opened⟩
  | rebinding => exact .inl ⟨level, block, found, member, opened⟩
  | opening mentions =>
      cases level with
      | zero =>
          cases found
          rw [← mentions.introduced] at member
          exact .inr ⟨member, opened⟩
      | succ level => exact .inl ⟨level, block, found, member, opened⟩
  | closing => exact .inl ⟨level + 1, block, found, member, opened⟩
  | reopening mentions =>
      cases level with
      | zero =>
          cases found
          rw [← mentions.introduced] at member
          exact .inr ⟨member, opened⟩
      | succ level => exact .inl ⟨level + 1, block, found, member, opened⟩
  | remark => exact .inl ⟨level, block, found, member, opened⟩

end Step

/-! ### Numbers of new variables -/

/-- What a line introduces anew are variables with the next numbers. -/
structure Numbers (next : Nat) (line : Line) (later : Nat) (new : List Variable) : Prop where
  fresh : line.fresh = new.map Variable.source
  later : later = next + new.length
  numbers : new.map (·.number) = List.range' next new.length
  rebound : ∀ name ∈ line.introduced, name ∈ line.used → ∃ kind number, line = .rebinding kind number

theorem numbers_of_mentions (mentions : line.Mentions new used) (known : used ⊆ blocks.flatten)
    (numbers : new.map (·.number) = List.range' next new.length) (older : Older next blocks) :
    Numbers next line (next + new.length) new := by
  have apart : ∀ name ∈ line.introduced, name ∉ line.used := by
    rw [mentions.introduced, mentions.used, List.forall_mem_map]
    intro target isNew again
    obtain ⟨other, isUsed, same⟩ := List.mem_map.1 again
    have before := older other (known isUsed)
    have number : target.number ∈ List.range' next new.length := numbers ▸ List.mem_map_of_mem isNew
    have behind := (List.mem_range'_1.1 number).1
    rw [Variable.number_eq_of_source same] at before
    omega
  refine ⟨?_, rfl, numbers, fun name isNew isUsed => absurd isUsed (apart name isNew)⟩
  rw [Line.fresh, List.filter_eq_self.2 (by simpa using apart), mentions.introduced]

theorem older_of_new (older : Older next blocks)
    (numbers : new.map (·.number) = List.range' next new.length)
    (origin : ∀ target ∈ after.flatten, target ∈ new ∨ target ∈ blocks.flatten) :
    Older (next + new.length) after := by
  intro target member
  rcases origin target member with isNew | isOld
  · have number : target.number ∈ List.range' next new.length := numbers ▸ List.mem_map_of_mem isNew
    exact (List.mem_range'_1.1 number).2
  · exact Nat.lt_add_right _ (older target isOld)

theorem Step.numbers (step : Step next blocks line later after) (silent : line.IsSilentIfBroken)
    (older : Older next blocks) : Older later after ∧ ∃ new, Numbers next line later new := by
  cases step with
  | plain mentions known numbers =>
      refine ⟨older_of_new older numbers ?_, _, numbers_of_mentions mentions known numbers older⟩
      simp
  | @rebinding number kind _ _ known =>
      have mentions := mentions_rebinding kind number
      refine ⟨older, [], ?_, rfl, rfl, fun _ _ _ => ⟨kind, number, rfl⟩⟩
      simp [Line.fresh, mentions.introduced, mentions.used]
  | opening mentions known numbers =>
      refine ⟨older_of_new older numbers ?_, _, numbers_of_mentions mentions known numbers older⟩
      simp
  | closing mentions =>
      refine ⟨?_, [], numbers_of_mentions mentions (List.nil_subset _) rfl older⟩
      intro target member
      exact older target (List.mem_append_right _ member)
  | reopening mentions known numbers =>
      have inner : Older next _ := fun target member => older target (List.mem_append_right _ member)
      refine ⟨older_of_new inner numbers ?_, _, numbers_of_mentions mentions known numbers inner⟩
      simp
  | remark mentions =>
      have nothing := numbers_of_mentions (silent.mentions mentions) (List.nil_subset _) rfl older
      exact ⟨older, [], nothing⟩

end Steps

/-! ### Walks -/

/-- A walk through lines. -/
inductive Walk : Nat → List (List Variable) → List Line → Nat → List (List Variable) → Prop where
  | nil {next : Nat} {blocks : List (List Variable)} : Walk next blocks [] next blocks
  | cons {next middle later : Nat} {blocks between after : List (List Variable)} {line : Line}
      {lines : List Line} (step : Step next blocks line middle between)
      (rest : Walk middle between lines later after) : Walk next blocks (line :: lines) later after

namespace Walk

variable {next middle later : Nat} {blocks between after : List (List Variable)}
  {lines others : List Line}

theorem append (first : Walk next blocks lines middle between)
    (second : Walk middle between others later after) :
    Walk next blocks (lines ++ others) later after := by
  induction first with
  | nil => exact second
  | cons step _ ih => exact .cons step (ih second)

theorem depthWithin? (walk : Walk next blocks lines later after) (before : Nat) :
    Line.depthWithin? (before + blocks.length - 1) lines = some (before + after.length - 1) := by
  induction walk with
  | nil => rfl
  | cons step _ ih => rw [step.depthWithin?_cons, ih]

/-- What a line of a walk uses was known before the walk, in a block that is still open, or is declared
on the way. -/
theorem declares (walk : Walk next blocks lines later after)
    (silent : ∀ line ∈ lines, line.IsSilentIfBroken) {front back : List Line} {line : Line}
    (whole : lines = front ++ line :: back) {name : String} (uses : name ∈ line.used) :
    Knows blocks (front ++ [line]) name ∨ Line.Declares front line name := by
  induction walk generalizing front with
  | nil => simp at whole
  | cons step rest ih =>
      obtain ⟨here, later⟩ := List.forall_mem_cons.1 silent
      cases front with
      | nil =>
          obtain ⟨rfl, rfl⟩ := List.cons.inj whole
          exact .inl (step.knows_used here uses)
      | cons first front =>
          obtain ⟨rfl, behind⟩ := List.cons.inj whole
          rcases ih later behind with knows | ⟨before, declaration, between, rfl, introduces, opened⟩
          · refine (step.knows_cons knows).imp_right ?_
            rintro ⟨introduces, opened⟩
            exact ⟨[], _, front, rfl, introduces, opened⟩
          · exact .inr ⟨_ :: before, declaration, between, rfl, introduces, opened⟩

theorem numbers (walk : Walk next blocks lines later after)
    (silent : ∀ line ∈ lines, line.IsSilentIfBroken) (older : Older next blocks) :
    (∃ targets : List Variable, lines.flatMap Line.fresh = targets.map Variable.source ∧
      targets.map (·.number) = List.range' next targets.length) ∧
      ∀ line ∈ lines, ∀ name ∈ line.introduced, name ∈ line.used →
        ∃ kind number, line = .rebinding kind number := by
  induction walk with
  | nil => exact ⟨⟨[], rfl, rfl⟩, List.forall_mem_nil _⟩
  | cons step rest ih =>
      obtain ⟨here, later⟩ := List.forall_mem_cons.1 silent
      obtain ⟨older, new, fresh, rfl, numbers, rebound⟩ := step.numbers here older
      obtain ⟨⟨targets, others, counted⟩, reboundLater⟩ := ih later older
      refine ⟨⟨new ++ targets, ?_, ?_⟩, List.forall_mem_cons.2 ⟨rebound, reboundLater⟩⟩
      · rw [List.flatMap_cons, fresh, others, List.map_append]
      · rw [List.map_append, numbers, counted, List.length_append, List.range'_append_1]

/-- Lines through which a walk leads back to where it began are balanced. -/
theorem isBalanced (walk : Walk 0 [[]] lines later [[]]) : Line.IsBalanced lines :=
  walk.depthWithin?

/-- A walk from a block without variables leads through lines that are well scoped. -/
theorem wellScoped (walk : Walk 0 [[]] lines later [[]])
    (silent : ∀ line ∈ lines, line.IsSilentIfBroken) : Line.WellScoped lines where
  declared front line back whole name uses := by
    refine (walk.declares silent whole uses).resolve_left ?_
    rintro ⟨level, block, found, member, -⟩
    cases level with
    | zero =>
        cases found
        cases member
    | succ level => cases found
  numbered := by
    simpa only [List.range_eq_range'] using (walk.numbers silent (List.forall_mem_nil _)).1
  rebound := (walk.numbers silent (List.forall_mem_nil _)).2

end Walk

end SqlMapper.Generated
