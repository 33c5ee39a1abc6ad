import SqlMapper.Proofs.Generated.Block
import SqlMapper.Proofs.Generated.Line

/-!
# Scopes of generated functions

The names in scope while steps are generated stand for variables of blocks that are open where the steps
are written.  So a walk leads through the lines of every generated function.  Only a remark that a name
of the template breaks may mention a variable that is none of the function.
-/

namespace SqlMapper.Generated

/-! ### Steps of functions -/

/-- Whether a walk leads through the lines of steps in every block in which some variables are known.  It
introduces new variables in this block and leads back to it. -/
def Emits (statement : String) (next : Nat) (known : List Variable) (codes : List Code) (later : Nat)
    (new : List Variable) : Prop :=
  ∀ block outer, known ⊆ (block :: outer).flatten →
    Walk next (block :: outer) (Code.linesOfAll statement codes) later ((new ++ block) :: outer)

section Emits

variable {statement text : String} {next middle later : Nat} {known wider new more used : List Variable}
  {codes others inner : List Code} {code : Code}

theorem subset_append {scope : List Variable} (new : List Variable) (within : known ⊆ scope) :
    new ++ known ⊆ new ++ scope :=
  List.append_subset.2 ⟨List.subset_append_left _ _, List.subset_append_of_subset_right _ within⟩

theorem silent_statementLine (statement : String) (unbroken : '\n' ∉ (statementLine statement).text.toList) :
    (statementLine statement).Mentions [] [] :=
  mentions_comment rfl unbroken

theorem silent_referenceLine (fragment : String) (unbroken : '\n' ∉ (referenceLine fragment).text.toList) :
    (referenceLine fragment).Mentions [] [] :=
  mentions_comment rfl unbroken

theorem closes_closeLine : closeLine.Mentions [] [] :=
  mentions_ofList rfl (by decide)

theorem Code.linesOfAll_append (statement : String) (codes others : List Code) :
    Code.linesOfAll statement (codes ++ others) =
      Code.linesOfAll statement codes ++ Code.linesOfAll statement others := by
  induction codes with
  | nil => rfl
  | cons code rest ih => simp [Code.linesOfAll, ih]

theorem Code.linesOfAll_singleton (statement : String) (code : Code) :
    Code.linesOfAll statement [code] = code.lines statement := by
  simp [Code.linesOfAll]

namespace Emits

theorem nil : Emits statement next known [] next [] :=
  fun _ _ _ => .nil

theorem mono (emits : Emits statement next known codes later new) (within : known ⊆ wider) :
    Emits statement next wider codes later new :=
  fun block outer knows => emits block outer (List.Subset.trans within knows)

theorem append (first : Emits statement next known codes middle new)
    (second : Emits statement middle (new ++ known) others later more) :
    Emits statement next known (codes ++ others) later (more ++ new) := by
  intro block outer knows
  have inside : new ++ known ⊆ ((new ++ block) :: outer).flatten := by
    rw [List.flatten_cons, List.append_assoc, ← List.flatten_cons]
    exact subset_append new knows
  rw [Code.linesOfAll_append, List.append_assoc]
  exact (first block outer knows).append (second _ _ inside)

theorem plain (lines : code.lines statement = [.plain text])
    (mentions : (Line.plain text).Mentions new used)
    (within : used ⊆ known) (numbers : new.map (·.number) = List.range' next new.length) :
    Emits statement next known [code] (next + new.length) new := by
  intro block outer knows
  rw [Code.linesOfAll_singleton, lines]
  exact .cons (.plain mentions (List.Subset.trans within knows) numbers) .nil

theorem remark (fragment : String) : Emits statement next known [.remark fragment] next [] := by
  intro block outer _
  rw [Code.linesOfAll_singleton]
  exact .cons (.remark (silent_referenceLine fragment)) .nil

theorem trimBody {kind : Clause} {number : Nat} (within : ⟨.clause kind, number⟩ ∈ known) :
    Emits statement next known [.trimBody kind ⟨.clause kind, number⟩] next [] := by
  intro block outer knows
  rw [Code.linesOfAll_singleton]
  exact .cons (.rebinding (knows within)) .nil

/-- What is written in a block. -/
theorem block
    (lines : code.lines statement = .opening text :: Code.linesOfAll statement inner ++ [closeLine])
    (mentions : (Line.opening text).Mentions new used) (within : used ⊆ known)
    (numbers : new.map (·.number) = List.range' next new.length)
    (emits : Emits statement (next + new.length) (new ++ known) inner later more) :
    Emits statement next known [code] later [] := by
  intro block outer knows
  have inside : new ++ known ⊆ (new :: block :: outer).flatten := by
    rw [List.flatten_cons]
    exact subset_append new knows
  rw [Code.linesOfAll_singleton, lines]
  refine .cons (.opening mentions (List.Subset.trans within knows) numbers) ?_
  exact (emits new (block :: outer) inside).append (.cons (.closing closes_closeLine) .nil)

/-- A line that writes something to a buffer. -/
theorem push {buffer : Buffer} (lines : code.lines statement = [pushLine buffer text])
    (argument : Spells text (used.map Variable.source)) (within : buffer.variables ++ used ⊆ known) :
    Emits statement next known [code] next [] :=
  plain lines (mentions_pushLine buffer argument) within rfl

theorem pushText {buffer : Buffer} (text : String) (within : buffer.variables ⊆ known) :
    Emits statement next known [.push buffer text] next [] := by
  have argument : Spells (Text.quoted text) (([] : List Variable).map Variable.source) :=
    (reads_quoted text).spells
  exact push rfl argument (by simpa using within)

end Emits

/-- Whether a walk that is in a branch leads through the branches behind it and ends in the last one. -/
def EmitsOthers (statement : String) (next : Nat) (known : List Variable)
    (branches : List (TestCode Variable × List Code)) (later : Nat) : Prop :=
  ∀ left block outer, known ⊆ (block :: outer).flatten →
    ∃ last, Walk next (left :: block :: outer) (Code.linesOfOthers statement branches) later
      (last :: block :: outer)

variable {test : TestCode Variable} {branches : List (TestCode Variable × List Code)}

theorem EmitsOthers.nil : EmitsOthers statement next known [] next :=
  fun left _ _ _ => ⟨left, .nil⟩

theorem EmitsOthers.cons (within : test.variables ⊆ known)
    (emits : Emits statement next known inner middle new)
    (others : EmitsOthers statement middle known branches later) :
    EmitsOthers statement next known ((test, inner) :: branches) later := by
  intro left block outer knows
  have header := mentions_otherwise (spells_test test)
  have inside : known ⊆ ([] :: block :: outer).flatten := knows
  obtain ⟨last, rest⟩ := others (new ++ []) block outer knows
  refine ⟨last, .cons (.reopening header (List.Subset.trans within knows) rfl) ?_⟩
  exact (emits [] (block :: outer) inside).append rest

/-- The first branch opens a block, in which the branches behind it follow. -/
theorem Emits.intoBranches {block : List Variable} {outer : List (List Variable)}
    (within : test.variables ⊆ known) (emits : Emits statement next known inner middle new)
    (others : EmitsOthers statement middle known branches later)
    (knows : known ⊆ (block :: outer).flatten) :
    ∃ last, Walk next (block :: outer)
      (openLine s!"if {test.source Variable.source}" :: Code.linesOfAll statement inner
        ++ Code.linesOfOthers statement branches) later (last :: block :: outer) := by
  have header : (openLine s!"if {test.source Variable.source}").Mentions [] test.variables :=
    mentions_openLine ((reads_ofList (by decide)).spelled (spells_test test))
  have inside : known ⊆ ([] :: block :: outer).flatten := knows
  obtain ⟨last, rest⟩ := others (new ++ []) block outer knows
  refine ⟨last, .cons (.opening header (List.Subset.trans within knows) rfl) ?_⟩
  exact (emits [] (block :: outer) inside).append rest

theorem Emits.branch (within : test.variables ⊆ known)
    (emits : Emits statement next known inner middle new)
    (others : EmitsOthers statement middle known branches later) :
    Emits statement next known [.branch ((test, inner) :: branches) none] later [] := by
  intro block outer knows
  obtain ⟨last, walk⟩ := Emits.intoBranches within emits others knows
  rw [Code.linesOfAll_singleton, Code.lines]
  exact walk.append (.cons (.closing closes_closeLine) .nil)

theorem Emits.branchElse {last : Nat} {fallback : List Code} (within : test.variables ⊆ known)
    (emits : Emits statement next known inner middle new)
    (others : EmitsOthers statement middle known branches later)
    (otherwise : Emits statement later known fallback last more) :
    Emits statement next known [.branch ((test, inner) :: branches) (some fallback)] last [] := by
  intro block outer knows
  obtain ⟨left, walk⟩ := Emits.intoBranches within emits others knows
  have header : (Line.reopening ("\x7d else" ++ openBrace)).Mentions [] [] :=
    mentions_of_reads ((spells_ofList (by decide)).closed (by decide))
  have inside : known ⊆ ([] :: block :: outer).flatten := knows
  rw [Code.linesOfAll_singleton, Code.lines]
  refine (walk.append (.cons (.reopening header (List.nil_subset _) rfl)
    (otherwise [] (block :: outer) inside))).append ?_
  exact .cons (.closing closes_closeLine) .nil

end Emits

/-! ### Variables in scope -/

/-- The variables that steps may use: those of the names in scope and the one that is written to. -/
def Generation.known (buffer : Buffer) (state : Generation) : List Variable :=
  buffer.variables ++ state.locals.entries.map (·.2)

section Known

variable {buffer : Buffer} {state : Generation}

theorem mem_known_of_lookup {name : String} {target : Variable}
    (found : state.locals.lookup? name = some target) : target ∈ state.known buffer := by
  obtain ⟨entry, among, rfl⟩ := Option.map_eq_some_iff.1 found
  refine List.mem_append_right _ (List.mem_map_of_mem ?_)
  cases exactly : state.locals.entries.find? (·.1 == name) with
  | some first =>
      rw [exactly] at among
      cases among
      exact List.mem_of_find?_eq_some exactly
  | none =>
      rw [exactly] at among
      exact List.mem_of_find?_eq_some among

theorem variables_ofPath (path : Path) : (ofPath state.locals path).variables ⊆ state.known buffer := by
  unfold ofPath
  split
  · rename_i target found
    exact singleton_subset (mem_known_of_lookup found)
  · exact List.nil_subset _

theorem variables_ofTest (test : Test) : (ofTest state.locals test).variables ⊆ state.known buffer := by
  intro target member
  simp only [TestCode.variables, ofTest, List.mem_flatMap, List.mem_map] at member
  obtain ⟨_, ⟨atom, -, rfl⟩, inside⟩ := member
  cases atom with
  | truthy path => exact variables_ofPath path inside
  | compare path => exact variables_ofPath path inside
  | invalid => cases inside

theorem variables_ofPart (part : BindPart) :
    (ofPart state.locals part).variables ⊆ state.known buffer := by
  cases part with
  | literal => exact List.nil_subset _
  | path path => exact variables_ofPath path

theorem variables_ofBind (bind : Bind) : (ofBind state.locals bind).variables ⊆ state.known buffer := by
  cases bind with
  | single part => exact variables_ofPart part
  | concat parts =>
      intro target member
      simp only [ofBind, BindCode.variables, List.mem_flatMap, List.mem_map] at member
      obtain ⟨_, ⟨part, -, rfl⟩, inside⟩ := member
      exact variables_ofPart part inside
  | invalid => exact List.nil_subset _

end Known

/-! ### From templates to walks -/

/-- Whether steps that were generated between two states of the generator can be walked through, with the
names in scope behind them standing for known variables. -/
def Generates (statement : String) (buffer : Buffer) (before : Generation) (codes : List Code)
    (after : Generation) : Prop :=
  ∃ new, Emits statement before.next (before.known buffer) codes after.next new ∧
    after.known buffer ⊆ new ++ before.known buffer

section Cases

variable {statement : String} {trusts : String → Bool} {buffer : Buffer}
  {before middle after state : Generation} {codes others : List Code} {new : List Variable}

theorem Generates.nil : Generates statement buffer state [] state :=
  ⟨[], .nil, List.Subset.refl _⟩

theorem Generates.append (first : Generates statement buffer before codes middle)
    (second : Generates statement buffer middle others after) :
    Generates statement buffer before (codes ++ others) after := by
  obtain ⟨new, emits, within⟩ := first
  obtain ⟨more, emitsMore, withinMore⟩ := second
  refine ⟨more ++ new, emits.append (emitsMore.mono within), ?_⟩
  rw [List.append_assoc]
  exact List.Subset.trans withinMore (subset_append more within)

/-- Steps behind which the names in scope are those before them. -/
theorem Generates.of_locals
    (emits : Emits statement before.next (before.known buffer) codes after.next new)
    (same : after.locals = before.locals) : Generates statement buffer before codes after := by
  refine ⟨new, emits, ?_⟩
  rw [Generation.known, same]
  exact List.subset_append_right _ _

theorem generates_spliceCode (name : String) :
    Generates statement buffer state [spliceCode trusts buffer state.locals name] state := by
  have within : buffer.variables ++ (ofPath state.locals (.ofPlaceholder name)).variables ⊆
      state.known buffer :=
    List.append_subset.2 ⟨List.subset_append_left _ _, variables_ofPath _⟩
  have value := spells_value (ofPath state.locals (.ofPlaceholder name))
  unfold spliceCode
  dsimp only
  split
  · exact .of_locals (.push rfl (value.enclosed (by decide) (by decide)).spells within) rfl
  · refine .of_locals (.push rfl ?_ within) rfl
    have names (first second : String) :
        Spells s!"{Text.quoted first}, {Text.quoted second}" [] :=
      ((reads_quoted first).spells.closed (by decide)).spelled (reads_quoted second).spells
    exact (((names _ _).enclosed (by decide) (by decide)).followed value (by decide)).spells

theorem generates_text (content : String) :
    Generates statement buffer state (if content.isEmpty then [] else [.push buffer content]) state := by
  split
  · exact .nil
  · exact .of_locals (.pushText content (List.subset_append_left _ _)) rfl

theorem emits_edgeCode {next : Nat} {known : List Variable} (text : Option String)
    (within : buffer.variables ⊆ known) : Emits statement next known (edgeCode buffer text) next [] := by
  cases text with
  | none => exact .nil
  | some text => exact .pushText text within

theorem emits_separatorCode {next : Nat} {known : List Variable} (header : Loop) {counter : Variable}
    (within : buffer.variables ⊆ known) (counts : counter ∈ known) :
    Emits statement next known (separatorCode buffer header counter) next [] := by
  unfold separatorCode
  split
  · exact .nil
  · split
    · exact .nil
    · rename_i text _ _
      exact .block rfl (mentions_ifLater counter) (singleton_subset counts) rfl
        (.pushText text within)

theorem known_bind (state : Generation) (name : String) (target : Variable) :
    (state.bind name target).known buffer ⊆ [target] ++ state.known buffer := by
  intro other member
  simpa [Generation.known, Generation.bind, Scope.push, or_left_comm] using member

theorem emits_declareIndex {known : List Variable} (header : Loop) {counter : Variable}
    (within : state.known buffer ⊆ known) (counts : counter ∈ known) :
    ∃ new, Emits statement state.next known (state.declareIndex header counter).1
        (state.declareIndex header counter).2.next new ∧
      (state.declareIndex header counter).2.known buffer ⊆ new ++ known := by
  unfold Generation.declareIndex
  split
  · exact ⟨[], .nil, within⟩
  · rename_i name _
    refine ⟨_, .plain rfl (mentions_defineIndex _ counter)
      (singleton_subset counts) rfl, ?_⟩
    exact List.Subset.trans (known_bind (state.fresh .index).2 name _) (subset_append _ within)

/-- What is written for a loop, whose variables are the next four and those of its body. -/
theorem emits_loop {next middle later : Nat} {known more : List Variable} {index inner : List Code}
    {value : ValueCode Variable} (header : Loop) (within : buffer.variables ⊆ known)
    (reads : value.variables ⊆ known) :
    let collection : Variable := ⟨.collection, next⟩
    let items : Variable := ⟨.items, next + 1⟩
    let counter : Variable := ⟨.counter, next + 2⟩
    let item : Variable := ⟨.item, next + 3⟩
    let scope : List Variable := [counter, item] ++ ([items] ++ ([collection] ++ known))
    Emits statement (next + 4) scope index middle new →
    Emits statement middle (new ++ scope) inner later more →
    Emits statement next known
      [.define collection (.value value), .ifList items collection (edgeCode buffer header.opening
        ++ [.forEach counter item items (separatorCode buffer header counter ++ index ++ inner)]
        ++ edgeCode buffer header.closing)] later [collection] := by
  intro collection items counter item scope indexed emits
  have inList : buffer.variables ⊆ [items] ++ ([collection] ++ known) :=
    List.subset_append_of_subset_right _ (List.subset_append_of_subset_right _ within)
  have inScope : buffer.variables ⊆ scope := List.subset_append_of_subset_right _ inList
  have separated : Emits statement (next + 4) scope (separatorCode buffer header counter) (next + 4) [] :=
    emits_separatorCode header inScope List.mem_cons_self
  have body := (separated.append indexed).append (emits.mono (by simp))
  have passes : Emits statement (next + 2) ([items] ++ ([collection] ++ known))
      [.forEach counter item items (separatorCode buffer header counter ++ index ++ inner)] later [] :=
    .block rfl (mentions_forEach counter item items)
      (singleton_subset List.mem_cons_self) rfl body
  have run := ((emits_edgeCode header.opening inList).append passes).append
    (emits_edgeCode header.closing inList)
  have listed : Emits statement (next + 1) ([collection] ++ known) [.ifList items collection _]
      later [] :=
    .block rfl (mentions_ifList items collection)
      (singleton_subset List.mem_cons_self) rfl run
  have defined : Emits statement next known [.define collection (.value value)] (next + 1) [collection] :=
    .plain rfl (mentions_let collection (spells_bound (.value value))) reads rfl
  exact defined.append listed

/-- What is written for a clause, whose body is the next variable. -/
theorem emits_clauseCode {next later : Nat} {known : List Variable} {kind : Clause} {inner : List Code}
    (within : buffer.variables ⊆ known)
    (emits : Emits statement (next + 1) (⟨.clause kind, next⟩ :: known) inner later new) :
    Emits statement next known [clauseCode buffer kind ⟨.clause kind, next⟩ inner] later [] := by
  let body : Variable := ⟨.clause kind, next⟩
  let scope : List Variable := (new ++ [body]) ++ known
  have inScope : body ∈ scope := by simp [scope]
  have outside : buffer.variables ⊆ scope := List.subset_append_of_subset_right _ within
  have written : Emits statement later scope
      [.push buffer kind.keyword, .pushBody buffer body] later [] := by
    have argument : Spells body.source ([body].map Variable.source) := spells_variable body
    refine (Emits.pushText kind.keyword outside).append (.push rfl argument ?_)
    exact List.append_subset.2 ⟨outside, singleton_subset inScope⟩
  have ending : Emits statement later scope
      [.trimBody kind body, .ifNonempty body [.push buffer kind.keyword, .pushBody buffer body]]
      later [] :=
    (Emits.trimBody inScope).append (.block rfl (mentions_ifNonempty body)
      (singleton_subset inScope) rfl written)
  have opened : Emits statement next known [.openBody body] (next + 1) [body] :=
    .plain rfl (mentions_openBody body) (List.nil_subset _) rfl
  have whole := (opened.append emits).append ending
  exact .block rfl (mentions_ofList rfl (by decide)) (List.nil_subset _) rfl whole

mutual

/-- A walk leads through the lines of what is generated for a tree. -/
theorem generates_generate (buffer : Buffer) (state : Generation) : (node : Node) →
    Generates statement buffer state (generate trusts buffer state node).1
      (generate trusts buffer state node).2
  | .text content => generates_text content
  | .parameter name false => by
      have value := spells_value (ofPath state.locals (.ofPlaceholder name))
      refine .of_locals (.push rfl (value.enclosed (by decide) (by decide)).spells ?_) rfl
      exact List.append_subset.2 ⟨List.subset_append_left _ _, variables_ofPath _⟩
  | .parameter name true => generates_spliceCode name
  | .condition test children => by
      obtain ⟨new, emits, -⟩ := generates_generateAll buffer state children
      exact .of_locals (.branch (variables_ofTest _) emits .nil) rfl
  | .choice [] none => ⟨[], fun _ _ _ => .nil, List.Subset.refl _⟩
  | .choice [] (some children) => by
      obtain ⟨new, emits, -⟩ := generates_generateAll buffer state children
      exact .of_locals (.block rfl (mentions_ofList rfl (by decide)) (List.nil_subset _) rfl emits) rfl
  | .choice ((test, children) :: rest) none => by
      obtain ⟨new, emits, -⟩ := generates_generateAll buffer state children
      obtain ⟨others, same⟩ := emitsOthers_generateBranches buffer
        (state.leave (generateAll trusts buffer state children).2) rest
      exact .of_locals (.branch (variables_ofTest _) emits others) same
  | .choice ((test, children) :: rest) (some fallback) => by
      obtain ⟨new, emits, -⟩ := generates_generateAll buffer state children
      obtain ⟨others, same⟩ := emitsOthers_generateBranches buffer
        (state.leave (generateAll trusts buffer state children).2) rest
      obtain ⟨more, otherwise, -⟩ := generates_generateAll buffer _ fallback
      rw [Generation.known, same] at otherwise
      exact .of_locals (.branchElse (variables_ofTest _) emits others otherwise) same
  | .clause kind children => by
      obtain ⟨new, emits, -⟩ := generates_generateAll (.side ⟨.clause kind, state.next⟩)
        (state.fresh (.clause kind)).2 children
      have within : (state.fresh (.clause kind)).2.known (.side ⟨.clause kind, state.next⟩) ⊆
          ⟨.clause kind, state.next⟩ :: state.known buffer :=
        List.cons_subset_cons _ (List.subset_append_right _ _)
      exact .of_locals (emits_clauseCode (List.subset_append_left _ _) (emits.mono within)) rfl
  | .loop header children => by
      let entered : Generation :=
        { state with next := state.next + 4 }.bind header.item ⟨.item, state.next + 3⟩
      let scope : List Variable := [⟨.counter, state.next + 2⟩, ⟨.item, state.next + 3⟩] ++
        ([⟨.items, state.next + 1⟩] ++ ([⟨.collection, state.next⟩] ++ state.known buffer))
      have within : entered.known buffer ⊆ scope := by
        refine List.Subset.trans (known_bind _ _ _) (List.append_subset.2 ⟨?_, ?_⟩)
        · exact singleton_subset (by simp [scope])
        · intro target member
          simp only [scope, List.mem_append]
          exact .inr (.inr (.inr member))
      obtain ⟨new, indexed, knows⟩ := emits_declareIndex header within List.mem_cons_self
      obtain ⟨more, emits, -⟩ := generates_generateAll buffer
        (entered.declareIndex header ⟨.counter, state.next + 2⟩).2 children
      refine ⟨_, emits_loop header (List.subset_append_left _ _) (variables_ofPath _) indexed
        (emits.mono knows), ?_⟩
      exact List.subset_append_right _ _
  | .bind name value => by
      refine ⟨_, .plain rfl (mentions_let _ (spells_bound _)) (variables_ofBind _) rfl, ?_⟩
      exact known_bind (state.fresh .bind).2 name _
  | .reference fragment => .of_locals (.remark fragment) rfl
  | .mixed children => generates_generateAll buffer state children

theorem generates_generateAll (buffer : Buffer) (state : Generation) : (nodes : List Node) →
    Generates statement buffer state (generateAll trusts buffer state nodes).1
      (generateAll trusts buffer state nodes).2
  | [] => .nil
  | node :: rest => by
      have first := generates_generate buffer state node
      have later := generates_generateAll buffer (generate trusts buffer state node).2 rest
      exact first.append later

theorem emitsOthers_generateBranches (buffer : Buffer) (state : Generation) :
    (branches : List (String × List Node)) →
    EmitsOthers statement state.next (state.known buffer)
      (generateBranches trusts buffer state branches).1
      (generateBranches trusts buffer state branches).2.next ∧
        (generateBranches trusts buffer state branches).2.locals = state.locals
  | [] => ⟨.nil, rfl⟩
  | (test, children) :: rest => by
      obtain ⟨new, emits, -⟩ := generates_generateAll buffer state children
      obtain ⟨others, same⟩ := emitsOthers_generateBranches buffer
        (state.leave (generateAll trusts buffer state children).2) rest
      exact ⟨.cons (variables_ofTest _) emits others, same⟩

end

end Cases

/-! ### Functions -/

theorem Function.walk_lines {function : Function} {later : Nat} {new : List Variable}
    (named : Spells function.name []) (emits : Emits function.statement 0 [] function.body later new) :
    Walk 0 [[]] function.lines later [[]] := by
  let parameters := "param: &dyn ParameterAccessor, cx: &RenderContext"
  let result := "Result<RenderedSql, GuardViolation>"
  have header : (openLine s!"pub fn {function.name}({parameters}) -> {result}").Mentions [] [] :=
    mentions_openLine (((named.enclosed (by decide) (by decide)).followed
      (spells_ofList (by decide)) (by decide)).append (reads_ofList (by decide))).spells
  have sql : (Line.plain "let mut sql = String::new();").Mentions [] [] := mentions_ofList rfl (by decide)
  have params : (Line.plain "let mut params = Vec::new();").Mentions [] [] :=
    mentions_ofList rfl (by decide)
  have finish : (Line.plain "Ok(RenderedSql::finish(&sql, params))").Mentions [] [] :=
    mentions_ofList rfl (by decide)
  have begins : Walk 0 [[]] [_, _, _, _] 0 [[], []] :=
    .cons (.remark (silent_statementLine function.statement)) <|
      .cons (.opening header (List.nil_subset _) rfl) <|
        .cons (.plain sql (List.nil_subset _) rfl) <| .cons (.plain params (List.nil_subset _) rfl) .nil
  have ends : Walk later [new ++ [], []] [_, closeLine] later [[]] :=
    .cons (.plain finish (List.nil_subset _) rfl) <| .cons (.closing closes_closeLine) .nil
  exact (begins.append (emits [] [[]] (List.nil_subset _))).append ends

/-- Whatever the statements and the configuration are, the lines of a function open and close blocks in
pairs.  A variable is introduced once, and in time for each use of it, unless a name of the template
breaks a remark and mentions variables behind the break. -/
theorem functions_balanced_and_scoped (config : Config) (mapper : Mapper) :
    ∀ function ∈ (ofMapper config mapper).functions, Line.IsBalanced function.lines ∧
      ((∀ line ∈ function.remarks, line.IsSilentIfBroken) → Line.WellScoped function.lines) := by
  intro function member
  simp only [ofMapper, ← List.map_uncurry_zip_eq_zipWith] at member
  obtain ⟨⟨name, statement⟩, paired, rfl⟩ := List.mem_map.1 member
  have given := (List.of_mem_zip paired).1
  obtain ⟨new, emits, -⟩ := generates_generate .output {} statement.root
  have walk : Walk 0 [[]] (ofStatement config mapper name statement).lines _ [[]] :=
    Function.walk_lines (spells_of_mem_uniqueAll given) emits
  refine ⟨walk.isBalanced, fun silent => walk.wellScoped ?_⟩
  intro line inside
  have unbroken := (ofStatement config mapper name statement).unbroken_lines
    (lacks_of_mem_uniqueAll given)
  rcases unbroken.mem_or_lacks line inside with remark | free
  · exact silent line remark
  · exact fun broken => absurd List.mem_cons_self (free '\n' broken)

/-- A statement with a name for the whole of it, and with names in a loop in a clause. -/
def searchStatement : Statement where
  id := "search"
  root := .mixed [
    .bind "pattern" "'%' + name + '%'", .text "SELECT * FROM users",
    .clause .whereClause [
      .condition "name != null" [.text "AND name LIKE ", .parameter "pattern" false],
      .loop { collection := "ids", item := "id", index := some "at", separator := some " OR " }
        [.text "id = ", .parameter "id" false]]]

def searchMapper : Mapper where
  nameSpace := "users"
  statements := [searchStatement]

theorem functions_balanced_and_scoped_search :
    ofStatement {} searchMapper "search" searchStatement ∈ (ofMapper {} searchMapper).functions ∧
      Line.IsBalanced (ofStatement {} searchMapper "search" searchStatement).lines ∧
        Line.WellScoped (ofStatement {} searchMapper "search" searchStatement).lines := by
  let function := ofStatement {} searchMapper "search" searchStatement
  have member : function ∈ (ofMapper {} searchMapper).functions := List.mem_cons_self
  obtain ⟨balanced, scopes⟩ := functions_balanced_and_scoped {} searchMapper function member
  have silent : ∀ line ∈ function.remarks, line.IsSilentIfBroken := by
    have unbroken : '\n' ∉ (statementLine "users.search").text.toList := by decide
    exact List.forall_mem_cons.2 ⟨fun broken => absurd broken unbroken, List.forall_mem_nil _⟩
  exact ⟨member, balanced, scopes silent⟩

/-- A statement whose name breaks the remark on it and mentions a variable. -/
def leakingSource : String :=
  "<mapper namespace=\"users\"><select id=\"all&#10;const LEAK: u8 = __bind0; //\">SELECT 1</select></mapper>"

/-- A source without findings, for which a function is generated whose first line mentions a variable. -/
theorem functions_not_scoped :
    ∃ compiled, compile {} leakingSource = .ok compiled ∧ compiled.diagnostics = [] ∧
      ∃ function ∈ compiled.code.functions, ¬Line.WellScoped function.lines := by
  have found : (compile {} leakingSource).toOption.any fun compiled =>
      compiled.diagnostics = [] ∧ compiled.code.functions.any fun function =>
        function.lines.head?.any fun line => "__bind0" ∈ line.used := by
    decide +kernel
  cases outcome : compile {} leakingSource with
  | error failure =>
      rw [outcome] at found
      cases found
  | ok compiled =>
      rw [outcome] at found
      obtain ⟨clean, some_function⟩ := of_decide_eq_true found
      obtain ⟨function, member, first⟩ := List.any_eq_true.1 some_function
      refine ⟨compiled, rfl, clean, function, member, ?_⟩
      intro scopes
      cases lines : function.lines with
      | nil =>
          rw [lines] at first
          cases first
      | cons line rest =>
          rw [lines] at first scopes
          have uses : "__bind0" ∈ line.used := of_decide_eq_true first
          rw [scopes.used_first] at uses
          cases uses

end SqlMapper.Generated
