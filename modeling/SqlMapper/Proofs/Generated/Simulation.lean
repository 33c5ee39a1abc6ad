import SqlMapper.Generated.FromTemplate
import SqlMapper.Proofs.Generated.Buffer
import SqlMapper.Proofs.Generated.Lookup
import SqlMapper.Proofs.Render.Reached

/-!
# Generated steps simulate rendering

A run of generated steps goes along with a rendering: the variables of the names in scope hold what
the template has bound, and all variables are older than the next number of the generator.  Steps
simulate a rendering if they write the same text to their buffer and lead to states that go along
again.  The lemmas of this file are the cases of that simulation, one for each kind of step.

A guard may stop the run at any raw substitution.  The simulation therefore says what the run comes
to after the guards: they are asked about all substitutions that the rendering reaches, in order.
-/

namespace SqlMapper

/-- The parameter without the sign of a decimal zero. -/
def BoundParameter.dropZeroSign (parameter : BoundParameter) : BoundParameter :=
  { parameter with value := parameter.value.dropZeroSign }

/-- The rendering as the comparison of its values sees it, which knows one decimal zero only. -/
def RenderedSql.dropZeroSign (rendered : RenderedSql) : RenderedSql :=
  { rendered with parameters := rendered.parameters.map BoundParameter.dropZeroSign }

namespace Generated

/-- Asks the guards about raw substitutions in turn. -/
def askGuards (trusts : String → Bool) (statement : String) (reached : List Substitution) :
    Except Fault Unit :=
  match reached.findSome? (·.violation? trusts statement) with
  | none => .ok ()
  | some violation => .error (.refused violation)

theorem askGuards_append (trusts : String → Bool) (statement : String)
    (first second : List Substitution) :
    askGuards trusts statement (first ++ second) =
      (do askGuards trusts statement first; askGuards trusts statement second) := by
  unfold askGuards
  rw [List.findSome?_append]
  cases first.findSome? (·.violation? trusts statement) <;> rfl

/-- The rendering that a run goes along with. -/
def RunContext.rendering (context : RunContext) : RenderContext where
  style := context.style
  parameter := context.parameter

/-- A run and a rendering have bound the same values and know the same members. -/
structure Agrees (state : RenderState) (run : RunState) : Prop where
  parameters : run.parameters.map BoundParameter.dropZeroSign =
    state.parameters.map BoundParameter.dropZeroSign
  members : run.members = state.members

/-- A run goes along with a rendering. -/
structure Tracks (generation : Generation) (state : RenderState) (run : RunState) : Prop extends
    Agrees state run where
  represents : run.declared.Represent generation.locals state.scope
  older : ∀ entry ∈ run.declared, entry.1.number < generation.next

/-- What a run has written to a buffer, leaving behind variables that are not older than `next`. -/
structure Wrote (next : Nat) (buffer : Buffer) (text : String) (before after : RunState) : Prop where
  sql : after.sql = (before.appendTo text buffer).sql
  declared : ∃ fresh : Variables, (∀ entry ∈ fresh, next ≤ entry.1.number) ∧
    after.declared = fresh ++ (before.appendTo text buffer).declared

/-- What a run has written to a buffer, leaving behind no variables. -/
structure Kept (buffer : Buffer) (text : String) (before after : RunState) : Prop where
  sql : after.sql = (before.appendTo text buffer).sql
  declared : after.declared = (before.appendTo text buffer).declared

namespace Variables

variable {declared fresh : Variables} {locals : Scope Variable} {scope : Scope Value}

theorem Holds.extend {target : Variable} {value : Value} (holds : declared.Holds target value)
    (body : Variable) (text : String) : (declared.extend body text).Holds target value := by
  rcases holds with ⟨held, found, alike⟩
  refine ⟨held, ?_, alike⟩
  by_cases same : target = body
  · subst same
    simp [lookup_extend_self, found, Cell.append]
  · rw [lookup_extend_of_ne same, found]

theorem Holds.append {target : Variable} {value : Value} (holds : declared.Holds target value)
    (absent : ∀ entry ∈ fresh, entry.1 ≠ target) : (fresh ++ declared).Holds target value := by
  rcases holds with ⟨held, found, alike⟩
  exact ⟨held, by rw [lookup_append_of_absent absent, found], alike⟩

theorem Represent.extend (represents : declared.Represent locals scope) (body : Variable)
    (text : String) : (declared.extend body text).Represent locals scope :=
  List.Forall₂.imp (fun _ _ matching => ⟨matching.1, matching.2.extend body text⟩) represents

/-- What is found among older variables is none of the newer ones. -/
theorem ne_of_newer {next : Nat} {target : Variable} {cell : Cell}
    (older : ∀ entry ∈ declared, entry.1.number < next)
    (newer : ∀ entry ∈ fresh, next ≤ entry.1.number)
    (found : declared.lookup target = some cell) : ∀ entry ∈ fresh, entry.1 ≠ target := by
  intro entry member same
  have recent : next ≤ entry.1.number := newer entry member
  have old : target.number < next := older _ (Association.mem_of_lookup_eq_some found)
  rw [same] at recent
  omega

/-- What represents a scope does so behind newer variables. -/
theorem Represent.append {next : Nat} (represents : declared.Represent locals scope)
    (older : ∀ entry ∈ declared, entry.1.number < next)
    (newer : ∀ entry ∈ fresh, next ≤ entry.1.number) :
    (fresh ++ declared).Represent locals scope := by
  apply List.Forall₂.imp _ represents
  intro left right matching
  rcases matching.2 with ⟨held, found, _⟩
  exact ⟨matching.1, matching.2.append (ne_of_newer older newer found)⟩

end Variables

namespace Buffer

def IsAbsent (fresh : Variables) : Buffer → Prop
  | .output => True
  | .side body => ∀ entry ∈ fresh, entry.1 ≠ body

variable {buffer : Buffer} {declared fresh : Variables}

/-- An open buffer is none of the newer variables. -/
theorem IsOpen.isAbsent {next : Nat} (opened : buffer.IsOpen declared)
    (older : ∀ entry ∈ declared, entry.1.number < next)
    (newer : ∀ entry ∈ fresh, next ≤ entry.1.number) : buffer.IsAbsent fresh := by
  cases buffer with
  | output => trivial
  | side body =>
      rcases opened with ⟨written, found⟩
      exact Variables.ne_of_newer older newer found

theorem IsOpen.append (opened : buffer.IsOpen declared) (absent : buffer.IsAbsent fresh) :
    buffer.IsOpen (fresh ++ declared) := by
  cases buffer with
  | output => trivial
  | side body =>
      rcases opened with ⟨written, found⟩
      exact ⟨written, by rw [Variables.lookup_append_of_absent absent, found]⟩

end Buffer

namespace RunState

variable {before after : RunState} {buffer : Buffer} {fresh : Variables}

theorem sql_appendTo_congr (same : after.sql = before.sql) (text : String) (buffer : Buffer) :
    (after.appendTo text buffer).sql = (before.appendTo text buffer).sql := by
  cases buffer <;> simp [appendTo, same]

theorem declared_appendTo_of_append (same : after.declared = fresh ++ before.declared)
    (absent : buffer.IsAbsent fresh) (text : String) :
    (after.appendTo text buffer).declared = fresh ++ (before.appendTo text buffer).declared := by
  cases buffer with
  | output => simpa [appendTo] using same
  | side body => simp [appendTo, same, Variables.extend_append absent]

end RunState

section Writing

variable {buffer : Buffer} {first second text : String} {before middle after : RunState}
  {next later : Nat}

namespace Kept

theorem of_same (buffer : Buffer) (sql : after.sql = before.sql)
    (declared : after.declared = before.declared) : Kept buffer "" before after :=
  ⟨by simpa using sql, by simpa using declared⟩

theorem refl (buffer : Buffer) (run : RunState) : Kept buffer "" run run :=
  of_same buffer rfl rfl

theorem appendTo (buffer : Buffer) (text : String) (run : RunState) :
    Kept buffer text run (run.appendTo text buffer) :=
  ⟨rfl, rfl⟩

theorem trans (one : Kept buffer first before middle) (two : Kept buffer second middle after) :
    Kept buffer (first ++ second) before after := by
  constructor
  · rw [two.sql, RunState.sql_appendTo_congr one.sql, RunState.appendTo_appendTo]
  · rw [two.declared, ← RunState.appendTo_appendTo]
    cases buffer <;> simp [RunState.appendTo, one.declared]

/-- Nothing but the texts of the state before counts. -/
theorem of_middle (kept : Kept buffer text middle after) (before : RunState)
    (sql : middle.sql = before.sql) (declared : middle.declared = before.declared) :
    Kept buffer text before after := by
  simpa using (of_same buffer sql declared).trans kept

theorem wrote (kept : Kept buffer text before after) (next : Nat) :
    Wrote next buffer text before after :=
  ⟨kept.sql, [], by simp, by simpa using kept.declared⟩

theorem isOpen (kept : Kept buffer text before after) (opened : buffer.IsOpen before.declared) :
    buffer.IsOpen after.declared := by
  rw [kept.declared]
  exact RunState.isOpen_appendTo opened text

end Kept

namespace Wrote

/-- Declaring new variables writes nothing. -/
theorem of_declared (fresh : Variables) (sql : after.sql = before.sql)
    (declared : after.declared = fresh ++ before.declared)
    (newer : ∀ entry ∈ fresh, next ≤ entry.1.number) : Wrote next buffer "" before after :=
  ⟨by simpa using sql, fresh, newer, by simpa using declared⟩

theorem isOpen (wrote : Wrote next buffer text before after)
    (older : ∀ entry ∈ before.declared, entry.1.number < next)
    (opened : buffer.IsOpen before.declared) : buffer.IsOpen after.declared := by
  rcases wrote.declared with ⟨fresh, newer, same⟩
  rw [same]
  exact (RunState.isOpen_appendTo opened text).append (opened.isAbsent older newer)

theorem trans (one : Wrote next buffer first before middle)
    (two : Wrote later buffer second middle after) (ordered : next ≤ later)
    (older : ∀ entry ∈ before.declared, entry.1.number < next)
    (opened : buffer.IsOpen before.declared) :
    Wrote next buffer (first ++ second) before after := by
  rcases one.declared with ⟨firstFresh, firstNewer, firstSame⟩
  rcases two.declared with ⟨secondFresh, secondNewer, secondSame⟩
  have absent := opened.isAbsent older firstNewer
  constructor
  · rw [two.sql, RunState.sql_appendTo_congr one.sql, RunState.appendTo_appendTo]
  · refine ⟨secondFresh ++ firstFresh, ?_, ?_⟩
    · intro entry member
      rcases List.mem_append.1 member with recent | early
      · exact Nat.le_trans ordered (secondNewer entry recent)
      · exact firstNewer entry early
    · rw [secondSame, RunState.declared_appendTo_of_append firstSame absent,
        RunState.appendTo_appendTo, List.append_assoc]

/-- What was written in a block stays when the block is left. -/
theorem kept_leave (wrote : Wrote next buffer text before after) :
    Kept buffer text before (before.leave after) := by
  rcases wrote.declared with ⟨fresh, _, same⟩
  constructor
  · exact wrote.sql
  · simp only [RunState.leave, same]
    exact Variables.restore_append (by simp)

end Wrote

end Writing

namespace Tracks

variable {generation later : Generation} {state next : RenderState} {run after : RunState}
  {buffer : Buffer} {text : String}

theorem mono (tracks : Tracks generation state run) (locals : later.locals = generation.locals)
    (ordered : generation.next ≤ later.next) : Tracks later state run where
  toAgrees := tracks.toAgrees
  represents := locals ▸ tracks.represents
  older := fun entry member => Nat.lt_of_lt_of_le (tracks.older entry member) ordered

/-- A run that has only written text goes along with a rendering that has bound nothing. -/
theorem kept (tracks : Tracks generation state run) (wrote : Kept buffer text run after)
    (agrees : Agrees next after) (scope : next.scope = state.scope) :
    Tracks generation next after where
  toAgrees := agrees
  represents := by
    rw [wrote.declared, scope]
    cases buffer with
    | output => exact tracks.represents
    | side body => exact tracks.represents.extend body text
  older := by
    intro entry member
    have : entry.1 ∈ run.declared.map (·.1) := by
      rw [← RunState.map_fst_declared_appendTo run text buffer, ← wrote.declared]
      exact List.mem_map_of_mem member
    rcases List.mem_map.1 this with ⟨old, oldMember, same⟩
    rw [← same]
    exact tracks.older old oldMember

end Tracks

theorem ok_bind {α β : Type} (value : α) (next : α → Except Fault β) :
    (Except.ok value >>= next) = next value := rfl

theorem steps_append (context : RunContext) (run : RunState) (first second : List Code) :
    context.steps run (first ++ second) =
      (do let middle ← context.steps run first; context.steps middle second) := by
  induction first generalizing run with
  | nil => rfl
  | cons code rest ih =>
      simp only [List.cons_append, RunContext.steps, bind_assoc]
      exact bind_congr fun middle => ih middle

theorem steps_singleton (context : RunContext) (run : RunState) (code : Code) :
    context.steps run [code] = context.step run code := by
  simp only [RunContext.steps]
  exact bind_pure _

/-- The steps that were generated between two states of the generator simulate a rendering. -/
structure Simulates (context : RunContext) (trusts : String → Bool) (buffer : Buffer)
    (before after : Generation) (codes : List Code) (render : RenderState → String × RenderState)
    (reached : RenderState → List Substitution) : Prop where
  ordered : before.next ≤ after.next
  follows : ∀ state run, Tracks before state run → buffer.IsOpen run.declared →
    ∃ result, context.steps run codes =
        (do askGuards trusts context.statement (reached state); .ok result) ∧
      Tracks after (render state).2 result ∧ Wrote before.next buffer (render state).1 run result

/-- A block simulates a rendering that binds nothing. -/
def SimulatesBlock (context : RunContext) (trusts : String → Bool) (buffer : Buffer)
    (generation : Generation) (block : RunState → Except Fault RunState)
    (render : RenderState → String × RenderState) (reached : RenderState → List Substitution) :
    Prop :=
  ∀ state run, Tracks generation state run → buffer.IsOpen run.declared →
    ∃ result, block run = (do askGuards trusts context.statement (reached state); .ok result) ∧
      Agrees (render state).2 result ∧ (render state).2.scope = state.scope ∧
      Kept buffer (render state).1 run result

section Cases

variable {context : RunContext} {trusts : String → Bool} {buffer : Buffer}
  {generation before middle after : Generation} {codes first second : List Code}
  {render firstRender secondRender : RenderState → String × RenderState}
  {reached firstReached secondReached : RenderState → List Substitution}

theorem Simulates.nil :
    Simulates context trusts buffer generation generation [] (fun state => ("", state))
      (fun _ => []) where
  ordered := Nat.le_refl _
  follows _ run tracks _ := ⟨run, rfl, tracks, (Kept.refl buffer run).wrote _⟩

theorem Simulates.congr
    (simulates : Simulates context trusts buffer before after codes firstRender firstReached)
    (renders : ∀ state, firstRender state = secondRender state)
    (reaches : ∀ state, firstReached state = secondReached state) :
    Simulates context trusts buffer before after codes secondRender secondReached := by
  rw [← funext renders, ← funext reaches]
  exact simulates

theorem Simulates.append
    (one : Simulates context trusts buffer before middle first firstRender firstReached)
    (two : Simulates context trusts buffer middle after second secondRender secondReached) :
    Simulates context trusts buffer before after (first ++ second)
      (fun state => ((firstRender state).1 ++ (secondRender (firstRender state).2).1,
        (secondRender (firstRender state).2).2))
      (fun state => firstReached state ++ secondReached (firstRender state).2) where
  ordered := Nat.le_trans one.ordered two.ordered
  follows := by
    intro state run tracks opened
    rcases one.follows state run tracks opened with ⟨between, ran, tracksBetween, wrote⟩
    have openedBetween := wrote.isOpen tracks.older opened
    rcases two.follows _ between tracksBetween openedBetween with ⟨result, ranRest, tracks', wrote'⟩
    refine ⟨result, ?_, tracks', wrote.trans wrote' one.ordered tracks.older opened⟩
    rw [steps_append, ran, askGuards_append]
    simp only [bind_assoc, ok_bind, ranRest]

/-- A block is left without variables of its own. -/
theorem Simulates.block
    (body : Simulates context trusts buffer before after codes render reached) :
    SimulatesBlock context trusts buffer before
      (fun run => RunContext.inBlock (fun run => context.steps run codes) run run)
      (fun state => RenderContext.closeScope state (render state)) reached := by
  intro state run tracks opened
  rcases body.follows state run tracks opened with ⟨inner, ran, tracksInner, wrote⟩
  refine ⟨run.leave inner, ?_, ?_, rfl, wrote.kept_leave⟩
  · simp only [RunContext.inBlock, ran, bind_assoc, ok_bind]
  · exact ⟨tracksInner.parameters, tracksInner.members⟩

/-- A step that leaves no variables behind simulates what its block simulates. -/
theorem SimulatesBlock.step {code : Code} (ordered : before.next ≤ after.next)
    (locals : after.locals = before.locals)
    (simulates : SimulatesBlock context trusts buffer before (context.step · code) render reached) :
    Simulates context trusts buffer before after [code] render reached where
  ordered := ordered
  follows := by
    intro state run tracks opened
    rcases simulates state run tracks opened with ⟨result, ran, agrees, scope, kept⟩
    refine ⟨result, ?_, ?_, kept.wrote _⟩
    · exact (steps_singleton context run code).trans ran
    · exact (tracks.kept kept agrees scope).mono locals ordered

end Cases

end Generated

end SqlMapper
