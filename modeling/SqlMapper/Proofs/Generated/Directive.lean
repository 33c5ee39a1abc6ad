import SqlMapper.Proofs.Generated.Simulation

/-!
# Directives simulate their rendering

The cases of the simulation, one for each kind of node.  Those of nodes with children take the
simulation of the children as a premise.
-/

namespace SqlMapper.Generated

variable {context : RunContext} {trusts : String → Bool} {buffer : Buffer}
  {generation before after : Generation} {codes : List Code}
  {render : RenderState → String × RenderState} {reached : RenderState → List Substitution}

namespace Tracks

variable {state : RenderState} {run : RunState}

/-- Reading a path keeps a run and a rendering together. -/
theorem resolve (tracks : Tracks generation state run) (context : RunContext) (path : Path) :
    ∃ held, held.Alike (context.rendering.resolve state path).1 ∧
      context.value run (ofPath generation.locals path) =
        .ok (held, { run with members := (context.rendering.resolve state path).2.members }) ∧
      Tracks generation (context.rendering.resolve state path).2
        { run with members := (context.rendering.resolve state path).2.members } := by
  rcases RunContext.value_ofPath context tracks.represents path with ⟨held, alike, read⟩
  rw [tracks.members] at alike read
  exact ⟨held, alike, read, ⟨tracks.parameters, rfl⟩, tracks.represents, tracks.older⟩

/-- Deciding a test keeps a run and a rendering together. -/
theorem holds (tracks : Tracks generation state run) (context : RunContext) (source : String) :
    context.test run (ofTest generation.locals (.parse source)) =
        .ok ((context.rendering.holds state source).1,
          { run with members := (context.rendering.holds state source).2.members }) ∧
      Tracks generation (context.rendering.holds state source).2
        { run with members := (context.rendering.holds state source).2.members } := by
  have decided := RunContext.test_ofTest context tracks.represents (.parse source)
  simp only [tracks.members] at decided
  refine ⟨?_, ⟨tracks.parameters, rfl⟩, tracks.represents, tracks.older⟩
  simpa [RenderContext.holds, RunContext.rendering] using decided

/-- A fresh variable hides none of the older ones. -/
theorem declare (tracks : Tracks generation state run) (role : Role) (cell : Cell) :
    Tracks (generation.fresh role).2 state (run.declare (generation.fresh role).1 cell) where
  toAgrees := ⟨tracks.parameters, tracks.members⟩
  represents := by
    have extended : Variables.Represent ([((generation.fresh role).1, cell)] ++ run.declared)
        generation.locals state.scope :=
      tracks.represents.append tracks.older (by simp [Generation.fresh])
    exact extended
  older := by
    intro entry member
    rcases List.mem_cons.1 member with rfl | old
    · exact Nat.lt_succ_self _
    · exact Nat.lt_succ_of_lt (tracks.older entry old)

/-- Binding a value to the next mark keeps a run and a rendering together. -/
theorem mark (tracks : Tracks generation state run) (context : RunContext) {held value : Value}
    (alike : held.Alike value) :
    (bindNext context.style run.parameters held).1 = (context.rendering.mark state value).1 ∧
      Tracks generation (context.rendering.mark state value).2
        { run with parameters := (bindNext context.style run.parameters held).2 } := by
  have count : run.parameters.length = state.parameters.length := by
    simpa using congrArg List.length tracks.parameters
  refine ⟨?_, ⟨?_, tracks.members⟩, tracks.represents, tracks.older⟩
  · simp [RenderContext.mark, RunContext.rendering, bindNext, count]
  · have same : held.dropZeroSign = value.dropZeroSign := alike
    simp [RenderContext.mark, bindNext, count, tracks.parameters, BoundParameter.dropZeroSign, same]

/-- Writing text to an open buffer keeps a run and a rendering together. -/
theorem push {between : RunState} (tracks : Tracks generation state between) (run : RunState)
    (sql : between.sql = run.sql) (declared : between.declared = run.declared)
    (opened : buffer.IsOpen run.declared) (text : String) :
    between.write text buffer = .ok (between.appendTo text buffer) ∧
      Tracks generation state (between.appendTo text buffer) ∧
      Wrote generation.next buffer text run (between.appendTo text buffer) := by
  have kept := Kept.appendTo buffer text between
  refine ⟨RunState.write_of_isOpen (declared ▸ opened) text, ?_, ?_⟩
  · exact tracks.kept kept ⟨by simpa using tracks.parameters, by simpa using tracks.members⟩ rfl
  · exact (kept.of_middle run sql declared).wrote generation.next

/-- A name may be given to a variable that holds the value bound to it. -/
theorem bind {target : Variable} {value : Value} (tracks : Tracks generation state run)
    (holds : run.declared.Holds target value) (name : String) :
    Tracks (generation.bind name target) { state with scope := state.scope.push name value } run where
  toAgrees := ⟨tracks.parameters, tracks.members⟩
  represents := .cons ⟨rfl, holds⟩ tracks.represents
  older := tracks.older

end Tracks

theorem holds_declare (run : RunState) (target : Variable) {held value : Value}
    (alike : held.Alike value) :
    (run.declare target (.value held)).declared.Holds target value :=
  ⟨held, by simp, alike⟩

theorem simulates_push (text : String) :
    Simulates context trusts buffer generation generation [.push buffer text]
      (fun state => (text, state)) (fun _ => []) where
  ordered := Nat.le_refl _
  follows state run tracks opened := by
    rcases tracks.push run rfl rfl opened text with ⟨written, tracksWritten, wrote⟩
    exact ⟨_, (steps_singleton ..).trans written, tracksWritten, wrote⟩

/-- Empty text takes no step. -/
theorem simulates_text (content : String) :
    Simulates context trusts buffer generation generation
      (if content.isEmpty then [] else [.push buffer content])
      (fun state => (content, state)) (fun _ => []) := by
  by_cases empty : content.isEmpty
  · rw [if_pos empty, String.isEmpty_iff.1 empty]
    exact Simulates.nil
  · rw [if_neg empty]
    exact simulates_push content

theorem simulates_remark (fragment : String) :
    Simulates context trusts buffer generation generation [.remark fragment]
      (fun state => ("", state)) (fun _ => []) where
  ordered := Nat.le_refl _
  follows _ run tracks _ := ⟨run, rfl, tracks, (Kept.refl buffer run).wrote _⟩

theorem simulates_mark (path : Path) :
    Simulates context trusts buffer generation generation
      [.pushMark buffer (ofPath generation.locals path)]
      (fun state => context.rendering.mark (context.rendering.resolve state path).2
        (context.rendering.resolve state path).1)
      (fun _ => []) where
  ordered := Nat.le_refl _
  follows state run tracks opened := by
    rcases tracks.resolve context path with ⟨held, alike, read, tracksRead⟩
    rcases tracksRead.mark context alike with ⟨marker, tracksMarked⟩
    rcases tracksMarked.push run rfl rfl opened _ with ⟨written, tracksWritten, wrote⟩
    refine ⟨_, ?_, tracksWritten, wrote⟩
    rw [steps_singleton, RunContext.step, read, ok_bind]
    simp only [marker, written]
    rfl

theorem guardIdentifier_of_alike {held value : Value} (alike : held.Alike value)
    {parameter : String} (untrusted : trusts parameter = false) (statement : String) :
    guardIdentifier statement parameter held =
      match ({ parameter, value } : Substitution).violation? trusts statement with
      | none => .ok value.toText
      | some violation => .error violation := by
  have kinds := alike.kind_eq
  cases value with
  | identifier name =>
      have : held = .identifier name := by
        cases held <;> simp_all [Value.Alike, Value.dropZeroSign]
      simp [this, guardIdentifier, Substitution.violation?, untrusted, Value.toText]
  | _ =>
      cases held with
      | identifier name => simp [Value.kind] at kinds
      | _ => simp [guardIdentifier, Substitution.violation?, untrusted, kinds]

/-- A guard lets a raw substitution pass or stops the run at it. -/
theorem simulates_splice (name : String) :
    Simulates context trusts buffer generation generation
      [spliceCode trusts buffer generation.locals name]
      (fun state =>
        ((context.rendering.resolve state (.ofPlaceholder name)).1.toText,
          (context.rendering.resolve state (.ofPlaceholder name)).2))
      (fun state => [{
        parameter := (Path.ofPlaceholder name).toText
        value := (context.rendering.resolve state (.ofPlaceholder name)).1 }]) where
  ordered := Nat.le_refl _
  follows state run tracks opened := by
    rcases tracks.resolve context (.ofPlaceholder name) with ⟨held, alike, read, tracksRead⟩
    generalize context.rendering.resolve state (.ofPlaceholder name) = resolved at *
    rcases resolved with ⟨value, next⟩
    rcases tracksRead.push run rfl rfl opened value.toText with ⟨written, tracksWritten, wrote⟩
    refine ⟨_, ?_, tracksWritten, wrote⟩
    rw [steps_singleton, spliceCode]
    cases trusted : trusts (Path.ofPlaceholder name).toText with
    | true =>
        simp only [if_true, RunContext.step, read, ok_bind, alike.toText_eq, written]
        simp [askGuards, Substitution.violation?, trusted, ok_bind]
    | false =>
        have guarded := guardIdentifier_of_alike alike trusted context.statement
        simp only [RunContext.step, read, ok_bind, guarded, if_false, Bool.false_eq_true]
        cases violation : Substitution.violation? trusts context.statement _ with
        | none => simp [askGuards, violation, written, ok_bind]
        | some found => simp [askGuards, violation]; rfl

theorem simulates_bind (name value : String) :
    Simulates context trusts buffer generation
      ((generation.fresh .bind).2.bind name (generation.fresh .bind).1)
      [.define (generation.fresh .bind).1 (ofBind generation.locals (.parse value))]
      (fun state => ("", context.rendering.bindName state name value)) (fun _ => []) where
  ordered := Nat.le_succ _
  follows state run tracks _ := by
    rcases RunContext.bound_ofBind context tracks.represents (.parse value)
      with ⟨held, alike, read⟩
    simp only [tracks.members] at alike read
    have evaluated := RenderContext.bindName_eq context.rendering state name value
    simp only [RunContext.rendering] at evaluated ⊢
    generalize Bind.evaluate _ state.members (.parse value) = outcome at alike read evaluated
    -- What is bound is read before the new variable is declared.
    have tracksRead : Tracks generation
        { state with members := outcome.2, expressions := (state.expressions.bind value).2 }
        { run with members := outcome.2 } :=
      ⟨⟨tracks.parameters, rfl⟩, tracks.represents, tracks.older⟩
    have tracksBound := (tracksRead.declare .bind (.value held)).bind
      (holds_declare _ (generation.fresh .bind).1 alike) name
    rw [evaluated]
    refine ⟨_, ?_, tracksBound, Wrote.of_declared [_] rfl rfl ?_⟩
    · rw [steps_singleton, RunContext.step, read, ok_bind]
      rfl
    · simp [Generation.fresh]

/-- The branches of a choice simulate the rendering of the branch that is taken. -/
structure SimulatesBranches (context : RunContext) (trusts : String → Bool) (buffer : Buffer)
    (before after : Generation) (blocks : List (TestCode Variable × List Code))
    (render : RenderState → Option String × RenderState)
    (reached : RenderState → List Substitution) : Prop where
  ordered : before.next ≤ after.next
  locals : after.locals = before.locals
  follows : ∀ state run, Tracks before state run → buffer.IsOpen run.declared →
    ∃ result, context.firstBranch run blocks =
        (do askGuards trusts context.statement (reached state)
            .ok ((render state).1.isSome, result)) ∧
      Agrees (render state).2 result ∧ (render state).2.scope = state.scope ∧
      Kept buffer ((render state).1.getD "") run result

section Choice

variable {middle : Generation} {blocks : List (TestCode Variable × List Code)}
  {renderOthers : RenderState → Option String × RenderState}
  {reachedOthers : RenderState → List Substitution}

theorem SimulatesBranches.nil :
    SimulatesBranches context trusts buffer generation generation []
      (fun state => (none, state)) (fun _ => []) where
  ordered := Nat.le_refl _
  locals := rfl
  follows _ run tracks _ := ⟨run, rfl, tracks.toAgrees, rfl, Kept.refl buffer run⟩

theorem SimulatesBranches.cons (test : String)
    (body : SimulatesBlock context trusts buffer before
      (fun run => RunContext.inBlock (fun run => context.steps run codes) run run) render reached)
    (ordered : before.next ≤ middle.next) (locals : middle.locals = before.locals)
    (others : SimulatesBranches context trusts buffer middle after blocks renderOthers
      reachedOthers) :
    SimulatesBranches context trusts buffer before after
      ((ofTest before.locals (.parse test), codes) :: blocks)
      (fun state =>
        match context.rendering.holds state test with
        | (true, state) => (some (render state).1, (render state).2)
        | (false, state) => renderOthers state)
      (fun state =>
        match context.rendering.holds state test with
        | (true, state) => reached state
        | (false, state) => reachedOthers state) where
  ordered := Nat.le_trans ordered others.ordered
  locals := others.locals.trans locals
  follows state run tracks opened := by
    rcases tracks.holds context test with ⟨decided, tracksDecided⟩
    have sameScope : (context.rendering.holds state test).2.scope = state.scope := rfl
    generalize context.rendering.holds state test = outcome at *
    rcases outcome with ⟨_ | _, next⟩
    · rcases others.follows next _ (tracksDecided.mono locals ordered) opened
        with ⟨result, ran, agrees, scope, kept⟩
      refine ⟨result, ?_, agrees, scope.trans sameScope, kept.of_middle run rfl rfl⟩
      simp [RunContext.firstBranch, decided, ok_bind, ran]
    · rcases body next _ tracksDecided opened with ⟨result, ran, agrees, scope, kept⟩
      refine ⟨result, ?_, agrees, scope.trans sameScope, kept.of_middle run rfl rfl⟩
      simp only [RunContext.firstBranch, decided, ok_bind, if_true, ran, bind_assoc]
      rfl

/-- A choice without fallback writes nothing if no test holds. -/
theorem SimulatesBranches.choice {render : RenderState → Option String × RenderState}
    (branches : SimulatesBranches context trusts buffer before after blocks render reached) :
    Simulates context trusts buffer before after [.branch blocks none]
      (fun state =>
        match render state with
        | (some text, state) => (text, state)
        | (none, state) => ("", state))
      reached := by
  apply SimulatesBlock.step branches.ordered branches.locals
  intro state run tracks opened
  rcases branches.follows state run tracks opened with ⟨result, ran, agrees, scope, kept⟩
  refine ⟨result, ?_, ?_⟩
  · simp only [RunContext.step, ran, bind_assoc, ok_bind]
  · dsimp only
    generalize render state = outcome at *
    rcases outcome with ⟨_ | text, next⟩ <;> exact ⟨agrees, scope, kept⟩

/-- A choice with a fallback writes it if no test holds. -/
theorem SimulatesBranches.choice_fallback {final : Generation}
    {render : RenderState → Option String × RenderState} {fallback : List Code}
    {renderFallback : RenderState → String × RenderState}
    {reachedFallback : RenderState → List Substitution}
    (branches : SimulatesBranches context trusts buffer before after blocks render reached)
    (otherwise : SimulatesBlock context trusts buffer after
      (fun run => RunContext.inBlock (fun run => context.steps run fallback) run run)
      renderFallback reachedFallback)
    (ordered : after.next ≤ final.next) (locals : final.locals = after.locals) :
    Simulates context trusts buffer before final [.branch blocks (some fallback)]
      (fun state =>
        match render state with
        | (some text, state) => (text, state)
        | (none, state) => renderFallback state)
      (fun state => reached state ++
        match render state with
        | (none, state) => reachedFallback state
        | (some _, _) => []) := by
  apply SimulatesBlock.step (Nat.le_trans branches.ordered ordered)
    (locals.trans branches.locals)
  intro state run tracks opened
  rcases branches.follows state run tracks opened with ⟨middle, ran, agrees, scope, kept⟩
  dsimp only
  generalize render state = outcome at *
  rcases outcome with ⟨_ | text, next⟩
  · have tracksMiddle : Tracks after next middle :=
      (tracks.kept kept agrees scope).mono branches.locals branches.ordered
    rcases otherwise next middle tracksMiddle (kept.isOpen opened)
      with ⟨result, ranOtherwise, agreesResult, scopeResult, keptResult⟩
    refine ⟨result, ?_, agreesResult, scopeResult.trans scope, ?_⟩
    · simp only [RunContext.step, ran, askGuards_append, bind_assoc, ok_bind]
      simpa using bind_congr fun _ => ranOtherwise
    · simpa using kept.trans keptResult
  · refine ⟨middle, ?_, agrees, scope, kept⟩
    simp [RunContext.step, ran, bind_assoc, ok_bind]

end Choice

section Clause

variable {body : Variable} {text : String} {run filled : RunState}

/-- What remains of the body of a clause is written behind the keyword, unless nothing remains. -/
theorem step_ifNonempty (context : RunContext) (kind : Clause)
    (held : run.declared.lookup body = some (.trimmed text))
    (opened : buffer.IsOpen run.declared) :
    context.step run (.ifNonempty body [.push buffer kind.keyword, .pushBody buffer body]) =
      .ok (run.appendTo (if text.isEmpty then "" else kind.keyword ++ text) buffer) := by
  have trimmed : run.declared.trimmed body = .ok text := by simp [Variables.trimmed, held]
  simp only [RunContext.step, trimmed, ok_bind]
  by_cases empty : text.isEmpty
  · simp [empty]
  · have heldAfter := RunState.lookup_appendTo held opened (by simp) kind.keyword
    have trimmedAfter : (run.appendTo kind.keyword buffer).declared.trimmed body = .ok text := by
      simp [Variables.trimmed, heldAfter]
    have openedAfter := RunState.isOpen_appendTo opened kind.keyword
    simp only [empty, RunContext.inBlock, RunContext.steps, RunContext.step, ok_bind,
      RunState.write_of_isOpen opened, trimmedAfter, RunState.write_of_isOpen openedAfter,
      RunState.appendTo_appendTo, RunState.leave_appendTo, if_false, Bool.false_eq_true]

/-- A body that is complete is mended and written as the clause it belongs to. -/
theorem steps_mend (context : RunContext) (kind : Clause)
    (held : run.declared.lookup body = some (.body text))
    (opened : buffer.IsOpen (run.declare body (.trimmed (kind.trimBody text))).declared) :
    context.steps run
        [.trimBody kind body, .ifNonempty body [.push buffer kind.keyword, .pushBody buffer body]] =
      .ok ((run.declare body (.trimmed (kind.trimBody text))).appendTo (kind.wrap text) buffer) := by
  have complete : run.declared.body body = .ok text := by simp [Variables.body, held]
  have mended : context.step run (.trimBody kind body) =
      .ok (run.declare body (.trimmed (kind.trimBody text))) := by
    simp only [RunContext.step, complete, ok_bind]
  have written := step_ifNonempty context kind (RunState.lookup_declare ..) opened
  rw [RunContext.steps, mended, ok_bind, steps_singleton, written]
  rfl

/-- What is declared while a body is filled stands in front of the body. -/
theorem declared_of_filled (wrote : Wrote (body.number + 1) (.side body) text
      (run.declare body (.body "")) filled) :
    ∃ fresh : Variables, (∀ entry ∈ fresh, body.number < entry.1.number) ∧
      filled.declared = fresh ++ (body, .body text) :: run.declared := by
  rcases wrote.declared with ⟨fresh, newer, extended⟩
  refine ⟨fresh, newer, ?_⟩
  simpa [RunState.appendTo, RunState.declare, Variables.extend, Cell.append] using extended

theorem lookup_of_filled (wrote : Wrote (body.number + 1) (.side body) text
      (run.declare body (.body "")) filled) :
    filled.declared.lookup body = some (.body text) := by
  rcases declared_of_filled wrote with ⟨fresh, newer, declared⟩
  have absent : ∀ entry ∈ fresh, entry.1 ≠ body := by
    intro entry member same
    have := newer entry member
    rw [same] at this
    exact Nat.lt_irrefl _ this
  rw [declared, Variables.lookup_append_of_absent absent]
  simp

/-- Filling and mending a body writes nothing to the buffers around it, and whatever is declared for
that is newer than the variables around it. -/
theorem wrote_of_filled (buffer : Buffer) (wrote : Wrote (body.number + 1) (.side body) text
      (run.declare body (.body "")) filled) (mended : Cell) :
    Wrote body.number buffer "" run (filled.declare body mended) := by
  rcases declared_of_filled wrote with ⟨fresh, newer, declared⟩
  apply Wrote.of_declared ((body, mended) :: fresh ++ [(body, .body text)])
  · simpa using wrote.sql
  · simp [RunState.declare, declared]
  · intro entry member
    simp only [List.cons_append, List.mem_cons, List.mem_append, List.not_mem_nil,
      or_false] at member
    rcases member with rfl | inside | rfl
    · exact Nat.le_refl _
    · exact Nat.le_of_lt (newer entry inside)
    · exact Nat.le_refl _

/-- The body of a clause is rendered to a buffer of its own, which is mended and written. -/
theorem Simulates.clause (kind : Clause)
    (inner : Simulates context trusts (.side (generation.fresh (.clause kind)).1)
      (generation.fresh (.clause kind)).2 after codes render reached) :
    Simulates context trusts buffer generation
      (Generation.leave (generation.fresh (.clause kind)).2 after)
      [clauseCode buffer kind (generation.fresh (.clause kind)).1 codes]
      (fun state =>
        let (text, next) := RenderContext.closeScope state (render state)
        (kind.wrap text, next))
      reached := by
  refine SimulatesBlock.step (Nat.le_trans (Nat.le_succ _) inner.ordered) rfl ?_
  intro state run tracks opened
  have tracksOpen := tracks.declare (.clause kind) (.body "")
  rcases inner.follows state _ tracksOpen ⟨"", by simp⟩ with ⟨filled, ran, tracksFilled, wrote⟩
  -- The body has the number of the generation and its children those after it.
  have wroteBody : Wrote ((generation.fresh (.clause kind)).1.number + 1)
      (.side (generation.fresh (.clause kind)).1) (render state).1 _ filled := wrote
  have held := lookup_of_filled wroteBody
  have wroteMended : Wrote generation.next buffer "" run _ :=
    wrote_of_filled buffer wroteBody (.trimmed (kind.trimBody (render state).1))
  have written := steps_mend context kind held (wroteMended.isOpen tracks.older opened)
  have wroteClause := wroteMended.trans
    ((Kept.appendTo buffer (kind.wrap (render state).1) _).wrote _) (Nat.le_refl _) tracks.older
    opened
  simp only [RenderContext.closeScope]
  refine ⟨_, ?_, ⟨?_, ?_⟩, rfl, by simpa using wroteClause.kept_leave⟩
  · rw [clauseCode, RunContext.step, RunContext.inBlock, List.cons_append, RunContext.steps]
    simp only [RunContext.step, steps_append, ok_bind, ran, bind_assoc, written]
  · simpa [RunState.leave, RenderContext.leave] using tracksFilled.parameters
  · simpa [RunState.leave, RenderContext.leave] using tracksFilled.members

end Clause

end SqlMapper.Generated
