import SqlMapper.Proofs.Generated.Directive

/-!
# Loops simulate their rendering

A pass of a loop declares its variables behind those of the block around it and leaves them at its
end, so every pass starts where the first one did.  The passes over all items follow by induction on
the items.
-/

namespace SqlMapper.Generated

variable {context : RunContext} {trusts : String → Bool} {buffer : Buffer}
  {generation after : Generation} {codes : List Code} {header : Loop}
  {render : RenderState → String × RenderState} {reached : RenderState → List Substitution}
  {state : RenderState} {run : RunState} {counter : Variable} {index : Nat}

namespace Generation

/-- The variable for the number of an item. -/
def passCounter (generation : Generation) : Variable :=
  (generation.fresh .counter).1

def passItem (generation : Generation) : Variable :=
  ((generation.fresh .counter).2.fresh .item).1

/-- The step that begins a pass, and what the children of a loop are generated in. -/
def enterPass (generation : Generation) (header : Loop) : List Code × Generation :=
  (((generation.fresh .counter).2.fresh .item).2.bind header.item generation.passItem).declareIndex
    header generation.passCounter

theorem next_le_enterPass (generation : Generation) (header : Loop) :
    generation.next ≤ (generation.enterPass header).2.next := by
  cases named : header.index <;> simp only [enterPass, declareIndex, named, fresh, bind] <;> omega

end Generation

/-- The block of a loop whose children became the given steps. -/
def passCode (buffer : Buffer) (generation : Generation) (header : Loop) (codes : List Code) :
    List Code :=
  separatorCode buffer header generation.passCounter ++ (generation.enterPass header).1 ++ codes

theorem steps_edgeCode (context : RunContext) (opened : buffer.IsOpen run.declared)
    (text : Option String) :
    context.steps run (edgeCode buffer text) = .ok (run.appendTo (text.getD "") buffer) := by
  cases text with
  | none => simp [edgeCode, RunContext.steps]
  | some content =>
      exact (steps_singleton ..).trans (RunState.write_of_isOpen opened content)

/-- The separator is written in front of every item but the first. -/
theorem steps_separatorCode (context : RunContext) (header : Loop)
    (held : run.declared.lookup counter = some (.counter index))
    (opened : buffer.IsOpen run.declared) :
    context.steps run (separatorCode buffer header counter) =
      .ok (run.appendTo (RenderContext.separatorText header index) buffer) := by
  cases separator : header.separator with
  | none => simp [separatorCode, RenderContext.separatorText, separator, RunContext.steps]
  | some text =>
      by_cases empty : text.isEmpty
      · have : text = "" := String.isEmpty_iff.1 empty
        simp [separatorCode, RenderContext.separatorText, separator, this, RunContext.steps]
      · have counted : run.declared.counter counter = .ok index := by
          simp [Variables.counter, held]
        cases index with
        | zero =>
            simp [separatorCode, RenderContext.separatorText, separator, empty, steps_singleton,
              RunContext.step, counted, ok_bind]
        | succ previous =>
            simp [separatorCode, RenderContext.separatorText, separator, empty, steps_singleton,
              RunContext.step, counted, ok_bind, RunContext.inBlock,
              RunState.write_of_isOpen opened]

/-- The index of a loop is bound to the number of the item. -/
theorem Tracks.declareIndex (tracks : Tracks generation state run) (context : RunContext)
    (header : Loop) (held : run.declared.lookup counter = some (.counter index)) (buffer : Buffer) :
    ∃ result,
      context.steps run (generation.declareIndex header counter).1 = .ok result ∧
      Tracks (generation.declareIndex header counter).2
        (RenderContext.bindIndex header index state) result ∧
      Wrote generation.next buffer "" run result := by
  cases named : header.index with
  | none =>
      simp only [Generation.declareIndex, RenderContext.bindIndex, named]
      exact ⟨run, rfl, tracks, (Kept.refl buffer run).wrote _⟩
  | some name =>
      simp only [Generation.declareIndex, RenderContext.bindIndex, named]
      have counted : run.declared.counter counter = .ok index := by
        simp [Variables.counter, held]
      have tracksIndex := (tracks.declare .index (.value (.ofNat index))).bind
        (holds_declare _ _ (.refl _)) name
      refine ⟨_, ?_, tracksIndex, Wrote.of_declared [_] rfl rfl ?_⟩
      · rw [steps_singleton, RunContext.step, counted, ok_bind]
      · simp [Generation.fresh]

/-- A pass begins with the number of the item and the item itself. -/
theorem Tracks.enterItem (tracks : Tracks generation state run) (buffer : Buffer) (header : Loop)
    (index : Nat) (value : Value) :
    let start := (run.declare generation.passCounter (.counter index)).declare generation.passItem
      (.value value)
    Tracks (((generation.fresh .counter).2.fresh .item).2.bind header.item generation.passItem)
        { state with scope := state.scope.push header.item value } start ∧
      Wrote generation.next buffer "" run start ∧
      start.declared.lookup generation.passCounter = some (.counter index) := by
  refine ⟨?_, Wrote.of_declared [_, _] rfl rfl ?_, ?_⟩
  · exact ((tracks.declare .counter (.counter index)).declare .item (.value value)).bind
      (holds_declare _ _ (.refl value)) header.item
  · simp [Generation.passCounter, Generation.passItem, Generation.fresh]
  · have different : generation.passCounter ≠ generation.passItem := by
      simp [Generation.passCounter, Generation.passItem, Generation.fresh]
    rw [RunState.lookup_declare_of_ne _ _ _ different, RunState.lookup_declare]

/-- A pass simulates the rendering of its item. -/
theorem follows_pass (inner : Simulates context trusts buffer (generation.enterPass header).2 after
      codes render reached) (value : Value) (tracks : Tracks generation state run)
    (opened : buffer.IsOpen run.declared) (index : Nat) :
    let entered := RenderContext.enterItem header index value state
    ∃ result,
      RunContext.inBlock (fun run => context.steps run (passCode buffer generation header codes)) run
          ((run.declare generation.passCounter (.counter index)).declare generation.passItem
            (.value value)) =
        (do askGuards trusts context.statement (reached entered); .ok result) ∧
      Agrees (RenderContext.leave state (render entered).2) result ∧
      Kept buffer (RenderContext.separatorText header index ++ (render entered).1) run result := by
  intro entered
  rcases tracks.enterItem buffer header index value with ⟨tracksItem, wroteItem, held⟩
  generalize (run.declare generation.passCounter (.counter index)).declare generation.passItem
    (.value value) = start at *
  have openedItem := wroteItem.isOpen tracks.older opened
  have separated := steps_separatorCode context header held openedItem
  have heldSeparated := RunState.lookup_appendTo held openedItem (by simp)
    (RenderContext.separatorText header index)
  rcases tracksItem.push start rfl rfl openedItem (RenderContext.separatorText header index)
    with ⟨_, tracksSeparated, wroteSeparated⟩
  rcases tracksSeparated.declareIndex context header heldSeparated buffer
    with ⟨indexed, ranIndex, tracksIndex, wroteIndex⟩
  have wroteStart := (wroteItem.trans wroteSeparated (Nat.le_add_right _ 2) tracks.older
    opened).trans wroteIndex (Nat.le_add_right _ 2) tracks.older opened
  have openedIndex := wroteStart.isOpen tracks.older opened
  rcases inner.follows _ indexed tracksIndex openedIndex with ⟨result, ran, tracksResult, wroteInner⟩
  have wrotePass := wroteStart.trans wroteInner (generation.next_le_enterPass header)
    tracks.older opened
  refine ⟨run.leave result, ?_, ⟨tracksResult.parameters, tracksResult.members⟩, ?_⟩
  · have ranIndex' : context.steps _ (generation.enterPass header).1 = .ok indexed := ranIndex
    simp only [RunContext.inBlock, passCode, steps_append, separated, ranIndex', ran, ok_bind,
      bind_assoc]
    rfl
  · have kept := wrotePass.kept_leave
    simp only [String.empty_append, String.append_empty] at kept
    exact kept

/-- The passes over items simulate the rendering of all of them. -/
theorem follows_passes (inner : Simulates context trusts buffer (generation.enterPass header).2 after
      codes render reached) (items : List Value) (tracks : Tracks generation state run)
    (opened : buffer.IsOpen run.declared) (index : Nat) :
    ∃ result,
      RunContext.forItems
          (fun run => context.steps run (passCode buffer generation header codes))
          generation.passCounter generation.passItem index run items =
        (do
          askGuards trusts context.statement
            (RenderContext.reachedItems header render reached index state items)
          .ok result) ∧
      Agrees (RenderContext.forItems header render index state items).2 result ∧
      (RenderContext.forItems header render index state items).2.scope = state.scope ∧
      Kept buffer (RenderContext.forItems header render index state items).1 run result := by
  induction items generalizing index state run with
  | nil => exact ⟨run, rfl, tracks.toAgrees, rfl, Kept.refl buffer run⟩
  | cons value rest ih =>
      rcases follows_pass inner value tracks opened index with ⟨passed, ran, agrees, kept⟩
      have tracksPassed := tracks.kept kept agrees rfl
      rcases ih tracksPassed (kept.isOpen opened) (index + 1)
        with ⟨result, ranRest, agreesResult, scope, keptRest⟩
      refine ⟨result, ?_, agreesResult, scope, kept.trans keptRest⟩
      simp only [RunContext.forItems, ran, bind_assoc, ok_bind, ranRest,
        RenderContext.reachedItems, askGuards_append]

/-- The steps of a loop over items that are known. -/
def passesCode (buffer : Buffer) (generation : Generation) (header : Loop) (items : Variable)
    (codes : List Code) : List Code :=
  edgeCode buffer header.opening ++
    [.forEach generation.passCounter generation.passItem items
      (passCode buffer generation header codes)] ++
    edgeCode buffer header.closing

/-- A list is written between the edges of its loop. -/
theorem follows_list {items : Variable}
    (inner : Simulates context trusts buffer (generation.enterPass header).2 after codes render
      reached) (list : List Value) (tracks : Tracks generation state run)
    (opened : buffer.IsOpen run.declared) (held : run.declared.lookup items = some (.items list)) :
    let rendered := RenderContext.forItems header render 0 state list
    ∃ result,
      context.steps run (passesCode buffer generation header items codes) =
        (do
          askGuards trusts context.statement
            (RenderContext.reachedItems header render reached 0 state list)
          .ok result) ∧
      Agrees rendered.2 result ∧ rendered.2.scope = state.scope ∧
      Kept buffer (header.opening.getD "" ++ rendered.1 ++ header.closing.getD "") run result := by
  intro rendered
  have keptOpening := Kept.appendTo buffer (header.opening.getD "") run
  have openedOpening := keptOpening.isOpen opened
  have heldOpening := RunState.lookup_appendTo held opened (by simp) (header.opening.getD "")
  have list_held : (run.appendTo (header.opening.getD "") buffer).declared.items items = .ok list := by
    simp [Variables.items, heldOpening]
  rcases tracks.push run rfl rfl opened (header.opening.getD "") with ⟨_, tracksOpening, _⟩
  rcases follows_passes inner list tracksOpening openedOpening 0
    with ⟨passed, ran, agrees, scope, keptPasses⟩
  have keptClosing := Kept.appendTo buffer (header.closing.getD "") passed
  have kept := (keptOpening.trans keptPasses).trans keptClosing
  refine ⟨_, ?_, ⟨?_, ?_⟩, scope, kept⟩
  · have closed := steps_edgeCode context (keptPasses.isOpen openedOpening) header.closing
    simp only [passesCode, steps_append, steps_edgeCode context opened, steps_singleton,
      RunContext.step, list_held, ran, closed, ok_bind, bind_assoc]
  · simpa using agrees.parameters
  · simpa using agrees.members

/-- The items of a list are declared in the block of the loop only. -/
theorem follows_ifList {collection : Variable} {held : Value} {list : List Value}
    (inner : Simulates context trusts buffer ((generation.fresh .items).2.enterPass header).2 after
      codes render reached)
    (tracks : Tracks generation state run) (opened : buffer.IsOpen run.declared)
    (collected : run.declared.value collection = .ok held) (listed : held.items? = some list) :
    let items := (generation.fresh .items).1
    let rendered := RenderContext.forItems header render 0 state list
    ∃ result,
      context.step run (.ifList items collection
          (passesCode buffer (generation.fresh .items).2 header items codes)) =
        (do
          askGuards trusts context.statement
            (RenderContext.reachedItems header render reached 0 state list)
          .ok result) ∧
      Agrees rendered.2 result ∧ rendered.2.scope = state.scope ∧
      Kept buffer (header.opening.getD "" ++ rendered.1 ++ header.closing.getD "") run result := by
  intro items rendered
  have wroteItems : Wrote generation.next buffer "" run (run.declare items (.items list)) := by
    refine Wrote.of_declared [_] rfl rfl ?_
    simp [items, Generation.fresh]
  have openedItems := wroteItems.isOpen tracks.older opened
  rcases follows_list inner list (tracks.declare .items (.items list)) openedItems
      (RunState.lookup_declare ..) with ⟨result, ran, agrees, scope, kept⟩
  have wroteList := wroteItems.trans (kept.wrote _) (Nat.le_refl _) tracks.older opened
  refine ⟨run.leave result, ?_, ⟨agrees.parameters, agrees.members⟩, scope, ?_⟩
  · simp only [RunContext.step, collected, listed, ok_bind, RunContext.inBlock]
    rw [ran, bind_assoc]
    rfl
  · have keptList := wroteList.kept_leave
    rw [String.empty_append] at keptList
    exact keptList

/-- A loop runs over the items of what its collection holds, and writes nothing for anything else
than a list. -/
theorem Simulates.loop
    (inner : Simulates context trusts buffer
      (((generation.fresh .collection).2.fresh .items).2.enterPass header).2 after codes render
      reached) :
    let collection := (generation.fresh .collection).1
    let items := ((generation.fresh .collection).2.fresh .items).1
    let start := ((generation.fresh .collection).2.fresh .items).2
    let path := Path.ofPlaceholder header.collection
    Simulates context trusts buffer generation (Generation.leave start after)
      [.define collection (.value (ofPath generation.locals path)),
        .ifList items collection (passesCode buffer start header items codes)]
      (fun state =>
        let (value, state) := context.rendering.resolve state path
        match value.items? with
        | none => ("", state)
        | some list =>
          let (text, state) := RenderContext.forItems header render 0 state list
          (header.opening.getD "" ++ text ++ header.closing.getD "", state))
      (fun state =>
        let (value, state) := context.rendering.resolve state path
        match value.items? with
        | none => []
        | some list => RenderContext.reachedItems header render reached 0 state list) := by
  intro collection items start path
  have ordered : generation.next + 2 ≤ after.next :=
    Nat.le_trans (start.next_le_enterPass header) inner.ordered
  have orderedDefined : (generation.fresh .collection).2.next ≤ (Generation.leave start after).next :=
    Nat.le_of_succ_le ordered
  refine ⟨Nat.le_trans (Nat.le_add_right _ 2) ordered, ?_⟩
  intro state run tracks opened
  rcases tracks.resolve context path with ⟨held, alike, read, tracksRead⟩
  have sameItems := alike.items?_eq
  generalize context.rendering.resolve state path = resolved at *
  rcases resolved with ⟨value, next⟩
  have tracksDefined := tracksRead.declare .collection (.value held)
  have defined : context.step run (.define collection (.value (ofPath generation.locals path))) =
      .ok (({ run with members := next.members } : RunState).declare collection (.value held)) := by
    rw [RunContext.step, RunContext.bound, read, ok_bind]
  have collected : (({ run with members := next.members } : RunState).declare collection
      (.value held)).declared.value collection = .ok held := by
    simp [Variables.value]
  have wroteDefined : Wrote generation.next buffer "" run
      (({ run with members := next.members } : RunState).declare collection (.value held)) := by
    refine Wrote.of_declared [_] rfl rfl ?_
    simp [collection, Generation.fresh]
  have openedDefined := wroteDefined.isOpen tracks.older opened
  rw [RunContext.steps, defined, ok_bind, steps_singleton]
  generalize ({ run with members := next.members } : RunState).declare collection (.value held) =
    middle at *
  cases listed : value.items? with
  | none =>
      simp only [listed]
      refine ⟨middle, ?_, ?_, wroteDefined⟩
      · simp only [RunContext.step, collected, ok_bind, sameItems, listed]
        rfl
      · exact tracksDefined.mono rfl orderedDefined
  | some list =>
      rcases follows_ifList inner tracksDefined openedDefined collected (sameItems.trans listed)
        with ⟨result, ran, agrees, scope, kept⟩
      simp only [listed]
      refine ⟨result, ran, ?_, ?_⟩
      · exact (tracksDefined.kept kept agrees scope).mono rfl orderedDefined
      · have wrote := wroteDefined.trans (kept.wrote _) (Nat.le_succ _) tracks.older opened
        rw [String.empty_append] at wrote
        exact wrote

end SqlMapper.Generated
