import SqlMapper.Compiler
import SqlMapper.Proofs.Render.Lockstep

/-!
# Steps of a session are isolated

A session shares its caches between all that is compiled and rendered in it.  A cache of expressions
holds nothing but what parsing gives, and a cache of members answers what the layout of the shapes
says, so each step comes out as it would in a session of its own.
-/

namespace SqlMapper

variable {layout : Layout}

/-! ### Compiling -/

theorem ExpressionCache.check_fst_eq (events : List Node.Event) (left right : ExpressionCache) :
    (left.check events).1 = (right.check events).1 := by
  induction events generalizing left right with
  | nil => rfl
  | cons event rest ih =>
      cases event with
      | test source =>
          have later := ih (left.test source).2 (right.test source).2
          simp only [check, test_fst, later]
      | bind name value =>
          have later := ih (left.bind value).2 (right.bind value).2
          simp only [check, bind_fst, later]
      | _ => exact ih left right

namespace Mapper

theorem checkDeclarations_fst_eq (mapper : Mapper) (declarations : List (String × Span × Node))
    (left right : ExpressionCache) :
    (mapper.checkDeclarations left declarations).1 =
      (mapper.checkDeclarations right declarations).1 := by
  induction declarations generalizing left right with
  | nil => rfl
  | cons declaration rest ih =>
      rcases declaration with ⟨id, span, root⟩
      have here := ExpressionCache.check_fst_eq root.events left right
      have later := ih (left.check root.events).2 (right.check root.events).2
      simp only [checkDeclarations, here, later]

theorem checkExpressions_fst_eq (mapper : Mapper) (left right : ExpressionCache) :
    (mapper.checkExpressions left).1 = (mapper.checkExpressions right).1 :=
  mapper.checkDeclarations_fst_eq mapper.declarations left right

end Mapper

namespace Session

/-- What compiling gives depends on nothing of a session but its configuration. -/
theorem compile_fst (session : Session) (source : String) :
    (session.compile source).1 = SqlMapper.compile session.config source := by
  simp only [SqlMapper.compile, compile, fresh]
  cases Mapper.parse source with
  | error diagnostics => rfl
  | ok parsed =>
      rcases parsed with ⟨mapper, reading⟩
      have checked := mapper.checkExpressions_fst_eq session.expressions {}
      simp only [checked]

@[simp]
theorem config_compile (session : Session) (source : String) :
    (session.compile source).2.config = session.config := by
  simp only [compile]
  cases Mapper.parse source <;> rfl

@[simp]
theorem members_compile (session : Session) (source : String) :
    (session.compile source).2.members = session.members := by
  simp only [compile]
  cases Mapper.parse source <;> rfl

theorem compile_eq_of_error {session : Session} {source : String} {error : Error}
    (failed : (session.compile source).1 = .error error) :
    (session.compile source).2 = session := by
  simp only [compile] at failed ⊢
  generalize Mapper.parse source = reading at *
  cases reading with
  | error diagnostics => rfl
  | ok parsed => cases failed

end Session

/-! ### Rendering -/

namespace RenderContext

variable {context : RenderContext}

/-- Against one parameter a path leads to one value, so even what is bound stays the same. -/
theorem lockstep_markPath_self (fits : context.parameter.Fits layout) (path : Path) :
    Lockstep Eq layout (context.markPath · path) (context.markPath · path) := by
  intro left right paired
  have peers : Peers layout [path] context context := peers_self [path] fits
  have value := (peers.resolve_eq paired (List.mem_singleton.2 rfl)).1
  have resolved := peers.paired_resolve paired path
  have parameters := resolved.parameters
  refine ⟨?_, resolved.scope, ?_, resolved.fitsScope, resolved.fitsLeft, resolved.fitsRight⟩
  · simp only [markPath, mark, bindNext, parameters]
  · simp only [markPath, mark, bindNext, parameters, value]

theorem lockstep_render_self (fits : context.parameter.Fits layout) (node : Node) :
    Lockstep Eq layout (context.render · node) (context.render · node) :=
  lockstep_render_of_marks (peers_self node.readPaths fits) (lockstep_markPath_self fits) node
    (List.Subset.refl _)

end RenderContext

theorem RenderState.paired_start {left right : MemberCache} (fitsLeft : left.Fits layout)
    (fitsRight : right.Fits layout) (leftExpressions rightExpressions : ExpressionCache) :
    Paired Eq layout { members := left, expressions := leftExpressions }
      { members := right, expressions := rightExpressions } :=
  ⟨rfl, rfl, List.forall_mem_nil _, fitsLeft, fitsRight⟩

namespace Statement

variable {left right : MemberCache}

theorem fits_render (statement : Statement) (context : RenderContext)
    (fits : context.parameter.Fits layout) (members : left.Fits layout)
    (expressions : ExpressionCache) :
    (statement.render context left expressions).2.1.Fits layout := by
  have start := RenderState.paired_start members members expressions expressions
  exact (RenderContext.lockstep_render_self fits statement.root _ _ start).2.fitsLeft

/-- A statement renders to the same from all caches under a layout. -/
theorem render_fst_eq (statement : Statement) (context : RenderContext)
    (fits : context.parameter.Fits layout) (fitsLeft : left.Fits layout)
    (fitsRight : right.Fits layout) (leftExpressions rightExpressions : ExpressionCache) :
    (statement.render context left leftExpressions).1 =
      (statement.render context right rightExpressions).1 := by
  have start := RenderState.paired_start fitsLeft fitsRight leftExpressions rightExpressions
  rcases RenderContext.lockstep_render_self fits statement.root _ _ start with ⟨text, ends⟩
  have parameters := ends.parameters
  simp only [render, Node.render, text, parameters]

end Statement

namespace Session

variable {compiled : CompiledMapper} {id : String} {parameter : Accessor}

@[simp]
theorem config_render (session : Session) (compiled : CompiledMapper) (id : String)
    (parameter : Accessor) :
    (session.render compiled id parameter).2.config = session.config := by
  simp only [render]
  cases compiled.mapper.statement? id <;> rfl

theorem fits_render {session : Session} (members : session.members.Fits layout)
    (fits : parameter.Fits layout) :
    (session.render compiled id parameter).2.members.Fits layout := by
  simp only [render]
  cases compiled.mapper.statement? id with
  | none => exact members
  | some statement =>
      exact statement.fits_render { style := compiled.config.style, parameter } fits members
        session.expressions

theorem render_fst_eq {left right : Session} (fitsLeft : left.members.Fits layout)
    (fitsRight : right.members.Fits layout) (fits : parameter.Fits layout) :
    (left.render compiled id parameter).1 = (right.render compiled id parameter).1 := by
  simp only [render]
  cases compiled.mapper.statement? id with
  | none => rfl
  | some statement =>
      have same := statement.render_fst_eq { style := compiled.config.style, parameter } fits
        fitsLeft fitsRight left.expressions right.expressions
      simp only [same]

theorem render_eq_of_error {session : Session} {error : Error}
    (failed : (session.render compiled id parameter).1 = .error error) :
    (session.render compiled id parameter).2 = session := by
  simp only [render] at failed ⊢
  generalize compiled.mapper.statement? id = found at *
  cases found with
  | none => rfl
  | some statement => cases failed

end Session

/-! ### Steps -/

namespace Session

/-- What a session is asked for. -/
inductive Step where
  | compile (source : String)
  /-- Renders a statement of a mapper compiled before, the mappers counted from zero. -/
  | render (number : Nat) (id : String) (parameter : Accessor)

/-- What comes of a step. -/
inductive Outcome where
  | compiled (result : Except Error CompiledMapper)
  | rendered (result : Except Error RenderedSql)
  /-- Fewer mappers have been compiled than the step asks for. -/
  | noMapper

def Outcome.isFailure : Outcome → Bool
  | .compiled result => !result.isOk
  | .rendered result => !result.isOk
  | .noMapper => true

/-- Whether the parameter of a step lists the names of the shapes. -/
def Step.Fits (layout : Layout) : Step → Prop
  | .compile _ => True
  | .render _ _ parameter => parameter.Fits layout

end Session

/-- A session with the mappers that were compiled in it, in order. -/
structure Usage where
  session : Session
  mappers : List CompiledMapper := []

namespace Usage

def fresh (config : Config) : Usage where
  session := .fresh config

def perform (usage : Usage) : Session.Step → Session.Outcome × Usage
  | .compile source =>
    let (result, session) := usage.session.compile source
    (.compiled result, { session, mappers := usage.mappers ++ result.toOption.toList })
  | .render number id parameter =>
    match usage.mappers[number]? with
    | none => (.noMapper, usage)
    | some compiled =>
      let (result, session) := usage.session.render compiled id parameter
      (.rendered result, { usage with session })

theorem perform_render {usage : Usage} {number : Nat} {compiled : CompiledMapper}
    (found : usage.mappers[number]? = some compiled) (id : String) (parameter : Accessor) :
    (usage.perform (.render number id parameter)).1 =
      .rendered (usage.session.render compiled id parameter).1 := by
  simp only [perform, found]

def performAll (usage : Usage) (steps : List Session.Step) : Usage :=
  steps.foldl (fun usage step => (usage.perform step).2) usage

end Usage

namespace Session.Step

/-- The sources of the mappers that steps compile. -/
def compiledSources (config : Config) (steps : List Step) : List String :=
  steps.filterMap fun
    | .compile source => if (SqlMapper.compile config source).isOk then some source else none
    | .render _ _ _ => none

theorem compiledSources_cons (config : Config) (step : Step) (rest : List Step) :
    compiledSources config (step :: rest) =
      compiledSources config [step] ++ compiledSources config rest := by
  have split : step :: rest = [step] ++ rest := rfl
  rw [split, compiledSources, List.filterMap_append]
  rfl

/-- What comes of a step in a session of its own, in which at most the mapper that it renders was
compiled before. -/
def alone (config : Config) (sources : List String) : Step → Outcome
  | .compile source => ((Usage.fresh config).perform (.compile source)).1
  | .render number id parameter =>
    match sources[number]? with
    | none => .noMapper
    | some source =>
      (((Usage.fresh config).perform (.compile source)).2.perform (.render 0 id parameter)).1

end Session.Step

namespace Usage

/-- What holds of a session between steps: its members are those of the layout, and its mappers are
what their sources are compiled to in a session of their own. -/
structure Sound (config : Config) (layout : Layout) (sources : List String) (usage : Usage) : Prop
    where
  sameConfig : usage.session.config = config
  members : usage.session.members.Fits layout
  mappers : usage.mappers.map Except.ok = sources.map (compile config)

variable {config : Config} {sources : List String} {usage : Usage} {step : Session.Step}

theorem sound_fresh (config : Config) (layout : Layout) : Sound config layout [] (fresh config) :=
  ⟨rfl, MemberCache.fits_empty, rfl⟩

namespace Sound

theorem perform (sound : Sound config layout sources usage) (fits : step.Fits layout) :
    Sound config layout (sources ++ Session.Step.compiledSources config [step])
      (usage.perform step).2 := by
  rcases sound with ⟨sameConfig, members, mappers⟩
  cases step with
  | compile source =>
      have result := usage.session.compile_fst source
      rw [sameConfig] at result
      refine ⟨?_, ?_, ?_⟩
      · exact (usage.session.config_compile source).trans sameConfig
      · rw [← usage.session.members_compile source] at members
        exact members
      · simp only [Usage.perform, result, Session.Step.compiledSources, List.map_append, mappers]
        cases outcome : compile config source with
        | error error => simp [outcome, Except.isOk, Except.toBool, Except.toOption]
        | ok compiled => simp [outcome, Except.isOk, Except.toBool, Except.toOption]
  | render number id parameter =>
      have none_compiled :
          Session.Step.compiledSources config [.render number id parameter] = [] := rfl
      rw [none_compiled, List.append_nil]
      simp only [Usage.perform]
      cases usage.mappers[number]? with
      | none => exact ⟨sameConfig, members, mappers⟩
      | some compiled =>
          refine ⟨?_, Session.fits_render members fits, mappers⟩
          exact (usage.session.config_render compiled id parameter).trans sameConfig

/-- The steps of a session keep it sound. -/
theorem performAll {steps : List Session.Step} (sound : Sound config layout sources usage)
    (fits : ∀ step ∈ steps, step.Fits layout) :
    Sound config layout (sources ++ Session.Step.compiledSources config steps)
      (usage.performAll steps) := by
  induction steps generalizing sources usage with
  | nil =>
      rw [Session.Step.compiledSources, List.filterMap_nil, List.append_nil]
      exact sound
  | cons step rest ih =>
      rcases List.forall_mem_cons.1 fits with ⟨fitsStep, fitsRest⟩
      have after := ih (sound.perform fitsStep) fitsRest
      rw [List.append_assoc, ← Session.Step.compiledSources_cons] at after
      exact after

/-- A mapper that a session holds is the one that its source is compiled to. -/
theorem getElem?_mappers (sound : Sound config layout sources usage) (number : Nat) :
    usage.mappers[number]?.map Except.ok = sources[number]?.map (compile config) := by
  have same := congrArg (·[number]?) sound.mappers
  simp only [List.getElem?_map] at same
  exact same

/-- The mapper of a session of its own is the same one. -/
theorem getElem?_alone {source : String} {compiled : CompiledMapper}
    (result : compile config source = .ok compiled) (layout : Layout) :
    let usage := ((fresh config).perform (.compile source)).2
    Sound config layout [source] usage ∧ usage.mappers[0]? = some compiled := by
  intro usage
  have source_compiled : Session.Step.compiledSources config [.compile source] = [source] := by
    simp [Session.Step.compiledSources, result, Except.isOk, Except.toBool]
  have fits : Session.Step.Fits layout (.compile source) := trivial
  have sound := (sound_fresh config layout).perform fits
  rw [List.nil_append, source_compiled] at sound
  have held := sound.getElem?_mappers 0
  rw [List.getElem?_cons_zero, Option.map_some, result] at held
  rcases Option.map_eq_some_iff.1 held with ⟨other, found, same⟩
  cases same
  exact ⟨sound, found⟩

-- The mapper was compiled among other steps, and alone in a session of its own.  Both sessions are
-- sound, so their caches fit one layout and rendering does not tell them apart.
theorem outcome (sound : Sound config layout sources usage) (fits : step.Fits layout) :
    (usage.perform step).1 = step.alone config sources := by
  cases step with
  | compile source =>
      have result := usage.session.compile_fst source
      rw [sound.sameConfig] at result
      exact congrArg Session.Outcome.compiled result
  | render number id parameter =>
      have same := sound.getElem?_mappers number
      simp only [Session.Step.alone]
      cases known : sources[number]? with
      | none =>
          rw [known] at same
          simp only [Usage.perform, Option.map_eq_none_iff.1 same]
      | some source =>
          rw [known, Option.map_some] at same
          rcases Option.map_eq_some_iff.1 same with ⟨compiled, found, result⟩
          rcases getElem?_alone result.symm layout with ⟨soundAlone, foundAlone⟩
          dsimp only
          rw [perform_render found, perform_render foundAlone,
            Session.render_fst_eq sound.members soundAlone.members fits]

end Sound

theorem perform_eq_of_isFailure (usage : Usage) (step : Session.Step)
    (failed : (usage.perform step).1.isFailure) : (usage.perform step).2 = usage := by
  cases step with
  | compile source =>
      simp only [perform] at failed ⊢
      cases result : (usage.session.compile source).1 with
      | error error =>
          have kept := Session.compile_eq_of_error result
          simp [kept, Except.toOption]
      | ok compiled =>
          rw [result] at failed
          cases failed
  | render number id parameter =>
      simp only [perform] at failed ⊢
      cases found : usage.mappers[number]? with
      | none => rfl
      | some compiled =>
          simp only [found] at failed
          cases result : (usage.session.render compiled id parameter).1 with
          | error error =>
              have kept := Session.render_eq_of_error result
              simp [kept]
          | ok rendered =>
              rw [result] at failed
              cases failed

/-- Every step after others comes out as in a session of its own, if there is a layout that all
parameters fit, and a step that fails leaves the session with its caches as it was. -/
theorem perform_eq_alone (config : Config) (layout : Layout) (earlier : List Session.Step)
    (step : Session.Step) (fits : ∀ taken ∈ earlier ++ [step], taken.Fits layout) :
    let usage := (fresh config).performAll earlier
    (usage.perform step).1 = step.alone config (Session.Step.compiledSources config earlier) ∧
      ((usage.perform step).1.isFailure → (usage.perform step).2 = usage) := by
  intro usage
  rcases List.forall_mem_append.1 fits with ⟨fitsEarlier, fitsStep⟩
  have sound := (sound_fresh config layout).performAll fitsEarlier
  rw [List.nil_append] at sound
  refine ⟨sound.outcome (fitsStep step List.mem_cons_self), ?_⟩
  intro failed
  exact usage.perform_eq_of_isFailure step failed

section Pages

/-- A mapper with one statement. -/
def pagesSource : String :=
  "<mapper namespace=\"pages\"><select id=\"find\">SELECT #\x7btitle\x7d</select></mapper>"

def page (title : String) : Accessor :=
  .ofRecord { shape := some "Page", fields := [("title", .string title)] }

/-- A source that fails to compile, one that does not, and a rendering of its statement. -/
def pageSteps : List Session.Step :=
  [.compile "<mapper", .compile pagesSource, .render 0 "find" (page "Home")]

theorem perform_eq_alone_pages :
    let usage := (fresh {}).performAll pageSteps
    let step := Session.Step.render 0 "find" (page "Contents")
    (usage.perform step).1.isFailure = false ∧ usage.session.members.size = 1 ∧
      (usage.perform step).1 = step.alone {} [pagesSource] := by
  intro usage step
  have sources : Session.Step.compiledSources {} pageSteps = [pagesSource] := by decide +kernel
  have fits (title : String) : (page title).Fits fun _ => ["title"] := by
    have value :
        Value.Fits (fun _ => ["title"]) (.object (some "Page") [("title", .string title)]) := by
      simp [Value.Fits, Value.FieldsFit]
    exact value.accessor
  have fitsSteps : ∀ taken ∈ pageSteps ++ [step], taken.Fits fun _ => ["title"] := by
    simp [pageSteps, step, Session.Step.Fits, fits]
  have isolated := perform_eq_alone {} (fun _ => ["title"]) pageSteps step fitsSteps
  rw [sources] at isolated
  exact ⟨by decide +kernel, by decide +kernel, isolated.1⟩

end Pages

end Usage

end SqlMapper
