import SqlMapper.Proofs.Generated.Loop

/-!
# Generated functions render

Running the function of a statement gives what rendering the statement gives, unless a guard refuses
a raw substitution that the rendering reaches.
-/

namespace SqlMapper.Generated

section Simulation

variable (context : RunContext) (trusts : String → Bool)

mutual

theorem simulates_generate (buffer : Buffer) (generation : Generation) : (node : Node) →
    Simulates context trusts buffer generation (generate trusts buffer generation node).2
      (generate trusts buffer generation node).1 (context.rendering.render · node)
      (context.rendering.reached · node)
  | .text content => simulates_text content
  | .parameter name false => simulates_mark (.ofPlaceholder name)
  | .parameter name true => simulates_splice name
  | .condition test children => by
      have body := simulates_generateAll buffer generation children
      let after := generation.leave (generateAll trusts buffer generation children).2
      have ordered : generation.next ≤ after.next := body.ordered
      -- A condition is a choice with one branch.
      have taken := SimulatesBranches.cons test body.block ordered rfl SimulatesBranches.nil
      refine taken.choice.congr (fun state => ?_) (fun state => ?_)
      · rcases decided : context.rendering.holds state test with ⟨_ | _, next⟩ <;>
          simp only [RenderContext.render, decided]
      · rcases decided : context.rendering.holds state test with ⟨_ | _, next⟩ <;>
          simp only [RenderContext.reached, decided]
  | .choice branches none => by
      have taken := simulates_generateBranches buffer generation branches
      exact taken.choice
  | .choice branches (some children) => by
      have taken := simulates_generateBranches buffer generation branches
      have fallback := simulates_generateAll buffer
        (generateBranches trusts buffer generation branches).2 children
      exact taken.choice_fallback fallback.block fallback.ordered rfl
  | .clause kind children =>
      Simulates.clause kind (simulates_generateAll _ _ children)
  | .loop header children =>
      Simulates.loop (simulates_generateAll buffer _ children)
  | .bind name value => simulates_bind name value
  | .reference fragment => simulates_remark fragment
  | .mixed children => simulates_generateAll buffer generation children
termination_by structural node => node

theorem simulates_generateAll (buffer : Buffer) (generation : Generation) : (nodes : List Node) →
    Simulates context trusts buffer generation (generateAll trusts buffer generation nodes).2
      (generateAll trusts buffer generation nodes).1 (context.rendering.renderAll · nodes)
      (context.rendering.reachedAll · nodes)
  | [] => Simulates.nil
  | node :: rest =>
      (simulates_generate buffer generation node).append (simulates_generateAll buffer _ rest)
termination_by structural nodes => nodes

theorem simulates_generateBranches (buffer : Buffer) (generation : Generation) :
    (branches : List (String × List Node)) →
    SimulatesBranches context trusts buffer generation
      (generateBranches trusts buffer generation branches).2
      (generateBranches trusts buffer generation branches).1
      (context.rendering.renderBranches · branches) (context.rendering.reachedBranches · branches)
  | [] => SimulatesBranches.nil
  | (test, children) :: rest => by
      have body := simulates_generateAll buffer generation children
      let middle := generation.leave (generateAll trusts buffer generation children).2
      have ordered : generation.next ≤ middle.next := body.ordered
      have others := simulates_generateBranches buffer middle rest
      exact SimulatesBranches.cons test body.block ordered rfl others
termination_by structural branches => branches

end

end Simulation

theorem tracks_start (members : MemberCache) (expressions : ExpressionCache) :
    Tracks {} { members, expressions } { members } where
  parameters := rfl
  members := rfl
  represents := .nil
  older := by simp

section Statement

variable (config : Config) (mapper : Mapper) (name : String) (statement : Statement)
  (style : MarkerStyle) (parameter : Accessor) (members : MemberCache)
  (expressions : ExpressionCache)

/-- A function does what rendering does and asks the guards on its way. -/
theorem run_eq_askGuards :
    let context : RenderContext := { style, parameter }
    let rendered := statement.render context members expressions
    ∃ result : RenderedSql × MemberCache,
      (ofStatement config mapper name statement).run style parameter members =
        (do
          askGuards (config.trusts statement.id) (mapper.qualify statement.id)
            (statement.reached context members expressions)
          .ok result) ∧
      result.1.dropZeroSign = rendered.1.dropZeroSign ∧ result.2 = rendered.2.1 := by
  intro context rendered
  let running : RunContext := { style, parameter, statement := mapper.qualify statement.id }
  have simulates := simulates_generate running (config.trusts statement.id) .output {} statement.root
  rcases simulates.follows _ _ (tracks_start members expressions) trivial
    with ⟨result, ran, tracks, wrote⟩
  refine ⟨(.finish result.sql result.parameters, result.members), ?_, ?_, tracks.members⟩
  · simp only [Function.run, ofStatement]
    rw [ran, bind_assoc]
    rfl
  · have sql : result.sql = (context.render { members, expressions } statement.root).1 := by
      have written := wrote.sql
      simp only [RunState.appendTo, String.empty_append] at written
      exact written
    simp only [RenderedSql.dropZeroSign, RenderedSql.finish, sql, tracks.parameters]
    rfl

/-- The function of a statement comes to the rendering of the statement, with the same members in
the cache, unless a raw substitution is reached that is neither trusted nor a checked identifier: the
first of these is refused.  Nothing else stops it.  Texts, names, kinds, digits and places of values
are the same; the sign of a decimal zero, which no comparison sees, is left out, since a constant in
a function is written by its units. -/
theorem run_ofStatement :
    let context : RenderContext := { style, parameter }
    let rendered := statement.render context members expressions
    let refused := (statement.reached context members expressions).findSome?
      (·.violation? (config.trusts statement.id) (mapper.qualify statement.id))
    ((ofStatement config mapper name statement).run style parameter members).map
        (fun result => (result.1.dropZeroSign, result.2)) =
      match refused with
      | none => .ok (rendered.1.dropZeroSign, rendered.2.1)
      | some violation => .error (.refused violation) := by
  intro context rendered refused
  rcases run_eq_askGuards config mapper name statement style parameter members expressions
    with ⟨result, ran, sameRendered, sameMembers⟩
  have asked : askGuards (config.trusts statement.id) (mapper.qualify statement.id)
      (statement.reached context members expressions) =
      match refused with
      | none => .ok ()
      | some violation => .error (.refused violation) := rfl
  rw [ran, asked]
  cases refused with
  | none => exact congrArg Except.ok (Prod.ext sameRendered sameMembers)
  | some violation => rfl

end Statement

end SqlMapper.Generated
