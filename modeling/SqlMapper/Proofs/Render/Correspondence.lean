import SqlMapper.Proofs.Render.Filling
import SqlMapper.Proofs.Render.Provenance

/-!
# Markers correspond to parameters

A rendering in any style makes the decisions of the rendering with question marks and binds the same
parameters, since the style enters nothing but the text.  If neither the fixed texts nor the spliced
values hold a question mark, every question mark is the marker of a parameter, and the text of the
other style is that text with its own markers filled in.
-/

namespace SqlMapper

variable {style : MarkerStyle}

/-- Whether parameters are named by their numbers. -/
def BoundParameter.AreNumbered (parameters : List BoundParameter) : Prop :=
  parameters.map (·.name) = (List.range parameters.length).map nameOf

theorem BoundParameter.AreNumbered.bindNext {parameters : List BoundParameter}
    (numbered : AreNumbered parameters) (style : MarkerStyle) (value : Value) :
    AreNumbered (bindNext style parameters value).2 := by
  rw [AreNumbered] at numbered
  rw [SqlMapper.bindNext, AreNumbered, List.length_append, List.length_singleton, List.range_succ,
    List.map_append, List.map_append, numbered]
  rfl

namespace RenderContext

/-- The context with another style of markers. -/
def inStyle (context : RenderContext) (style : MarkerStyle) : RenderContext :=
  { context with style }

variable (context : RenderContext)

@[simp]
theorem resolve_inStyle (style : MarkerStyle) (state : RenderState) (path : Path) :
    (context.inStyle style).resolve state path = context.resolve state path := rfl

@[simp]
theorem holds_inStyle (style : MarkerStyle) (state : RenderState) (test : String) :
    (context.inStyle style).holds state test = context.holds state test := rfl

theorem parameters_resolve (state : RenderState) (path : Path) :
    (context.resolve state path).2.parameters = state.parameters := rfl

theorem parameters_holds (state : RenderState) (test : String) :
    (context.holds state test).2.parameters = state.parameters := rfl

end RenderContext

/-- What is written with question marks from a state on, and what is written in another style: the
states are the same, and every question mark is the marker of a parameter bound since. -/
structure Corresponds (style : MarkerStyle) (before : RenderState)
    (plain styled : String × RenderState) : Prop where
  text : styled.1 = style.fillText before.parameters.length plain.1
  state : styled.2 = plain.2
  count : plain.2.parameters.length = before.parameters.length + markCount plain.1
  numbered : BoundParameter.AreNumbered before.parameters →
    BoundParameter.AreNumbered plain.2.parameters

namespace Corresponds

variable {before after : RenderState} {plain styled plainNext styledNext : String × RenderState}

theorem of_unmarked {text : String} (unmarked : Unmarked text)
    (same : after.parameters = before.parameters) :
    Corresponds style before (text, after) (text, after) where
  text := (style.fillText_eq_self _ unmarked).symm
  state := rfl
  count := by rw [same, unmarked.markCount, Nat.add_zero]
  numbered := by
    intro numbered
    rw [same]
    exact numbered

theorem from_parameters {entered : RenderState} (same : entered.parameters = before.parameters)
    (corresponds : Corresponds style entered plain styled) :
    Corresponds style before plain styled := by
  rcases corresponds with ⟨text, state, count, numbered⟩
  rw [same] at text count numbered
  exact ⟨text, state, count, numbered⟩

theorem append (first : Corresponds style before plain styled)
    (next : Corresponds style plain.2 plainNext styledNext) :
    Corresponds style before (plain.1 ++ plainNext.1, plainNext.2)
      (styled.1 ++ styledNext.1, styledNext.2) where
  text := by rw [style.fillText_append, ← first.count, first.text, next.text]
  state := next.state
  count := by rw [next.count, first.count, markCount_append, Nat.add_assoc]
  numbered := fun numbered => next.numbered (first.numbered numbered)

theorem closeScope (corresponds : Corresponds style before plain styled) (outer : RenderState) :
    Corresponds style before (RenderContext.closeScope outer plain)
      (RenderContext.closeScope outer styled) where
  text := corresponds.text
  state := congrArg (RenderContext.leave outer) corresponds.state
  count := corresponds.count
  numbered := corresponds.numbered

/-- Mending the body of a clause neither loses marks nor takes other text for them. -/
theorem wrap (corresponds : Corresponds style before plain styled) (kind : Clause) :
    Corresponds style before (kind.wrap plain.1, plain.2) (kind.wrap styled.1, styled.2) where
  text := by rw [corresponds.text, kind.fillText_wrap]
  state := corresponds.state
  count := by rw [kind.markCount_wrap, corresponds.count]
  numbered := corresponds.numbered

theorem mark (context : RenderContext) (asks : context.style = .question) (value : Value)
    (same : after.parameters = before.parameters) :
    Corresponds style before (context.mark after value)
      ((context.inStyle style).mark after value) := by
  simp only [RenderContext.mark, RenderContext.inStyle, bindNext, asks]
  constructor
  · rw [same]
    exact (style.fillText_mark before.parameters.length).symm
  · rfl
  · have one : markCount "?" = 1 := by decide
    rw [same, List.length_append]
    exact congrArg (before.parameters.length + ·) one.symm
  · intro numbered
    rw [same]
    exact numbered.bindNext .question value

end Corresponds

/-- `Corresponds` for branches, one of which may be taken. -/
inductive BranchCorresponds (style : MarkerStyle) (before : RenderState) :
    Option String × RenderState → Option String × RenderState → Prop where
  | skipped {after : RenderState} (same : after.parameters = before.parameters) :
      BranchCorresponds style before (none, after) (none, after)
  | taken {plain styled : String × RenderState}
      (corresponds : Corresponds style before plain styled) :
      BranchCorresponds style before (some plain.1, plain.2) (some styled.1, styled.2)

theorem BranchCorresponds.from_parameters {before entered : RenderState}
    {plain styled : Option String × RenderState} (same : entered.parameters = before.parameters)
    (corresponds : BranchCorresponds style entered plain styled) :
    BranchCorresponds style before plain styled := by
  cases corresponds with
  | skipped kept => exact .skipped (kept.trans same)
  | taken corresponds => exact .taken (corresponds.from_parameters same)

namespace RenderContext

section Loop

variable {header : Loop} {body styledBody : RenderState → String × RenderState}
  {reached : RenderState → List Substitution}

@[simp]
theorem parameters_enterItem (header : Loop) (index : Nat) (item : Value) (state : RenderState) :
    (enterItem header index item state).parameters = state.parameters := by
  simp only [enterItem, bindIndex]
  cases header.index <;> rfl

theorem unmarked_getD {fixed : Option String} (unmarked : ∀ text ∈ fixed.toList, Unmarked text) :
    Unmarked (fixed.getD "") := by
  cases fixed with
  | none => exact unmarked_empty
  | some text => exact unmarked text (by simp)

theorem unmarked_separatorText (unmarked : ∀ literal ∈ header.literals, Unmarked literal)
    (index : Nat) : Unmarked (separatorText header index) := by
  simp only [separatorText]
  split
  · exact unmarked_empty
  · apply unmarked_getD
    intro text member
    exact unmarked text (List.mem_append_right _ member)

/-- The passes of a loop correspond if its body does, whatever state a pass begins with. -/
theorem corresponds_forItems (unmarked : ∀ literal ∈ header.literals, Unmarked literal)
    (inner : ∀ state, (∀ substitution ∈ reached state, Unmarked substitution.value.toText) →
      Corresponds style state (body state) (styledBody state))
    (items : List Value) (index : Nat) (state : RenderState)
    (spliced : ∀ substitution ∈ reachedItems header body reached index state items,
      Unmarked substitution.value.toText) :
    Corresponds style state (forItems header body index state items)
      (forItems header styledBody index state items) := by
  induction items generalizing index state with
  | nil => exact .of_unmarked unmarked_empty rfl
  | cons item rest ih =>
      rcases List.forall_mem_append.1 spliced with ⟨splicedItem, splicedRest⟩
      have between : Corresponds style state (separatorText header index, state)
          (separatorText header index, state) :=
        .of_unmarked (unmarked_separatorText unmarked index) rfl
      have entered := inner (enterItem header index item state) splicedItem
      have sameParameters := parameters_enterItem header index item state
      have pass := (entered.from_parameters sameParameters).closeScope state
      have others := ih (index + 1) _ splicedRest
      simp only [forItems]
      rw [entered.state]
      exact (between.append pass).append others

theorem corresponds_edges {before : RenderState} {plain styled : String × RenderState}
    (unmarked : ∀ literal ∈ header.literals, Unmarked literal)
    (corresponds : Corresponds style before plain styled) :
    Corresponds style before
      (header.opening.getD "" ++ plain.1 ++ header.closing.getD "", plain.2)
      (header.opening.getD "" ++ styled.1 ++ header.closing.getD "", styled.2) := by
  have edges := (List.forall_mem_append.1 unmarked).1
  rcases List.forall_mem_append.1 edges with ⟨opening, closing⟩
  have opened : Corresponds style before (header.opening.getD "", before)
      (header.opening.getD "", before) := .of_unmarked (unmarked_getD opening) rfl
  have closed : Corresponds style plain.2 (header.closing.getD "", plain.2)
      (header.closing.getD "", plain.2) := .of_unmarked (unmarked_getD closing) rfl
  rw [corresponds.state]
  exact (opened.append corresponds).append closed

end Loop

-- The induction is on the tree.  It is stated for every state, because tests, collections and earlier
-- nodes change the caches and the parameters before a node is rendered.
mutual

theorem corresponds_render (context : RenderContext) (asks : context.style = .question)
    (style : MarkerStyle) (state : RenderState) : (node : Node) →
    (∀ literal ∈ node.literals, Unmarked literal) →
    (∀ substitution ∈ context.reached state node, Unmarked substitution.value.toText) →
    Corresponds style state (context.render state node)
      ((context.inStyle style).render state node)
  | .text content, unmarked, _ => .of_unmarked (unmarked content (List.mem_singleton.2 rfl)) rfl
  | .parameter name false, _, _ => .mark context asks _ rfl
  | .parameter name true, _, spliced => .of_unmarked (spliced _ (List.mem_singleton.2 rfl)) rfl
  | .condition test children, unmarked, spliced => by
      have inner (state : RenderState) :=
        corresponds_renderAll context asks style state children unmarked
      have sameTest := context.parameters_holds state test
      simp only [render, reached, holds_inStyle] at spliced ⊢
      generalize context.holds state test = outcome at *
      rcases outcome with ⟨_ | _, next⟩
      · exact .of_unmarked unmarked_empty sameTest
      · exact ((inner next spliced).closeScope next).from_parameters sameTest
  | .choice branches none, unmarked, spliced => by
      have choice := corresponds_renderBranches context asks style state branches unmarked spliced
      simp only [render]
      generalize context.renderBranches state branches = plain at *
      generalize (context.inStyle style).renderBranches state branches = styled at *
      cases choice with
      | skipped same => exact .of_unmarked unmarked_empty same
      | taken corresponds => exact corresponds
  | .choice branches (some children), unmarked, spliced => by
      rcases List.forall_mem_append.1 unmarked with ⟨unmarkedBranches, unmarkedChildren⟩
      simp only [reached] at spliced
      rcases List.forall_mem_append.1 spliced with ⟨splicedBranches, splicedChildren⟩
      have choice := corresponds_renderBranches context asks style state branches unmarkedBranches
        splicedBranches
      have fallback (state : RenderState) :=
        corresponds_renderAll context asks style state children unmarkedChildren
      simp only [render]
      generalize context.renderBranches state branches = plain at *
      generalize (context.inStyle style).renderBranches state branches = styled at *
      cases choice with
      | taken corresponds => exact corresponds
      | @skipped next same =>
          exact ((fallback next splicedChildren).closeScope next).from_parameters same
  | .clause kind children, unmarked, spliced =>
      have inner := corresponds_renderAll context asks style state children unmarked spliced
      (inner.closeScope state).wrap kind
  | .loop header children, unmarked, spliced => by
      rcases List.forall_mem_append.1 unmarked with ⟨unmarkedHeader, unmarkedChildren⟩
      have inner (state : RenderState) :=
        corresponds_renderAll context asks style state children unmarkedChildren
      have sameCollection := context.parameters_resolve state (.ofPlaceholder header.collection)
      simp only [render, reached, resolve_inStyle] at spliced ⊢
      generalize context.resolve state (.ofPlaceholder header.collection) = resolved at *
      rcases resolved with ⟨collection, next⟩
      dsimp only at spliced sameCollection ⊢
      cases listed : collection.items? with
      | none => exact .of_unmarked unmarked_empty sameCollection
      | some items =>
          rw [listed] at spliced
          have passes := corresponds_forItems unmarkedHeader inner items 0 next spliced
          exact (corresponds_edges unmarkedHeader passes).from_parameters sameCollection
  | .bind name value, _, _ => .of_unmarked unmarked_empty rfl
  | .reference fragment, _, _ => .of_unmarked unmarked_empty rfl
  | .mixed children, unmarked, spliced =>
      corresponds_renderAll context asks style state children unmarked spliced
termination_by structural node => node

theorem corresponds_renderAll (context : RenderContext) (asks : context.style = .question)
    (style : MarkerStyle) (state : RenderState) : (nodes : List Node) →
    (∀ literal ∈ Node.literalsOfAll nodes, Unmarked literal) →
    (∀ substitution ∈ context.reachedAll state nodes, Unmarked substitution.value.toText) →
    Corresponds style state (context.renderAll state nodes)
      ((context.inStyle style).renderAll state nodes)
  | [], _, _ => .of_unmarked unmarked_empty rfl
  | node :: rest, unmarked, spliced => by
      rcases List.forall_mem_append.1 unmarked with ⟨unmarkedFirst, unmarkedRest⟩
      rcases List.forall_mem_append.1 spliced with ⟨splicedFirst, splicedRest⟩
      have first := corresponds_render context asks style state node unmarkedFirst splicedFirst
      have others := corresponds_renderAll context asks style _ rest unmarkedRest splicedRest
      simp only [renderAll]
      rw [first.state]
      exact first.append others
termination_by structural nodes => nodes

theorem corresponds_renderBranches (context : RenderContext) (asks : context.style = .question)
    (style : MarkerStyle) (state : RenderState) : (branches : List (String × List Node)) →
    (∀ literal ∈ Node.literalsOfBranches branches, Unmarked literal) →
    (∀ substitution ∈ context.reachedBranches state branches,
      Unmarked substitution.value.toText) →
    BranchCorresponds style state (context.renderBranches state branches)
      ((context.inStyle style).renderBranches state branches)
  | [], _, _ => .skipped rfl
  | (test, children) :: rest, unmarked, spliced => by
      rcases List.forall_mem_append.1 unmarked with ⟨unmarkedChildren, unmarkedRest⟩
      have inner (state : RenderState) :=
        corresponds_renderAll context asks style state children unmarkedChildren
      have others (state : RenderState) :=
        corresponds_renderBranches context asks style state rest unmarkedRest
      have sameTest := context.parameters_holds state test
      simp only [renderBranches, reachedBranches, holds_inStyle] at spliced ⊢
      generalize context.holds state test = outcome at *
      rcases outcome with ⟨_ | _, next⟩
      · exact (others next spliced).from_parameters sameTest
      · exact .taken (((inner next spliced).closeScope next).from_parameters sameTest)
termination_by structural branches => branches

end

end RenderContext

namespace RenderedSql

/-- Whether every question mark stands for a parameter, and the parameters are named by their
numbers. -/
structure MarksParameters (rendered : RenderedSql) : Prop where
  count : markCount rendered.sql = rendered.parameters.length
  numbered : BoundParameter.AreNumbered rendered.parameters

/-- SQL with the same parameters, in which its marker stands for each question mark. -/
structure Restyles (style : MarkerStyle) (plain styled : RenderedSql) : Prop where
  parameters : styled.parameters = plain.parameters
  sql : styled.sql = style.fillText 0 plain.sql

variable {plain styled : RenderedSql}

theorem MarksParameters.finish (marks : plain.MarksParameters) :
    (finish plain.sql plain.parameters).MarksParameters :=
  ⟨(KeepsMarks.trim.markCount plain.sql).trans marks.count, marks.numbered⟩

theorem Restyles.finish (restyles : Restyles style plain styled) :
    Restyles style (finish plain.sql plain.parameters) (finish styled.sql styled.parameters) := by
  refine ⟨restyles.parameters, ?_⟩
  rw [RenderedSql.finish, restyles.sql]
  exact KeepsMarks.trim.fillText style 0 plain.sql

end RenderedSql

section Directory

end Directory

end SqlMapper
