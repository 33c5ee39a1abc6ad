import SqlMapper.Proofs.Expression.Reading
import SqlMapper.Render

/-!
# Renderings in lockstep

Two renderings of a template go in lockstep if their parameters agree on whatever the template
reads to decide, to repeat, to bind names or to splice.  They start with different caches and may
bind different values to their marks, as long as what they have bound stays alike; under a layout no
cache changes an answer.
-/

namespace SqlMapper

variable {alike : List BoundParameter → List BoundParameter → Prop} {layout : Layout}
  {paths : List Path}

/-- Two parameters list the same names and hold the same values where paths may begin. -/
structure Accessor.AgreeOn (paths : List Path) (left right : Accessor) : Prop where
  names : left.names = right.names
  count : left.count = right.count
  members : ∀ path ∈ paths, ∀ name, Text.sameIgnoringCase name path.head →
    left.member? name = right.member? name

namespace Accessor.AgreeOn

variable {left right : Accessor} {path : Path}

theorem find? (agree : left.AgreeOn paths right) (known : path ∈ paths) :
    left.find? path.head = right.find? path.head := by
  simp only [Accessor.find?, ← agree.names]
  cases found : resolveName? left.names path.head with
  | none => rfl
  | some name => exact agree.members path known name (sameIgnoringCase_of_resolveName? found)

theorem step? (agree : left.AgreeOn paths right) (known : path ∈ paths) (isLast : Bool) :
    left.step? path.head isLast = right.step? path.head isLast := by
  simp only [Accessor.step?, countOrFind?, agree.find? known, agree.count]

theorem read (agree : left.AgreeOn paths right) (known : path ∈ paths) :
    left.read path.segments = right.read path.segments := by
  simp only [Accessor.read, Path.segments]
  cases path.rest with
  | nil => simp only [follow?, agree.step? known]
  | cons next others => simp only [follow?, agree.step? known]

end Accessor.AgreeOn

theorem Environment.read_eq_of_agreeOn {left right : Environment} {path : Path}
    (scope : right.scope = left.scope) (agree : left.parameter.AgreeOn paths right.parameter)
    (known : path ∈ paths) : left.read path = right.read path := by
  simp only [Environment.read, scope, agree.read known]

namespace Node

mutual

/-- The paths that a template reads other than to bind their values to marks. -/
def readPaths : Node → List Path
  | .text _ | .parameter _ false | .reference _ => []
  | .parameter name true => [.ofPlaceholder name]
  | .condition test children => (Test.parse test).paths ++ readPathsOfAll children
  | .choice branches none => readPathsOfBranches branches
  | .choice branches (some children) => readPathsOfBranches branches ++ readPathsOfAll children
  | .clause _ children | .mixed children => readPathsOfAll children
  | .loop header children => .ofPlaceholder header.collection :: readPathsOfAll children
  | .bind _ value => (Bind.parse value).paths

/-- The paths that templates one after the other read. -/
def readPathsOfAll : List Node → List Path
  | [] => []
  | node :: rest => node.readPaths ++ readPathsOfAll rest

def readPathsOfBranches : List (String × List Node) → List Path
  | [] => []
  | (test, children) :: rest =>
    (Test.parse test).paths ++ readPathsOfAll children ++ readPathsOfBranches rest

end

end Node

/-- Where a rendering reads paths in a state. -/
def RenderContext.environment (context : RenderContext) (state : RenderState) : Environment where
  scope := state.scope
  parameter := context.parameter

/-- Two renderings with the same style, against parameters that agree on paths. -/
structure RenderContext.Peers (layout : Layout) (paths : List Path) (left right : RenderContext) :
    Prop where
  style : right.style = left.style
  agree : left.parameter.AgreeOn paths right.parameter
  fitsLeft : left.parameter.Fits layout
  fitsRight : right.parameter.Fits layout

theorem RenderContext.peers_self {context : RenderContext} (paths : List Path)
    (fits : context.parameter.Fits layout) : Peers layout paths context context :=
  ⟨rfl, ⟨rfl, rfl, fun _ _ _ _ => rfl⟩, fits, fits⟩

theorem MemberCache.fits_empty : MemberCache.Fits layout {} :=
  List.forall_mem_nil _

/-- Two states that have bound the same names to the same values, and parameters that are alike. -/
structure RenderState.Paired (alike : List BoundParameter → List BoundParameter → Prop)
    (layout : Layout) (left right : RenderState) : Prop where
  scope : right.scope = left.scope
  parameters : alike left.parameters right.parameters
  fitsScope : left.scope.Fits layout
  fitsLeft : left.members.Fits layout
  fitsRight : right.members.Fits layout

/-- Two computations that come to the same from paired states and lead to paired states again. -/
def Lockstep {α : Type} (alike : List BoundParameter → List BoundParameter → Prop)
    (layout : Layout) (first second : RenderState → α × RenderState) : Prop :=
  ∀ left right, RenderState.Paired alike layout left right →
    (second right).1 = (first left).1 ∧
      RenderState.Paired alike layout (first left).2 (second right).2

namespace RenderContext.Peers

variable {left right : RenderContext} {leftState rightState : RenderState}

theorem fits_environments (peers : Peers layout paths left right)
    (paired : RenderState.Paired alike layout leftState rightState) :
    (left.environment leftState).Fits layout ∧ (right.environment rightState).Fits layout := by
  refine ⟨⟨paired.fitsScope, peers.fitsLeft⟩, ?_, peers.fitsRight⟩
  have fits := paired.fitsScope
  rw [← paired.scope] at fits
  exact fits

theorem read_eq (peers : Peers layout paths left right)
    (paired : RenderState.Paired alike layout leftState rightState) {path : Path}
    (known : path ∈ paths) :
    (left.environment leftState).read path = (right.environment rightState).read path :=
  Environment.read_eq_of_agreeOn paired.scope peers.agree known

/-- Looking up a path keeps paired, even where it leads to different values. -/
theorem paired_resolve (peers : Peers layout paths left right)
    (paired : RenderState.Paired alike layout leftState rightState) (path : Path) :
    RenderState.Paired alike layout (left.resolve leftState path).2
      (right.resolve rightState path).2 := by
  rcases peers.fits_environments paired with ⟨fitsLeft, fitsRight⟩
  have answerLeft := Environment.answers_resolve paired.fitsLeft fitsLeft path
  have answerRight := Environment.answers_resolve paired.fitsRight fitsRight path
  exact ⟨paired.scope, paired.parameters, paired.fitsScope, answerLeft.fits, answerRight.fits⟩

theorem resolve_eq (peers : Peers layout paths left right)
    (paired : RenderState.Paired alike layout leftState rightState) {path : Path}
    (known : path ∈ paths) :
    (right.resolve rightState path).1 = (left.resolve leftState path).1 ∧
      (left.resolve leftState path).1.Fits layout := by
  rcases peers.fits_environments paired with ⟨fitsLeft, fitsRight⟩
  have answerLeft := (Environment.answers_resolve paired.fitsLeft fitsLeft path).same
  have answerRight := (Environment.answers_resolve paired.fitsRight fitsRight path).same
  constructor
  · exact answerRight.trans ((peers.read_eq paired known).symm.trans answerLeft.symm)
  · have fits := fitsLeft.read path
    rw [← answerLeft] at fits
    exact fits

theorem lockstep_holds (peers : Peers layout paths left right) {test : String}
    (known : (Test.parse test).paths ⊆ paths) :
    Lockstep alike layout (left.holds · test) (right.holds · test) := by
  intro leftState rightState paired
  rcases peers.fits_environments paired with ⟨fitsLeft, fitsRight⟩
  have answerLeft := (Test.parse test).answers_holds paired.fitsLeft fitsLeft
  have answerRight := (Test.parse test).answers_holds paired.fitsRight fitsRight
  have same := (Test.parse test).decide_congr fun path read => peers.read_eq paired (known read)
  simp only [RenderContext.holds, ExpressionCache.test_fst]
  refine ⟨?_, paired.scope, paired.parameters, paired.fitsScope, answerLeft.fits,
    answerRight.fits⟩
  exact answerRight.same.trans (same.symm.trans answerLeft.same.symm)

theorem paired_bindName (peers : Peers layout paths left right) (name : String) {value : String}
    (known : (Bind.parse value).paths ⊆ paths)
    (paired : RenderState.Paired alike layout leftState rightState) :
    RenderState.Paired alike layout (left.bindName leftState name value)
      (right.bindName rightState name value) := by
  rcases peers.fits_environments paired with ⟨fitsLeft, fitsRight⟩
  have answerLeft := (Bind.parse value).answers_evaluate paired.fitsLeft fitsLeft
  have answerRight := (Bind.parse value).answers_evaluate paired.fitsRight fitsRight
  have same := (Bind.parse value).read_congr fun path read => peers.read_eq paired (known read)
  have fits := (Bind.parse value).fits_read fitsLeft
  rw [← answerLeft.same] at fits
  have bound := answerRight.same.trans (same.symm.trans answerLeft.same.symm)
  simp only [RenderContext.bindName_eq]
  refine ⟨?_, paired.parameters, paired.fitsScope.push name fits, answerLeft.fits,
    answerRight.fits⟩
  exact (congrArg (Scope.push · name _) paired.scope).trans
    (congrArg (leftState.scope.push name) bound)

theorem lockstep_splice (peers : Peers layout paths left right) {path : Path}
    (known : path ∈ paths) :
    Lockstep alike layout
      (fun state => ((left.resolve state path).1.toText, (left.resolve state path).2))
      (fun state => ((right.resolve state path).1.toText, (right.resolve state path).2)) := by
  intro leftState rightState paired
  have same := (peers.resolve_eq paired known).1
  exact ⟨by simp only [same], peers.paired_resolve paired path⟩

end RenderContext.Peers

namespace RenderState.Paired

variable {left right : RenderState}

theorem push (paired : Paired alike layout left right) (name : String) {value : Value}
    (fits : value.Fits layout) :
    Paired alike layout { left with scope := left.scope.push name value }
      { right with scope := right.scope.push name value } :=
  ⟨congrArg (Scope.push · name value) paired.scope, paired.parameters,
    paired.fitsScope.push name fits, paired.fitsLeft, paired.fitsRight⟩

theorem enterItem (paired : Paired alike layout left right) (header : Loop) (index : Nat)
    {item : Value} (fits : item.Fits layout) :
    Paired alike layout (RenderContext.enterItem header index item left)
      (RenderContext.enterItem header index item right) := by
  have entered := paired.push header.item fits
  simp only [RenderContext.enterItem, RenderContext.bindIndex]
  cases header.index with
  | none => exact entered
  | some name => exact entered.push name (Value.fits_ofNat index)

theorem leave {leftInner rightInner : RenderState} (outer : Paired alike layout left right)
    (inner : Paired alike layout leftInner rightInner) :
    Paired alike layout (RenderContext.leave left leftInner)
      (RenderContext.leave right rightInner) :=
  ⟨outer.scope, inner.parameters, outer.fitsScope, inner.fitsLeft, inner.fitsRight⟩

end RenderState.Paired

namespace Lockstep

variable {first second firstNext secondNext : RenderState → String × RenderState}

theorem text (content : String) :
    Lockstep alike layout (fun state => (content, state)) (fun state => (content, state)) :=
  fun _ _ paired => ⟨rfl, paired⟩

theorem append (start : Lockstep alike layout first second)
    (next : Lockstep alike layout firstNext secondNext) :
    Lockstep alike layout
      (fun state => ((first state).1 ++ (firstNext (first state).2).1,
        (firstNext (first state).2).2))
      (fun state => ((second state).1 ++ (secondNext (second state).2).1,
        (secondNext (second state).2).2)) := by
  intro left right paired
  rcases start left right paired with ⟨sameStart, pairedStart⟩
  rcases next _ _ pairedStart with ⟨sameNext, pairedNext⟩
  exact ⟨by simp only [sameStart, sameNext], pairedNext⟩

theorem closeScope (inner : Lockstep alike layout first second) :
    Lockstep alike layout (fun state => RenderContext.closeScope state (first state))
      (fun state => RenderContext.closeScope state (second state)) := by
  intro left right paired
  rcases inner left right paired with ⟨same, pairedInner⟩
  exact ⟨same, paired.leave pairedInner⟩

theorem some (inner : Lockstep alike layout first second) :
    Lockstep alike layout (fun state => (Option.some (first state).1, (first state).2))
      (fun state => (Option.some (second state).1, (second state).2)) := by
  intro left right paired
  rcases inner left right paired with ⟨same, pairedInner⟩
  exact ⟨congrArg Option.some same, pairedInner⟩

/-- Both renderings take the same way at a test. -/
theorem decided {α : Type} {firstHolds secondHolds : RenderState → Bool × RenderState}
    {firstThen secondThen firstElse secondElse : RenderState → α × RenderState}
    (test : Lockstep alike layout firstHolds secondHolds)
    (held : Lockstep alike layout firstThen secondThen)
    (failed : Lockstep alike layout firstElse secondElse) :
    Lockstep alike layout
      (fun state =>
        match firstHolds state with
        | (true, state) => firstThen state
        | (false, state) => firstElse state)
      (fun state =>
        match secondHolds state with
        | (true, state) => secondThen state
        | (false, state) => secondElse state) := by
  intro left right paired
  rcases test left right paired with ⟨same, pairedTest⟩
  dsimp only
  generalize firstHolds left = firstOutcome at *
  generalize secondHolds right = secondOutcome at *
  rcases firstOutcome with ⟨firstHeld, firstNext⟩
  rcases secondOutcome with ⟨_, secondNext⟩
  cases same
  cases firstHeld with
  | true => exact held firstNext secondNext pairedTest
  | false => exact failed firstNext secondNext pairedTest

/-- Both renderings fall back, or neither. -/
theorem chosen {firstBranch secondBranch : RenderState → Option String × RenderState}
    (branches : Lockstep alike layout firstBranch secondBranch)
    (fallback : Lockstep alike layout first second) :
    Lockstep alike layout
      (fun state =>
        match firstBranch state with
        | (.some text, state) => (text, state)
        | (none, state) => first state)
      (fun state =>
        match secondBranch state with
        | (.some text, state) => (text, state)
        | (none, state) => second state) := by
  intro left right paired
  rcases branches left right paired with ⟨same, pairedBranches⟩
  dsimp only
  generalize firstBranch left = firstOutcome at *
  generalize secondBranch right = secondOutcome at *
  rcases firstOutcome with ⟨firstTaken, firstNext⟩
  rcases secondOutcome with ⟨_, secondNext⟩
  cases same
  cases firstTaken with
  | some text => exact ⟨rfl, pairedBranches⟩
  | none => exact fallback firstNext secondNext pairedBranches

end Lockstep

theorem Lockstep.forItems {first second : RenderState → String × RenderState}
    (inner : Lockstep alike layout first second) (header : Loop) (items : List Value)
    (fits : ∀ item ∈ items, item.Fits layout) (index : Nat) :
    Lockstep alike layout (fun state => RenderContext.forItems header first index state items)
      (fun state => RenderContext.forItems header second index state items) := by
  induction items generalizing index with
  | nil => exact .text ""
  | cons item rest ih =>
      rcases List.forall_mem_cons.1 fits with ⟨fitsItem, fitsRest⟩
      have passed : Lockstep alike layout
          (fun state => RenderContext.closeScope state
            (first (RenderContext.enterItem header index item state)))
          (fun state => RenderContext.closeScope state
            (second (RenderContext.enterItem header index item state))) := by
        intro left right paired
        rcases inner _ _ (paired.enterItem header index fitsItem) with ⟨same, pairedInner⟩
        exact ⟨same, paired.leave pairedInner⟩
      have separator : Lockstep alike layout
          (fun state => (RenderContext.separatorText header index, state))
          (fun state => (RenderContext.separatorText header index, state)) := .text _
      exact (separator.append passed).append (ih fitsRest (index + 1))

namespace RenderContext

variable {left right : RenderContext}

theorem lockstep_loop (peers : Peers layout paths left right) (header : Loop)
    (known : .ofPlaceholder header.collection ∈ paths)
    {first second : RenderState → String × RenderState}
    (inner : Lockstep alike layout first second) :
    Lockstep alike layout
      (fun state =>
        let (collection, state) := left.resolve state (.ofPlaceholder header.collection)
        match collection.items? with
        | none => ("", state)
        | some items =>
          let (text, state) := forItems header first 0 state items
          (header.opening.getD "" ++ text ++ header.closing.getD "", state))
      (fun state =>
        let (collection, state) := right.resolve state (.ofPlaceholder header.collection)
        match collection.items? with
        | none => ("", state)
        | some items =>
          let (text, state) := forItems header second 0 state items
          (header.opening.getD "" ++ text ++ header.closing.getD "", state)) := by
  intro leftState rightState paired
  have pairedResolved := peers.paired_resolve paired (.ofPlaceholder header.collection)
  rcases peers.resolve_eq paired known with ⟨same, fits⟩
  dsimp only
  rw [same]
  generalize (left.resolve leftState (.ofPlaceholder header.collection)).1 = collection at *
  cases listed : collection.items? with
  | none => exact ⟨rfl, pairedResolved⟩
  | some items =>
      have passes := inner.forItems header items (fits.items listed) 0
      rcases passes _ _ pairedResolved with ⟨sameTexts, pairedPasses⟩
      exact ⟨by simp only [sameTexts], pairedPasses⟩

/-- Writes the mark for the value of a path. -/
def markPath (context : RenderContext) (state : RenderState) (path : Path) : String × RenderState :=
  context.mark (context.resolve state path).2 (context.resolve state path).1

mutual

/-- Renderings go in lockstep if they do so at every mark: only there is a value read that may
differ. -/
theorem lockstep_render_of_marks (peers : Peers layout paths left right)
    (marks : ∀ path, Lockstep alike layout (left.markPath · path) (right.markPath · path)) :
    (node : Node) → node.readPaths ⊆ paths →
    Lockstep alike layout (left.render · node) (right.render · node)
  | .text content, _ => .text content
  | .parameter name false, _ => marks (.ofPlaceholder name)
  | .parameter name true, known => peers.lockstep_splice (known (List.mem_singleton.2 rfl))
  | .condition test children, known => by
      rcases List.append_subset.1 known with ⟨knownTest, knownChildren⟩
      have inner := lockstep_renderAll_of_marks peers marks children knownChildren
      exact (peers.lockstep_holds knownTest).decided inner.closeScope (.text "")
  | .choice branches none, known =>
      (lockstep_renderBranches_of_marks peers marks branches known).chosen (.text "")
  | .choice branches (some children), known => by
      rcases List.append_subset.1 known with ⟨knownBranches, knownChildren⟩
      have taken := lockstep_renderBranches_of_marks peers marks branches knownBranches
      have fallback := lockstep_renderAll_of_marks peers marks children knownChildren
      exact taken.chosen fallback.closeScope
  | .clause kind children, known => by
      have inner := (lockstep_renderAll_of_marks peers marks children known).closeScope
      intro leftState rightState paired
      rcases inner leftState rightState paired with ⟨same, pairedInner⟩
      exact ⟨congrArg kind.wrap same, pairedInner⟩
  | .loop header children, known => by
      rcases List.cons_subset.1 known with ⟨knownCollection, knownChildren⟩
      exact lockstep_loop peers header knownCollection
        (lockstep_renderAll_of_marks peers marks children knownChildren)
  | .bind name value, known =>
      fun _ _ paired => ⟨rfl, peers.paired_bindName name known paired⟩
  | .reference fragment, _ => .text ""
  | .mixed children, known => lockstep_renderAll_of_marks peers marks children known
termination_by structural node => node

theorem lockstep_renderAll_of_marks (peers : Peers layout paths left right)
    (marks : ∀ path, Lockstep alike layout (left.markPath · path) (right.markPath · path)) :
    (nodes : List Node) → Node.readPathsOfAll nodes ⊆ paths →
    Lockstep alike layout (left.renderAll · nodes) (right.renderAll · nodes)
  | [], _ => .text ""
  | node :: rest, known => by
      rcases List.append_subset.1 known with ⟨knownFirst, knownRest⟩
      exact (lockstep_render_of_marks peers marks node knownFirst).append
        (lockstep_renderAll_of_marks peers marks rest knownRest)
termination_by structural nodes => nodes

theorem lockstep_renderBranches_of_marks (peers : Peers layout paths left right)
    (marks : ∀ path, Lockstep alike layout (left.markPath · path) (right.markPath · path)) :
    (branches : List (String × List Node)) → Node.readPathsOfBranches branches ⊆ paths →
    Lockstep alike layout (left.renderBranches · branches) (right.renderBranches · branches)
  | [], _ => fun _ _ paired => ⟨rfl, paired⟩
  | (test, children) :: rest, known => by
      rcases List.append_subset.1 known with ⟨knownBranch, knownRest⟩
      rcases List.append_subset.1 knownBranch with ⟨knownTest, knownChildren⟩
      have inner := (lockstep_renderAll_of_marks peers marks children knownChildren).closeScope
      have others := lockstep_renderBranches_of_marks peers marks rest knownRest
      exact (peers.lockstep_holds knownTest).decided inner.some others
termination_by structural branches => branches

end

end RenderContext

end SqlMapper
