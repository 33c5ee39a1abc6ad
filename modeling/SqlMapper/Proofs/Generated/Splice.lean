import SqlMapper.Generated.FromTemplate
import SqlMapper.Generated.Splice
import SqlMapper.Proofs.Analysis.Substitutions
import Mathlib.Data.List.Forall2
import Mathlib.Data.List.Nodup

/-!
# Splices and findings

Generated functions and the analysis of raw substitutions each walk through the template on their own.
Both come to every raw placeholder, in the order of the tree, and both leave out those that are declared
checked identifiers; the analysis leaves out constants as well.
-/

namespace SqlMapper

namespace Node

mutual

/-- The nodes of a tree in the order of its source, each in front of what stands below it. -/
def preorder : Node → List Node
  | .text content => [.text content]
  | .parameter name raw => [.parameter name raw]
  | .bind name value => [.bind name value]
  | .reference fragment => [.reference fragment]
  | .condition test children => .condition test children :: preorderOfAll children
  | .choice branches none => .choice branches none :: preorderOfBranches branches
  | .choice branches (some children) =>
    .choice branches (some children) :: preorderOfBranches branches ++ preorderOfAll children
  | .clause kind children => .clause kind children :: preorderOfAll children
  | .loop header children => .loop header children :: preorderOfAll children
  | .mixed children => .mixed children :: preorderOfAll children

def preorderOfAll : List Node → List Node
  | [] => []
  | node :: rest => node.preorder ++ preorderOfAll rest

def preorderOfBranches : List (String × List Node) → List Node
  | [] => []
  | (_, children) :: rest => preorderOfAll children ++ preorderOfBranches rest

end

/-- The name in a raw placeholder. -/
def rawName? : Node → Option String
  | .parameter name true => some name
  | _ => none

/-- The names in the raw placeholders of a tree, in its order. -/
def rawParameters (root : Node) : List String :=
  root.preorder.filterMap rawName?

/-- The path that is substituted by what occurs in a template. -/
def Event.rawPath? : Event → Option String
  | .parameter name true => some (Path.ofPlaceholder name).toText
  | _ => none

/-- The path that a raw placeholder substitutes. -/
def rawPath? (node : Node) : Option String :=
  node.rawName?.map fun name => (Path.ofPlaceholder name).toText

mutual

theorem filterMap_events : (node : Node) →
    node.events.filterMap Event.rawPath? = node.preorder.filterMap rawPath?
  | .text _ | .parameter _ false | .parameter _ true | .bind _ _ | .reference _ => rfl
  | .condition test children => filterMap_eventsOfAll children
  | .choice branches none => filterMap_eventsOfBranches branches
  | .choice branches (some children) => by
      have inBranches := filterMap_eventsOfBranches branches
      have inFallback := filterMap_eventsOfAll children
      simp [events, preorder, List.filterMap_cons, rawPath?, rawName?, inBranches, inFallback]
  | .clause kind children => filterMap_eventsOfAll children
  | .loop header children => filterMap_eventsOfAll children
  | .mixed children => filterMap_eventsOfAll children

theorem filterMap_eventsOfAll : (nodes : List Node) →
    (eventsOfAll nodes).filterMap Event.rawPath? = (preorderOfAll nodes).filterMap rawPath?
  | [] => rfl
  | node :: rest => by
      simp [eventsOfAll, preorderOfAll, filterMap_events node, filterMap_eventsOfAll rest]

theorem filterMap_eventsOfBranches : (branches : List (String × List Node)) →
    (eventsOfBranches branches).filterMap Event.rawPath? =
      (preorderOfBranches branches).filterMap rawPath?
  | [] => rfl
  | (test, children) :: rest => by
      have first := filterMap_eventsOfAll children
      have later := filterMap_eventsOfBranches rest
      simp [eventsOfBranches, preorderOfBranches, List.filterMap_cons, Event.rawPath?, first, later]

end

/-- The analysis comes to every raw placeholder of a tree. -/
theorem rawPaths_eq (root : Node) :
    root.rawPaths = root.rawParameters.map fun name => (Path.ofPlaceholder name).toText := by
  rw [rawParameters, List.map_filterMap]
  exact filterMap_events root

end Node

namespace Generated

variable {trusts : String → Bool} {buffer : Buffer}

/-- How a path is spliced. -/
def Splice.ofPath (trusts : String → Bool) (path : String) : Splice :=
  if trusts path then .trusted else .guarded path

/-- How the raw placeholder that a node may be is spliced. -/
def Splice.ofNode? (trusts : String → Bool) (node : Node) : Option Splice :=
  node.rawPath?.map (Splice.ofPath trusts)

@[simp]
theorem Code.splicesOfAll_append (first second : List Code) :
    Code.splicesOfAll (first ++ second) = Code.splicesOfAll first ++ Code.splicesOfAll second := by
  induction first with
  | nil => rfl
  | cons code rest ih => simp [Code.splicesOfAll, ih]

theorem splices_spliceCode (locals : Scope Variable) (name : String) :
    Code.splices (spliceCode trusts buffer locals name) =
      [Splice.ofPath trusts (Path.ofPlaceholder name).toText] := by
  unfold spliceCode Splice.ofPath
  dsimp only
  split <;> rfl

theorem splices_separatorCode (header : Loop) (counter : Variable) :
    Code.splicesOfAll (separatorCode buffer header counter) = [] := by
  unfold separatorCode
  split
  · rfl
  · split <;> rfl

theorem splices_edgeCode (text : Option String) :
    Code.splicesOfAll (edgeCode buffer text) = [] := by
  cases text <;> rfl

theorem splices_declareIndex (state : Generation) (header : Loop) (counter : Variable) :
    Code.splicesOfAll (state.declareIndex header counter).1 = [] := by
  unfold Generation.declareIndex
  split <;> rfl

mutual

/-- The steps for a tree splice its raw placeholders, one after the other. -/
theorem splices_generate (buffer : Buffer) (state : Generation) : (node : Node) →
    Code.splicesOfAll (generate trusts buffer state node).1 =
      node.preorder.filterMap (Splice.ofNode? trusts)
  | .text content => by
      rw [generate]
      split <;> rfl
  | .parameter name false => rfl
  | .parameter name true => by
      simp [generate, Code.splicesOfAll, splices_spliceCode, Node.preorder, Splice.ofNode?,
        Node.rawPath?, Node.rawName?]
  | .bind name value => rfl
  | .reference fragment => rfl
  | .condition test children => by
      change _ = (Node.preorderOfAll children).filterMap (Splice.ofNode? trusts)
      rw [← splices_generateAll buffer state children]
      simp [generate, Generation.closeBlock, Code.splicesOfAll, Code.splices,
        Code.splicesOfBranches]
  | .choice branches none => by
      change _ = (Node.preorderOfBranches branches).filterMap (Splice.ofNode? trusts)
      rw [← splices_generateBranches buffer state branches]
      simp [generate, Code.splicesOfAll, Code.splices]
  | .choice branches (some children) => by
      change _ = (Node.preorderOfBranches branches ++ Node.preorderOfAll children).filterMap
        (Splice.ofNode? trusts)
      rw [List.filterMap_append, ← splices_generateBranches buffer state branches,
        ← splices_generateAll buffer (generateBranches trusts buffer state branches).2 children]
      simp [generate, Generation.closeBlock, Code.splicesOfAll, Code.splices]
  | .clause kind children => by
      change _ = (Node.preorderOfAll children).filterMap (Splice.ofNode? trusts)
      rw [← splices_generateAll (.side (state.fresh (.clause kind)).1)
        (state.fresh (.clause kind)).2 children]
      simp [generate, Generation.closeBlock, clauseCode, Code.splicesOfAll, Code.splices]
  | .loop header children => by
      change _ = (Node.preorderOfAll children).filterMap (Splice.ofNode? trusts)
      have inside (entered : Generation) := splices_generateAll buffer entered children
      simp [generate, Generation.closeBlock, Code.splicesOfAll, Code.splices, splices_edgeCode,
        splices_separatorCode, splices_declareIndex, inside]
  | .mixed children => splices_generateAll buffer state children

theorem splices_generateAll (buffer : Buffer) (state : Generation) : (nodes : List Node) →
    Code.splicesOfAll (generateAll trusts buffer state nodes).1 =
      (Node.preorderOfAll nodes).filterMap (Splice.ofNode? trusts)
  | [] => rfl
  | node :: rest => by
      have first := splices_generate buffer state node
      have later := splices_generateAll buffer (generate trusts buffer state node).2 rest
      simp [generateAll, Node.preorderOfAll, first, later]

theorem splices_generateBranches (buffer : Buffer) (state : Generation) :
    (branches : List (String × List Node)) →
    Code.splicesOfBranches (generateBranches trusts buffer state branches).1 =
      (Node.preorderOfBranches branches).filterMap (Splice.ofNode? trusts)
  | [] => rfl
  | (test, children) :: rest => by
      have first := splices_generateAll buffer state children
      have later (after : Generation) := splices_generateBranches buffer after rest
      simp [generateBranches, Code.splicesOfBranches, Node.preorderOfBranches, first, later,
        Generation.closeBlock]

end

theorem splices_ofStatement (config : Config) (mapper : Mapper) (name : String)
    (statement : Statement) :
    (ofStatement config mapper name statement).splices =
      statement.root.rawParameters.map fun parameter =>
        Splice.ofPath (config.trusts statement.id) (Path.ofPlaceholder parameter).toText := by
  rw [Node.rawParameters, List.map_filterMap]
  refine (splices_generate .output {} statement.root).trans ?_
  apply List.filterMap_congr
  intro node _
  simp [Splice.ofNode?, Node.rawPath?, Function.comp_def]

theorem guarded_mem_splices_ofStatement {config : Config} {mapper : Mapper}
    {name parameter : String} {statement : Statement} :
    .guarded parameter ∈ (ofStatement config mapper name statement).splices ↔
      parameter ∈ statement.root.rawPaths ∧
        config.declaredType? statement.id parameter ≠ some safeIdentifierType := by
  rw [splices_ofStatement, Node.rawPaths_eq]
  simp only [List.mem_map, Splice.ofPath, Config.trusts, beq_iff_eq]
  constructor
  · rintro ⟨raw, member, same⟩
    split at same
    · cases same
    · rename_i distrusted
      cases same
      exact ⟨⟨raw, member, rfl⟩, distrusted⟩
  · rintro ⟨⟨raw, member, rfl⟩, distrusted⟩
    exact ⟨raw, member, if_neg distrusted⟩

theorem NameTable.length_uniqueAll (table : NameTable) (ids : List String) :
    (table.uniqueAll ids).length = ids.length := by
  induction ids generalizing table with
  | nil => rfl
  | cons id rest ih => simp [NameTable.uniqueAll, ih]

theorem forall₂_zipWith {α β γ : Type} {relation : β → γ → Prop} (combine : α → β → γ) {names : List α}
    {items : List β} (sameLength : names.length = items.length)
    (holds : ∀ item ∈ items, ∀ name ∈ names, relation item (combine name item)) :
    List.Forall₂ relation items (names.zipWith combine items) := by
  induction items generalizing names with
  | nil =>
      rw [List.zipWith_nil_right]
      exact .nil
  | cons item rest ih =>
      cases names with
      | nil => cases sameLength
      | cons name others =>
          rcases List.forall_mem_cons.1 holds with ⟨here, later⟩
          refine .cons (here name List.mem_cons_self) (ih (Nat.succ.inj sameLength) ?_)
          exact fun item member name among => later item member name (.tail _ among)

/-- The function for a statement splices each raw placeholder of its tree once and in its order, with
a guard for its path unless that is declared a checked identifier.  A path is found unsafe in the
statement if there is a guard for it and it is no constant. -/
theorem splices_ofMapper (config : Config) (mapper : Mapper)
    (distinct : (mapper.statements.map (·.id)).Nodup) :
    List.Forall₂ (fun statement function =>
        function.statement = mapper.qualify statement.id ∧
        function.splices = statement.root.rawParameters.map (fun name =>
          let path := (Path.ofPlaceholder name).toText
          if config.declaredType? statement.id path = some safeIdentifierType then .trusted
          else .guarded path) ∧
        ∀ parameter,
          { nameSpace := mapper.nameSpace, statement := statement.id, parameter } ∈
              mapper.unsafeSubstitutions config ↔
            .guarded parameter ∈ function.splices ∧ config.isSafeConstant parameter = false)
      mapper.statements (ofMapper config mapper).functions := by
  have sameLength := NameTable.length_uniqueAll { used := reservedNames }
    (mapper.statements.map (·.id))
  rw [List.length_map] at sameLength
  apply forall₂_zipWith (ofStatement config mapper) sameLength
  intro statement declared name _
  refine ⟨rfl, ?_, ?_⟩
  · rw [splices_ofStatement]
    simp only [Splice.ofPath, Config.trusts, beq_iff_eq]
  · intro parameter
    have alone : (∃ other ∈ mapper.statements, other.id = statement.id ∧
        parameter ∈ other.root.rawPaths) ↔ parameter ∈ statement.root.rawPaths := by
      constructor
      · rintro ⟨other, declaredOther, same, member⟩
        rwa [List.inj_on_of_nodup_map distinct declaredOther declared same] at member
      · intro member
        exact ⟨statement, declared, rfl, member⟩
    rw [Mapper.mem_unsafeSubstitutions, guarded_mem_splices_ofStatement, alone]
    simp only [true_and, and_assoc]

end Generated

end SqlMapper
