import SqlMapper.Proofs.Generated.Simulation
import SqlMapper.Proofs.Generated.Splice

/-!
# Canonical functions

Some steps are written alike, and some are not written at all: a remark does nothing, a choice without
branches is nothing or a block, a test with one condition has no junction, and a decimal zero has no
sign.  A function is canonical if it is the one that a reader of its source has in mind.  A function and
its canonical form run alike and splice the same values.
-/

namespace SqlMapper

/-- The literal that source writes for a literal: a decimal zero without its sign. -/
def Literal.canonical : Literal → Literal
  | .decimal value => .decimal value.dropZeroSign
  | other => other

namespace Generated

variable {α : Type}

def ValueCode.canonical : ValueCode α → ValueCode α
  | .constant literal => .constant literal.canonical
  | .read origin path => .read origin path

def BindCode.canonical : BindCode α → BindCode α
  | .value code => .value code.canonical
  | .concat parts => .concat (parts.map (·.canonical))
  | .null => .value (.constant .null)

def ConditionCode.canonical : ConditionCode α → ConditionCode α
  | .truthy value => .truthy value.canonical
  | .compare value op literal => .compare value.canonical op literal.canonical
  | .never => .never

/-- Whether an expression is written in a way that can be read: no texts at all cannot be joined. -/
def BindCode.IsLegible : BindCode α → Prop
  | .concat parts => parts ≠ []
  | _ => True

/-- Whether a test is written in a way that can be read. -/
def TestCode.IsLegible (test : TestCode α) : Prop :=
  test.conditions ≠ []

/-- One condition needs no junction. -/
def TestCode.canonical (test : TestCode α) : TestCode α :=
  match test.conditions with
  | [condition] => { junction := .all, conditions := [condition.canonical] }
  | conditions => { test with conditions := conditions.map (·.canonical) }

namespace Code

mutual

/-- Whether a step is written in a way that can be read. -/
def IsLegible : Code → Prop
  | .define _ value => value.IsLegible
  | .block inner | .ifNonempty _ inner | .ifList _ _ inner | .forEach _ _ _ inner
  | .ifLater _ inner => AreLegible inner
  | .branch branches none => BranchesLegible branches
  | .branch branches (some fallback) => BranchesLegible branches ∧ AreLegible fallback
  | .push _ _ | .pushMark _ _ | .pushTrusted _ _ | .pushGuarded _ _ _ | .pushBody _ _
  | .defineIndex _ _ | .openBody _ | .trimBody _ _ | .remark _ => True
termination_by structural code => code

def AreLegible : List Code → Prop
  | [] => True
  | code :: rest => code.IsLegible ∧ AreLegible rest
termination_by structural codes => codes

def BranchesLegible : List (TestCode Variable × List Code) → Prop
  | [] => True
  | (test, inner) :: rest => test.IsLegible ∧ AreLegible inner ∧ BranchesLegible rest
termination_by structural branches => branches

end

mutual

def canonical : Code → List Code
  | .push buffer text => [.push buffer text]
  | .pushMark buffer value => [.pushMark buffer value.canonical]
  | .pushTrusted buffer value => [.pushTrusted buffer value.canonical]
  | .pushGuarded buffer parameter value => [.pushGuarded buffer parameter value.canonical]
  | .pushBody buffer body => [.pushBody buffer body]
  | .define target value => [.define target value.canonical]
  | .defineIndex target counter => [.defineIndex target counter]
  | .openBody body => [.openBody body]
  | .trimBody kind body => [.trimBody kind body]
  | .block inner => [.block (canonicalOfAll inner)]
  | .branch [] none => []
  | .branch [] (some fallback) => [.block (canonicalOfAll fallback)]
  | .branch (first :: others) none => [.branch (canonicalOfBranches (first :: others)) none]
  | .branch (first :: others) (some fallback) =>
    [.branch (canonicalOfBranches (first :: others)) (some (canonicalOfAll fallback))]
  | .ifNonempty body inner => [.ifNonempty body (canonicalOfAll inner)]
  | .ifList items collection inner => [.ifList items collection (canonicalOfAll inner)]
  | .forEach counter item items inner => [.forEach counter item items (canonicalOfAll inner)]
  | .ifLater counter inner => [.ifLater counter (canonicalOfAll inner)]
  | .remark _ => []
termination_by structural code => code

def canonicalOfAll : List Code → List Code
  | [] => []
  | code :: rest => code.canonical ++ canonicalOfAll rest
termination_by structural codes => codes

def canonicalOfBranches :
    List (TestCode Variable × List Code) → List (TestCode Variable × List Code)
  | [] => []
  | (test, inner) :: rest => (test.canonical, canonicalOfAll inner) :: canonicalOfBranches rest
termination_by structural branches => branches

end

end Code

def Function.canonical (function : Function) : Function :=
  { function with body := Code.canonicalOfAll function.body }

/-! ### Running -/

theorem constantValue_canonical (literal : Literal) :
    constantValue literal.canonical = constantValue literal := by
  cases literal <;> simp [constantValue, Literal.canonical, Literal.toValue, Value.dropZeroSign]

namespace RunContext

variable (context : RunContext) (state : RunState)

theorem value_canonical (code : ValueCode Variable) :
    context.value state code.canonical = context.value state code := by
  cases code with
  | constant literal => simp only [ValueCode.canonical, value, constantValue_canonical]
  | read origin path => rfl

theorem texts_canonical (parts : List (ValueCode Variable)) :
    context.texts state (parts.map (·.canonical)) = context.texts state parts := by
  induction parts generalizing state with
  | nil => rfl
  | cons code rest ih => simp only [List.map_cons, texts, value_canonical, ih]

theorem bound_canonical (code : BindCode Variable) :
    context.bound state code.canonical = context.bound state code := by
  cases code with
  | value code => exact context.value_canonical state code
  | concat parts => simp only [BindCode.canonical, bound, texts_canonical]
  | null => rfl

theorem condition_canonical (code : ConditionCode Variable) :
    context.condition state code.canonical = context.condition state code := by
  cases code with
  | truthy value => simp only [ConditionCode.canonical, condition, value_canonical]
  | compare value op literal =>
      simp only [ConditionCode.canonical, condition, value_canonical, constantValue_canonical]
  | never => rfl

theorem conditions_canonical (junction : Junction) (codes : List (ConditionCode Variable)) :
    context.conditions state junction (codes.map (·.canonical)) =
      context.conditions state junction codes := by
  induction codes generalizing state with
  | nil => rfl
  | cons code rest ih => simp only [List.map_cons, conditions, condition_canonical, ih]

/-- With one condition both junctions come to the same. -/
theorem conditions_single (code : ConditionCode Variable) (junction : Junction) :
    context.conditions state junction [code] = context.condition state code := by
  simp only [conditions]
  cases outcome : context.condition state code with
  | error fault => rfl
  | ok result =>
      rcases result with ⟨holds, after⟩
      cases holds <;> cases junction <;> rfl

theorem test_canonical (code : TestCode Variable) :
    context.test state code.canonical = context.test state code := by
  rcases code with ⟨junction, conditions⟩
  rcases conditions with _ | ⟨first, _ | ⟨second, rest⟩⟩
  · rfl
  · simp only [TestCode.canonical, test, conditions_single, condition_canonical]
  · simp only [TestCode.canonical, test, conditions_canonical]

mutual

theorem steps_canonical (state : RunState) : (code : Code) →
    context.steps state code.canonical = context.step state code
  | .push _ _ | .pushBody _ _ | .defineIndex _ _ | .openBody _ | .trimBody _ _ =>
      steps_singleton context state _
  | .pushMark buffer value => by
      simp only [Code.canonical, steps_singleton, step, value_canonical]
  | .pushTrusted buffer value => by
      simp only [Code.canonical, steps_singleton, step, value_canonical]
  | .pushGuarded buffer parameter value => by
      simp only [Code.canonical, steps_singleton, step, value_canonical]
  | .define target value => by
      simp only [Code.canonical, steps_singleton, step, bound_canonical]
  | .block inner => by
      simp only [Code.canonical, steps_singleton, step, steps_canonicalOfAll _ inner]
  | .branch [] none => rfl
  | .branch [] (some fallback) => by
      simp only [Code.canonical, steps_singleton, step, steps_canonicalOfAll _ fallback, firstBranch]
      rfl
  | .branch (first :: others) none => by
      simp only [Code.canonical, steps_singleton, step, firstBranch_canonical _ (first :: others)]
  | .branch (first :: others) (some fallback) => by
      simp only [Code.canonical, steps_singleton, step, steps_canonicalOfAll _ fallback,
        firstBranch_canonical _ (first :: others)]
  | .ifNonempty body inner => by
      simp only [Code.canonical, steps_singleton, step, steps_canonicalOfAll _ inner]
  | .ifList items collection inner => by
      simp only [Code.canonical, steps_singleton, step, steps_canonicalOfAll _ inner]
  | .forEach counter item items inner => by
      simp only [Code.canonical, steps_singleton, step, steps_canonicalOfAll _ inner]
  | .ifLater counter inner => by
      simp only [Code.canonical, steps_singleton, step, steps_canonicalOfAll _ inner]
  | .remark _ => rfl
termination_by structural code => code

theorem steps_canonicalOfAll (state : RunState) : (codes : List Code) →
    context.steps state (Code.canonicalOfAll codes) = context.steps state codes
  | [] => rfl
  | code :: rest => by
      simp only [Code.canonicalOfAll, steps_append, steps, steps_canonical state code,
        steps_canonicalOfAll _ rest]
termination_by structural codes => codes

theorem firstBranch_canonical (state : RunState) :
    (branches : List (TestCode Variable × List Code)) →
    context.firstBranch state (Code.canonicalOfBranches branches) = context.firstBranch state branches
  | [] => rfl
  | (test, inner) :: rest => by
      simp only [Code.canonicalOfBranches, firstBranch, test_canonical, steps_canonicalOfAll _ inner,
        firstBranch_canonical _ rest]
termination_by structural branches => branches

end

end RunContext

theorem Function.run_canonical (function : Function) (style : MarkerStyle) (parameter : Accessor)
    (members : MemberCache) :
    function.canonical.run style parameter members = function.run style parameter members := by
  simp only [Function.run, Function.canonical, RunContext.steps_canonicalOfAll]

/-! ### Splices -/

namespace Code

theorem splicesOfAll_single (code : Code) : splicesOfAll [code] = code.splices :=
  List.append_nil code.splices

mutual

theorem splices_canonical : (code : Code) → splicesOfAll code.canonical = code.splices
  | .push _ _ | .pushMark _ _ | .pushTrusted _ _ | .pushGuarded _ _ _ | .pushBody _ _ | .define _ _
  | .defineIndex _ _ | .openBody _ | .trimBody _ _ | .remark _ => rfl
  | .branch [] none => rfl
  | .block inner | .ifNonempty _ inner | .ifList _ _ inner | .forEach _ _ _ inner
  | .ifLater _ inner => by
      simp only [canonical, splicesOfAll_single, splices, splices_canonicalOfAll inner]
  | .branch [] (some fallback) => by
      simp only [canonical, splicesOfAll_single, splices, splices_canonicalOfAll fallback,
        splicesOfBranches, List.nil_append]
  | .branch (first :: others) none => by
      simp only [canonical, splicesOfAll_single, splices, splices_canonicalOfBranches (first :: others)]
  | .branch (first :: others) (some fallback) => by
      simp only [canonical, splicesOfAll_single, splices, splices_canonicalOfAll fallback,
        splices_canonicalOfBranches (first :: others)]
termination_by structural code => code

theorem splices_canonicalOfAll : (codes : List Code) →
    splicesOfAll (canonicalOfAll codes) = splicesOfAll codes
  | [] => rfl
  | code :: rest => by
      simp only [canonicalOfAll, splicesOfAll_append, splicesOfAll, splices_canonical code,
        splices_canonicalOfAll rest]
termination_by structural codes => codes

theorem splices_canonicalOfBranches : (branches : List (TestCode Variable × List Code)) →
    splicesOfBranches (canonicalOfBranches branches) = splicesOfBranches branches
  | [] => rfl
  | (test, inner) :: rest => by
      simp only [canonicalOfBranches, splicesOfBranches, splices_canonicalOfAll inner,
        splices_canonicalOfBranches rest]
termination_by structural branches => branches

end

end Code

theorem Function.splices_canonical (function : Function) :
    function.canonical.splices = function.splices :=
  Code.splices_canonicalOfAll function.body

end Generated

end SqlMapper
