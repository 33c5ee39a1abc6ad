import SqlMapper.Generated.Code

/-!
# Splices of generated functions

The places at which a generated function writes a value into its SQL instead of a mark.  What the line
of a remark holds behind a line break is no part of the step, so it does not count here.
-/

namespace SqlMapper.Generated

/-- A place at which a value is spliced. -/
inductive Splice where
  | trusted
  /-- A place that admits checked identifiers only. -/
  | guarded (parameter : String)
deriving DecidableEq

/-- Whether a guard stands at a place. -/
def Splice.isGuarded : Splice → Bool
  | .trusted => false
  | .guarded _ => true

namespace Code

mutual

def splices : Code → List Splice
  | .pushTrusted _ _ => [.trusted]
  | .pushGuarded _ parameter _ => [.guarded parameter]
  | .block inner | .ifNonempty _ inner | .ifList _ _ inner | .forEach _ _ _ inner
  | .ifLater _ inner => splicesOfAll inner
  | .branch branches none => splicesOfBranches branches
  | .branch branches (some fallback) => splicesOfBranches branches ++ splicesOfAll fallback
  | .push _ _ | .pushMark _ _ | .pushBody _ _ | .define _ _ | .defineIndex _ _ | .openBody _
  | .trimBody _ _ | .remark _ => []
termination_by structural code => code

/-- The splices of steps one after the other. -/
def splicesOfAll : List Code → List Splice
  | [] => []
  | code :: rest => code.splices ++ splicesOfAll rest
termination_by structural codes => codes

def splicesOfBranches : List (TestCode Variable × List Code) → List Splice
  | [] => []
  | (_, inner) :: rest => splicesOfAll inner ++ splicesOfBranches rest
termination_by structural branches => branches

end

end Code

def Function.splices (function : Function) : List Splice :=
  Code.splicesOfAll function.body

def Function.guardCount (function : Function) : Nat :=
  function.splices.countP Splice.isGuarded

end SqlMapper.Generated
