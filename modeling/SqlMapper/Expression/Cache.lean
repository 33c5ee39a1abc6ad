import SqlMapper.Association
import SqlMapper.Expression.Bind
import SqlMapper.Expression.Test

/-!
# Parsed expressions

Expressions are parsed once and kept under their text.  The cache carries the proof that it holds
nothing else, so looking an expression up is the same as parsing it.
-/

namespace SqlMapper

/-- The expressions parsed so far, newest first. -/
structure ExpressionCache where
  tests : List (String × Test) := []
  binds : List (String × Bind) := []
  /-- Every test is the one that its text spells. -/
  tests_parsed : ∀ entry ∈ tests, entry.2 = Test.parse entry.1 := by exact List.forall_mem_nil _
  /-- Every bind value is the one that its text spells. -/
  binds_parsed : ∀ entry ∈ binds, entry.2 = Bind.parse entry.1 := by exact List.forall_mem_nil _

namespace ExpressionCache

/-- Number of expressions of both kinds. -/
def size (cache : ExpressionCache) : Nat :=
  cache.tests.length + cache.binds.length

def test (cache : ExpressionCache) (source : String) : Test × ExpressionCache :=
  match cache.tests.lookup source with
  | some test => (test, cache)
  | none =>
    let test := Test.parse source
    (test, { cache with
      tests := (source, test) :: cache.tests
      tests_parsed := List.forall_mem_cons.2 ⟨rfl, cache.tests_parsed⟩ })

/-- The bind value with the given text. -/
def bind (cache : ExpressionCache) (source : String) : Bind × ExpressionCache :=
  match cache.binds.lookup source with
  | some bind => (bind, cache)
  | none =>
    let bind := Bind.parse source
    (bind, { cache with
      binds := (source, bind) :: cache.binds
      binds_parsed := List.forall_mem_cons.2 ⟨rfl, cache.binds_parsed⟩ })

@[simp] theorem test_fst (cache : ExpressionCache) (source : String) :
    (cache.test source).1 = Test.parse source := by
  unfold test
  split
  · exact cache.tests_parsed _ (Association.mem_of_lookup_eq_some (by assumption))
  · rfl

@[simp] theorem bind_fst (cache : ExpressionCache) (source : String) :
    (cache.bind source).1 = Bind.parse source := by
  unfold bind
  split
  · exact cache.binds_parsed _ (Association.mem_of_lookup_eq_some (by assumption))
  · rfl

end ExpressionCache

end SqlMapper
