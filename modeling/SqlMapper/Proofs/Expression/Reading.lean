import SqlMapper.Expression.Evaluate
import SqlMapper.Proofs.Member.Layout

/-!
# Reading expressions without a cache

A test holds and a bind value is evaluated by what its paths lead to.  Under a layout the caches of
members make no difference, so the value of an expression depends on nothing but those paths.
-/

namespace SqlMapper

variable {layout : Layout} {cache : MemberCache} {environment left right : Environment}

def Environment.read (environment : Environment) (path : Path) : Value :=
  match environment.scope.lookup? path.head with
  | none => environment.parameter.read path.segments
  | some value => if path.rest.isEmpty then value else value.accessor.read path.rest

/-- Whether all values that a template has bound fit a layout. -/
def Scope.Fits (layout : Layout) (scope : Scope Value) : Prop :=
  ∀ entry ∈ scope.entries, entry.2.Fits layout

/-- Whether all that paths may begin with fits a layout. -/
structure Environment.Fits (layout : Layout) (environment : Environment) : Prop where
  scope : environment.scope.Fits layout
  parameter : environment.parameter.Fits layout

theorem Scope.Fits.push {scope : Scope Value} (fits : scope.Fits layout) (name : String)
    {value : Value} (fitsValue : value.Fits layout) : (scope.push name value).Fits layout :=
  List.forall_mem_cons.2 ⟨fitsValue, fits⟩

theorem Scope.Fits.lookup? {scope : Scope Value} (fits : scope.Fits layout) {name : String}
    {value : Value} (found : scope.lookup? name = some value) : value.Fits layout := by
  rcases Option.map_eq_some_iff.1 found with ⟨entry, first, rfl⟩
  simp only [Option.orElse_eq_orElse, Option.orElse_eq_or, Option.or_eq_some_iff] at first
  rcases first with exact_name | ⟨_, folded_name⟩
  · exact fits entry (List.mem_of_find?_eq_some exact_name)
  · exact fits entry (List.mem_of_find?_eq_some folded_name)

namespace Environment

theorem Fits.read (fits : environment.Fits layout) (path : Path) :
    (environment.read path).Fits layout := by
  simp only [Environment.read]
  cases found : environment.scope.lookup? path.head with
  | none => exact fits.parameter.read _
  | some value =>
      have fitsValue := fits.scope.lookup? found
      dsimp only
      split
      · exact fitsValue
      · exact fitsValue.accessor.read _

theorem answers_resolve (fits : cache.Fits layout) (fitsEnvironment : environment.Fits layout)
    (path : Path) :
    MemberCache.Answers layout (environment.resolve cache path) (environment.read path) := by
  simp only [resolve, Environment.read]
  cases found : environment.scope.lookup? path.head with
  | none => exact MemberCache.answers_resolvePath fits fitsEnvironment.parameter _
  | some value =>
      have fitsValue := fitsEnvironment.scope.lookup? found
      dsimp only
      split
      · exact ⟨rfl, fits⟩
      · exact MemberCache.answers_resolvePath fits fitsValue.accessor _

end Environment

namespace Atom

def path? : Atom → Option Path
  | .truthy path => some path
  | .compare path _ _ => some path
  | .invalid _ => none

/-- Whether a condition holds. -/
def decide (environment : Environment) : Atom → Bool
  | .truthy path => (environment.read path).truthy
  | .compare path op literal => (environment.read path).compare op literal.toValue
  | .invalid _ => false

theorem decide_congr (atom : Atom) (same : ∀ path ∈ atom.path?, left.read path = right.read path) :
    atom.decide left = atom.decide right := by
  cases atom with
  | truthy path => simp only [decide, same path rfl]
  | compare path op literal => simp only [decide, same path rfl]
  | invalid text => rfl

theorem answers_holds (fits : cache.Fits layout) (fitsEnvironment : environment.Fits layout)
    (atom : Atom) :
    MemberCache.Answers layout (atom.holds environment cache) (atom.decide environment) := by
  cases atom with
  | truthy path =>
      have resolved := environment.answers_resolve fits fitsEnvironment path
      exact ⟨by simp only [holds, decide, resolved.same], resolved.fits⟩
  | compare path op literal =>
      have resolved := environment.answers_resolve fits fitsEnvironment path
      exact ⟨by simp only [holds, decide, resolved.same], resolved.fits⟩
  | invalid text => exact ⟨rfl, fits⟩

theorem answers_allHold (atoms : List Atom) (fits : cache.Fits layout)
    (fitsEnvironment : environment.Fits layout) :
    MemberCache.Answers layout (allHold environment cache atoms)
      (atoms.all (·.decide environment)) := by
  induction atoms generalizing cache with
  | nil => exact ⟨rfl, fits⟩
  | cons atom rest ih =>
      have first := atom.answers_holds fits fitsEnvironment
      have fitsAfter := first.fits
      simp only [allHold, List.all_cons, ← first.same]
      generalize atom.holds environment cache = answer at *
      rcases answer with ⟨_ | _, after⟩
      · exact ⟨rfl, fitsAfter⟩
      · exact ih fitsAfter

theorem answers_anyHolds (atoms : List Atom) (fits : cache.Fits layout)
    (fitsEnvironment : environment.Fits layout) :
    MemberCache.Answers layout (anyHolds environment cache atoms)
      (atoms.any (·.decide environment)) := by
  induction atoms generalizing cache with
  | nil => exact ⟨rfl, fits⟩
  | cons atom rest ih =>
      have first := atom.answers_holds fits fitsEnvironment
      have fitsAfter := first.fits
      simp only [anyHolds, List.any_cons, ← first.same]
      generalize atom.holds environment cache = answer at *
      rcases answer with ⟨_ | _, after⟩
      · exact ih fitsAfter
      · exact ⟨rfl, fitsAfter⟩

end Atom

namespace Test

def paths (test : Test) : List Path :=
  test.atoms.filterMap Atom.path?

def decide (environment : Environment) (test : Test) : Bool :=
  match test.junction with
  | .all => test.atoms.all (·.decide environment)
  | .any => test.atoms.any (·.decide environment)

theorem decide_congr (test : Test) (same : ∀ path ∈ test.paths, left.read path = right.read path) :
    test.decide left = test.decide right := by
  have atoms : ∀ atom ∈ test.atoms, atom.decide left = atom.decide right := by
    intro atom member
    apply atom.decide_congr
    intro path found
    exact same path (List.mem_filterMap.2 ⟨atom, member, found⟩)
  have answers : test.atoms.map (·.decide left) = test.atoms.map (·.decide right) :=
    List.map_congr_left atoms
  have together := congrArg (List.all · id) answers
  have apart := congrArg (List.any · id) answers
  simp only [List.all_map, List.any_map, Function.id_comp] at together apart
  cases junction : test.junction with
  | all => simpa only [decide, junction] using together
  | any => simpa only [decide, junction] using apart

theorem answers_holds (fits : cache.Fits layout) (fitsEnvironment : environment.Fits layout)
    (test : Test) :
    MemberCache.Answers layout (test.holds environment cache) (test.decide environment) := by
  simp only [holds, decide]
  cases test.junction with
  | all => exact Atom.answers_allHold test.atoms fits fitsEnvironment
  | any => exact Atom.answers_anyHolds test.atoms fits fitsEnvironment

end Test

namespace BindPart

def path? : BindPart → Option Path
  | .literal _ => none
  | .path property => some property

def read (environment : Environment) : BindPart → Value
  | .literal constant => constant.toValue
  | .path property => environment.read property

theorem read_congr (part : BindPart) (same : ∀ path ∈ part.path?, left.read path = right.read path) :
    part.read left = part.read right := by
  cases part with
  | literal constant => rfl
  | path property => exact same property rfl

theorem fits_read (fits : environment.Fits layout) (part : BindPart) :
    (part.read environment).Fits layout := by
  cases part with
  | literal constant => cases constant <;> trivial
  | path property => exact fits.read property

theorem answers_evaluate (fits : cache.Fits layout) (fitsEnvironment : environment.Fits layout)
    (part : BindPart) :
    MemberCache.Answers layout (part.evaluate environment cache) (part.read environment) := by
  cases part with
  | literal constant => exact ⟨rfl, fits⟩
  | path property => exact environment.answers_resolve fits fitsEnvironment property

def joined (environment : Environment) (parts : List BindPart) : String :=
  String.join (parts.map fun part => (part.read environment).toText)

theorem answers_concatTexts (parts : List BindPart) (fits : cache.Fits layout)
    (fitsEnvironment : environment.Fits layout) :
    MemberCache.Answers layout (concatTexts environment cache parts)
      (joined environment parts) := by
  induction parts generalizing cache with
  | nil => exact ⟨rfl, fits⟩
  | cons part rest ih =>
      have first := part.answers_evaluate fits fitsEnvironment
      have others := ih first.fits
      refine ⟨?_, others.fits⟩
      simp only [concatTexts, first.same, others.same, joined, List.map_cons, String.join_cons]

end BindPart

namespace Bind

def paths (bind : Bind) : List Path :=
  bind.parts.filterMap BindPart.path?

def read (environment : Environment) : Bind → Value
  | .single part => part.read environment
  | .concat parts => .string (BindPart.joined environment parts)
  | .invalid _ => .null

theorem read_congr (bind : Bind) (same : ∀ path ∈ bind.paths, left.read path = right.read path) :
    bind.read left = bind.read right := by
  have parts : ∀ part ∈ bind.parts, part.read left = part.read right := by
    intro part member
    apply part.read_congr
    intro path found
    exact same path (List.mem_filterMap.2 ⟨part, member, found⟩)
  cases bind with
  | single part => exact parts part (List.mem_singleton.2 rfl)
  | concat joinedParts =>
      have texts : joinedParts.map (fun part => (part.read left).toText) =
          joinedParts.map (fun part => (part.read right).toText) := by
        apply List.map_congr_left
        intro part member
        rw [parts part member]
      simp only [read, BindPart.joined, texts]
  | invalid text => rfl

theorem fits_read (fits : environment.Fits layout) (bind : Bind) :
    (bind.read environment).Fits layout := by
  cases bind with
  | single part => exact part.fits_read fits
  | concat parts => trivial
  | invalid text => trivial

theorem answers_evaluate (fits : cache.Fits layout) (fitsEnvironment : environment.Fits layout)
    (bind : Bind) :
    MemberCache.Answers layout (bind.evaluate environment cache) (bind.read environment) := by
  cases bind with
  | single part => exact part.answers_evaluate fits fitsEnvironment
  | concat parts =>
      have joined := BindPart.answers_concatTexts parts fits fitsEnvironment
      exact ⟨by simp only [evaluate, read, joined.same], joined.fits⟩
  | invalid text => exact ⟨rfl, fits⟩

end Bind

end SqlMapper
