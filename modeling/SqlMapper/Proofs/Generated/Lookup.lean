import SqlMapper.Generated.Run
import Mathlib.Data.List.Forall2

/-!
# Expressions of generated functions read what templates read

The generator replaces every name of a template by a variable.  As long as the variables hold what
the names are bound to, expressions have the values of the paths, tests and bind values that they
come from, and look up the same members in the same order.
-/

namespace SqlMapper

namespace Scope

variable {α β : Type} {related : α → β → Prop}

/-- Two entries have one name and related things under it. -/
def Matching (related : α → β → Prop) (left : String × α) (right : String × β) : Prop :=
  left.1 = right.1 ∧ related left.2 right.2

theorem rel_find? {left : List (String × α)} {right : List (String × β)}
    (entries : List.Forall₂ (Matching related) left right) (selects : String → Bool) :
    Option.Rel (Matching related) (left.find? (selects ·.1)) (right.find? (selects ·.1)) := by
  induction entries with
  | nil => exact .none
  | @cons first second _ _ matching _ ih =>
      rw [List.find?_cons, List.find?_cons, ← matching.1]
      cases selects first.1 with
      | true => exact .some matching
      | false => exact ih

/-- Scopes with the same names in the same order find related things under a name. -/
theorem rel_lookup? {left : Scope α} {right : Scope β}
    (entries : List.Forall₂ (Matching related) left.entries right.entries) (name : String) :
    Option.Rel related (left.lookup? name) (right.lookup? name) := by
  have exact := rel_find? entries (· == name)
  have folded := rel_find? entries (Text.sameIgnoringCase · name)
  unfold lookup?
  generalize left.entries.find? (·.1 == name) = leftFound at exact ⊢
  generalize right.entries.find? (·.1 == name) = rightFound at exact ⊢
  generalize left.entries.find? (Text.sameIgnoringCase ·.1 name) = leftFolded at folded ⊢
  generalize right.entries.find? (Text.sameIgnoringCase ·.1 name) = rightFolded at folded ⊢
  cases exact with
  | some matching => exact .some matching.2
  | none =>
      cases folded with
      | some matching => exact .some matching.2
      | none => exact .none

end Scope

namespace Generated

/-- A variable holds a value, up to the sign of a decimal zero. -/
def Variables.Holds (declared : Variables) (target : Variable) (value : Value) : Prop :=
  ∃ held, declared.lookup target = some (.value held) ∧ held.Alike value

/-- The variables of the names in scope hold what the names are bound to. -/
def Variables.Represent (declared : Variables) (locals : Scope Variable) (scope : Scope Value) :
    Prop :=
  List.Forall₂ (Scope.Matching declared.Holds) locals.entries scope.entries

namespace RunContext

theorem follow_access (cache : MemberCache) (target : Accessor) (name : String)
    (rest : List String) :
    follow cache target (access name rest) = cache.step? target name rest.isEmpty := rfl

/-- Following a path is following its first step and then the others. -/
theorem follow?_cons (cache : MemberCache) (target : Accessor) (name : String)
    (rest : List String) :
    cache.follow? target (name :: rest) =
      followAll (follow cache target (access name rest)).2 (follow cache target (access name rest)).1
        (accesses rest) := by
  induction rest generalizing cache target name with
  | nil => rfl
  | cons next rest ih =>
      rw [follow_access, MemberCache.follow?]
      · rcases found : cache.step? target name false with ⟨_ | value, members⟩
        · simp [found, followAll, accesses]
        · simp [found, followAll, accesses, ih]
      · simp

variable {run : RunState} {locals : Scope Variable} {scope : Scope Value}

/-- The expression for a path has the value of the path. -/
theorem value_ofPath (context : RunContext)
    (represents : run.declared.Represent locals scope) (path : Path) :
    ∃ held, held.Alike (Environment.resolve ⟨scope, context.parameter⟩ run.members path).1 ∧
      context.value run (ofPath locals path) = .ok (held,
        { run with
          members := (Environment.resolve ⟨scope, context.parameter⟩ run.members path).2 }) := by
  have looked := Scope.rel_lookup? represents path.head
  unfold ofPath Environment.resolve
  generalize locals.lookup? path.head = target? at looked ⊢
  generalize scope.lookup? path.head = value? at looked ⊢
  cases looked with
  | none =>
      refine ⟨_, .refl _, ?_⟩
      simp [value, MemberCache.resolvePath, Path.segments, follow?_cons]
  | @some target value holds =>
      rcases holds with ⟨held, found, alike⟩
      have read : run.declared.value target = .ok held := by simp [Variables.value, found]
      cases rest : path.rest with
      | nil =>
          refine ⟨held, by simpa using alike, ?_⟩
          simp [RunContext.value, read, accesses, followAll, bind, Except.bind]
      | cons name rest =>
          refine ⟨_, .refl _, ?_⟩
          simp [RunContext.value, read, accesses, followAll, bind, Except.bind,
            MemberCache.resolvePath, follow?_cons, alike.accessor_eq]

/-- The expression for a condition holds where the condition does. -/
theorem condition_ofAtom (context : RunContext)
    (represents : run.declared.Represent locals scope) (atom : Atom) :
    context.condition run (ofAtom locals atom) =
      .ok ((atom.holds ⟨scope, context.parameter⟩ run.members).1,
        { run with members := (atom.holds ⟨scope, context.parameter⟩ run.members).2 }) := by
  cases atom with
  | truthy path =>
      rcases value_ofPath context represents path with ⟨held, alike, read⟩
      simp [condition, ofAtom, read, Atom.holds, alike.truthy_eq, bind, Except.bind]
  | compare path op literal =>
      rcases value_ofPath context represents path with ⟨held, alike, read⟩
      simp [condition, ofAtom, read, Atom.holds, alike.compare_eq, constantValue, bind, Except.bind]
  | invalid text => rfl

theorem conditions_all (context : RunContext)
    (represents : run.declared.Represent locals scope) (atoms : List Atom) :
    context.conditions run .all (atoms.map (ofAtom locals)) =
      .ok ((Atom.allHold ⟨scope, context.parameter⟩ run.members atoms).1,
        { run with
          members := (Atom.allHold ⟨scope, context.parameter⟩ run.members atoms).2 }) := by
  induction atoms generalizing run with
  | nil => rfl
  | cons atom rest ih =>
      have first := condition_ofAtom context represents atom
      rcases held : atom.holds ⟨scope, context.parameter⟩ run.members with ⟨_ | _, members⟩
      · simp [conditions, first, Atom.allHold, held, bind, Except.bind]
      · have := @ih { run with members } represents
        simp [conditions, first, Atom.allHold, held, bind, Except.bind, this]

theorem conditions_any (context : RunContext)
    (represents : run.declared.Represent locals scope) (atoms : List Atom) :
    context.conditions run .any (atoms.map (ofAtom locals)) =
      .ok ((Atom.anyHolds ⟨scope, context.parameter⟩ run.members atoms).1,
        { run with
          members := (Atom.anyHolds ⟨scope, context.parameter⟩ run.members atoms).2 }) := by
  induction atoms generalizing run with
  | nil => rfl
  | cons atom rest ih =>
      have first := condition_ofAtom context represents atom
      rcases held : atom.holds ⟨scope, context.parameter⟩ run.members with ⟨_ | _, members⟩
      · have := @ih { run with members } represents
        simp [conditions, first, Atom.anyHolds, held, bind, Except.bind, this]
      · simp [conditions, first, Atom.anyHolds, held, bind, Except.bind]

/-- The expression for a test holds where the test does. -/
theorem test_ofTest (context : RunContext)
    (represents : run.declared.Represent locals scope) (test : Test) :
    context.test run (ofTest locals test) =
      .ok ((test.holds ⟨scope, context.parameter⟩ run.members).1,
        { run with members := (test.holds ⟨scope, context.parameter⟩ run.members).2 }) := by
  unfold RunContext.test ofTest Test.holds
  cases test.junction with
  | all => exact conditions_all context represents test.atoms
  | any => exact conditions_any context represents test.atoms

theorem value_ofPart (context : RunContext)
    (represents : run.declared.Represent locals scope) (part : BindPart) :
    ∃ held, held.Alike (part.evaluate ⟨scope, context.parameter⟩ run.members).1 ∧
      context.value run (ofPart locals part) = .ok (held,
        { run with members := (part.evaluate ⟨scope, context.parameter⟩ run.members).2 }) := by
  cases part with
  | literal constant => exact ⟨_, by simp [constantValue, BindPart.evaluate, Value.Alike], rfl⟩
  | path property => exact value_ofPath context represents property

theorem texts_ofParts (context : RunContext)
    (represents : run.declared.Represent locals scope) (parts : List BindPart) :
    context.texts run (parts.map (ofPart locals)) =
      .ok ((BindPart.concatTexts ⟨scope, context.parameter⟩ run.members parts).1,
        { run with
          members := (BindPart.concatTexts ⟨scope, context.parameter⟩ run.members parts).2 }) := by
  induction parts generalizing run with
  | nil => rfl
  | cons part rest ih =>
      rcases value_ofPart context represents part with ⟨held, alike, read⟩
      have others := @ih { run with
        members := (part.evaluate ⟨scope, context.parameter⟩ run.members).2 } represents
      simp [texts, read, others, BindPart.concatTexts, alike.toText_eq, bind, Except.bind]

/-- The expression for a bind value has the value that is bound. -/
theorem bound_ofBind (context : RunContext)
    (represents : run.declared.Represent locals scope) (value : SqlMapper.Bind) :
    ∃ held, held.Alike (value.evaluate ⟨scope, context.parameter⟩ run.members).1 ∧
      context.bound run (ofBind locals value) = .ok (held,
        { run with members := (value.evaluate ⟨scope, context.parameter⟩ run.members).2 }) := by
  cases value with
  | single part => exact value_ofPart context represents part
  | concat parts =>
      refine ⟨_, .refl _, ?_⟩
      simp [bound, ofBind, texts_ofParts context represents, SqlMapper.Bind.evaluate, bind, Except.bind]
  | invalid text => exact ⟨_, .refl _, rfl⟩

end RunContext

end Generated

end SqlMapper
