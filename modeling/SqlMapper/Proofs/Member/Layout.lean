import SqlMapper.Association
import SqlMapper.Member.Cache

/-!
# Members under a layout

If all values of one shape list the same names, a cache that was filled with tables of such values
answers every request as looking through the names of the target would, whatever it has met before.
The definitions of this file read members without a cache.
-/

namespace SqlMapper

namespace MemberTable

theorem mem_declared_foldl (names : List String) (table : MemberTable) (request : String) :
    request ∈ (names.foldl insert table).declared ↔ request ∈ table.declared ∨ request ∈ names := by
  induction names generalizing table with
  | nil => simp
  | cons name rest ih =>
      rw [List.foldl_cons, ih, insert]
      by_cases known : name ∈ table.declared
      · rw [if_pos known, List.mem_cons]
        constructor
        · rintro (early | late)
          · exact .inl early
          · exact .inr (.inr late)
        · rintro (early | rfl | late)
          · exact .inl early
          · exact .inl known
          · exact .inr late
      · rw [if_neg known, List.mem_append, List.mem_singleton, List.mem_cons, or_assoc]

theorem lookup_folded_foldl (names : List String) (table : MemberTable) (key : String) :
    (names.foldl insert table).folded.lookup key =
      (table.folded.lookup key).or (names.find? (Text.foldCase · == key)) := by
  induction names generalizing table with
  | nil => simp
  | cons name rest ih =>
      rw [List.foldl_cons, ih, insert, List.find?_cons]
      -- Only the first of the names with one folded form is entered.
      cases same : Text.foldCase name == key with
      | true =>
          rw [beq_iff_eq] at same
          cases known : table.folded.lookup key with
          | some first => simp [same, known]
          | none => simp [same, known, List.lookup_append]
      | false =>
          have other : (key == Text.foldCase name) = false := by
            rw [BEq.comm]
            exact same
          cases known : table.folded.lookup (Text.foldCase name) with
          | some first => simp
          | none => simp [other, List.lookup_append]

/-- A table answers what looking through the declared names would. -/
theorem resolve?_build (names : List String) (request : String) :
    (build names).resolve? request = resolveName? names request := by
  have declared := mem_declared_foldl names {} request
  have folded := lookup_folded_foldl names {} (Text.foldCase request)
  simp only [List.not_mem_nil, false_or, List.lookup_nil, Option.none_or] at declared folded
  simp only [resolve?, build, declared, folded, SqlMapper.resolveName?]
  by_cases known : request ∈ names
  · have found : names.find? (· == request) = some request := by
      cases first : names.find? (· == request) with
      | none => exact absurd (beq_self_eq_true request) (List.find?_eq_none.1 first request known)
      | some name =>
          have same := List.find?_some first
          rw [beq_iff_eq] at same
          rw [same]
    simp [known, found]
  · have missing : names.find? (· == request) = none := by
      rw [List.find?_eq_none]
      intro name member same
      rw [beq_iff_eq] at same
      exact known (same ▸ member)
    simp [known, missing, Text.sameIgnoringCase]

/-- The table of some names finds what is found in the names themselves where an object has no shape: the
first name that is the request, or else the first that equals it up to ASCII case. -/
theorem resolveName?_eq_resolve?_build (names : List String) (request : String) :
    (∀ (cache : MemberCache) (member? : String → Option Value) (count : Option Nat),
        cache.resolveName? { names, member?, count } request = ((build names).resolve? request, cache)) ∧
      (build names).resolve? request =
        (names.find? (· == request)).or (names.find? (Text.sameIgnoringCase · request)) := by
  have found := resolve?_build names request
  refine ⟨fun cache member? count => ?_, ?_⟩
  · simp only [MemberCache.resolveName?, found]
  · rw [found, SqlMapper.resolveName?, Option.orElse_eq_orElse, Option.orElse_eq_or]

end MemberTable

theorem sameIgnoringCase_of_resolveName? {names : List String} {request name : String}
    (found : resolveName? names request = some name) : Text.sameIgnoringCase name request := by
  simp only [resolveName?, Option.orElse_eq_orElse, Option.orElse_eq_or,
    Option.or_eq_some_iff] at found
  rcases found with exact_name | ⟨_, folded_name⟩
  · have same := List.find?_some exact_name
    rw [beq_iff_eq] at same
    rw [same]
    exact Text.sameIgnoringCase_self request
  · exact List.find?_some (p := (Text.sameIgnoringCase · request)) folded_name

theorem mem_of_resolveName? {names : List String} {request name : String}
    (found : resolveName? names request = some name) : name ∈ names := by
  simp only [resolveName?, Option.orElse_eq_orElse, Option.orElse_eq_or,
    Option.or_eq_some_iff] at found
  rcases found with exact_name | ⟨_, folded_name⟩
  · exact List.mem_of_find?_eq_some exact_name
  · exact List.mem_of_find?_eq_some folded_name

/-- The names that all values of a shape list. -/
abbrev Layout : Type := String → List String

variable {layout : Layout}

mutual

/-- Whether all objects within a value list the names of their shapes. -/
def Value.Fits (layout : Layout) : Value → Prop
  | .list items => Value.AllFit layout items
  | .object shape fields =>
    (∀ name ∈ shape, fields.map (·.1) = layout name) ∧ Value.FieldsFit layout fields
  | .null | .bool _ | .int _ | .decimal _ | .string _ | .identifier _ => True

def Value.AllFit (layout : Layout) : List Value → Prop
  | [] => True
  | item :: rest => item.Fits layout ∧ Value.AllFit layout rest

def Value.FieldsFit (layout : Layout) : List (String × Value) → Prop
  | [] => True
  | (_, value) :: rest => value.Fits layout ∧ Value.FieldsFit layout rest

end

/-- Whether a parameter object and its declared members list the names of their shapes. -/
structure Accessor.Fits (layout : Layout) (target : Accessor) : Prop where
  names : ∀ name ∈ target.shape, target.names = layout name
  members : ∀ name ∈ target.names, ∀ value ∈ target.member? name, value.Fits layout

/-- Whether the tables of a cache are those of a layout. -/
def MemberCache.Fits (layout : Layout) (cache : MemberCache) : Prop :=
  ∀ entry ∈ cache.tables, entry.2 = .build (layout entry.1)

namespace Value

theorem fits_of_mem {items : List Value} (fits : AllFit layout items) :
    ∀ item ∈ items, item.Fits layout := by
  induction items with
  | nil => simp
  | cons item rest ih => exact List.forall_mem_cons.2 ⟨fits.1, ih fits.2⟩

theorem fits_of_lookup {fields : List (String × Value)} (fits : FieldsFit layout fields)
    {name : String} {value : Value} (found : fields.lookup name = some value) :
    value.Fits layout := by
  induction fields with
  | nil => cases found
  | cons field rest ih =>
      rcases field with ⟨other, held⟩
      rw [List.lookup_cons] at found
      split at found
      · rw [← Option.some.inj found]
        exact fits.1
      · exact ih fits.2 found

theorem Fits.items {value : Value} (fits : value.Fits layout) {items : List Value}
    (listed : value.items? = some items) : ∀ item ∈ items, item.Fits layout := by
  cases value with
  | list held =>
      rw [← Option.some.inj listed]
      exact fits_of_mem fits
  | _ => cases listed

theorem Fits.accessor {value : Value} (fits : value.Fits layout) : value.accessor.Fits layout := by
  cases value with
  | object shape fields => exact ⟨fits.1, fun _ _ _ found => fits_of_lookup fits.2 found⟩
  | _ => exact ⟨by simp [Value.accessor], by simp [Value.accessor]⟩

@[simp]
theorem fits_ofNat (count : Nat) : (ofNat count).Fits layout := by
  simp only [ofNat, ofUInt64]
  split <;> simp [Fits]

end Value

namespace Accessor

/-- The member that a request stands for. -/
def find? (target : Accessor) (request : String) : Option Value :=
  (resolveName? target.names request).bind target.member?

/-- The element count of a collection; the member of that name on anything else. -/
def countOrFind? (target : Accessor) (request : String) : Option Value :=
  match target.count with
  | some count => some (.ofNat count)
  | none => target.find? request

/-- One step of a path, which may ask for a count if it is the last one. -/
def step? (target : Accessor) (name : String) (isLast : Bool) : Option Value :=
  if isLast && MemberCache.isCountAlias name then target.countOrFind? name else target.find? name

/-- What stands at the end of a path. -/
def follow? (target : Accessor) : List String → Option Value
  | [] => none
  | [name] => target.step? name true
  | name :: rest => (target.step? name false).bind (·.accessor.follow? rest)

/-- The value at the end of a path, null where a member is missing. -/
def read (target : Accessor) (segments : List String) : Value :=
  (target.follow? segments).getD .null

variable {target : Accessor}

theorem Fits.find? (fits : target.Fits layout) (request : String) :
    ∀ value ∈ target.find? request, value.Fits layout := by
  intro value found
  rcases Option.bind_eq_some_iff.1 found with ⟨name, resolved, held⟩
  exact fits.members name (mem_of_resolveName? resolved) value held

theorem Fits.step? (fits : target.Fits layout) (name : String) (isLast : Bool) :
    ∀ value ∈ target.step? name isLast, value.Fits layout := by
  intro value found
  simp only [Accessor.step?] at found
  split at found
  · simp only [countOrFind?] at found
    split at found
    · rw [← Option.some.inj found]
      exact Value.fits_ofNat _
    · exact fits.find? name value found
  · exact fits.find? name value found

theorem Fits.follow? (segments : List String) (fits : target.Fits layout) :
    ∀ value ∈ target.follow? segments, value.Fits layout := by
  induction segments generalizing target with
  | nil => simp [Accessor.follow?]
  | cons name rest ih =>
      intro value found
      cases rest with
      | nil => exact fits.step? name true value found
      | cons next others =>
          rcases Option.bind_eq_some_iff.1 found with ⟨middle, first, later⟩
          exact ih (fits.step? name false middle first).accessor value later

theorem Fits.read (fits : target.Fits layout) (segments : List String) :
    (target.read segments).Fits layout := by
  cases found : target.follow? segments with
  | none => simp [Accessor.read, found, Value.Fits]
  | some value =>
      have := fits.follow? segments value found
      simpa [Accessor.read, found] using this

end Accessor

namespace MemberCache

/-- An answer does not depend on the cache, which fits the layout afterwards as well. -/
structure Answers {α : Type} (layout : Layout) (answer : α × MemberCache) (expected : α) : Prop where
  same : answer.1 = expected
  fits : answer.2.Fits layout

variable {cache : MemberCache} {target : Accessor}

theorem answers_tableFor (fits : cache.Fits layout) (shape : String) :
    Answers layout (cache.tableFor shape (layout shape)) (.build (layout shape)) := by
  simp only [tableFor]
  cases known : cache.tables.lookup shape with
  | some table => exact ⟨fits _ (Association.mem_of_lookup_eq_some known), fits⟩
  | none =>
      refine ⟨rfl, ?_⟩
      intro entry member
      rcases List.mem_append.1 member with old | new
      · exact fits entry old
      · rw [List.mem_singleton.1 new]

theorem answers_resolveName? (fits : cache.Fits layout) (fitsTarget : target.Fits layout)
    (request : String) :
    Answers layout (cache.resolveName? target request)
      (SqlMapper.resolveName? target.names request) := by
  simp only [resolveName?]
  cases shaped : target.shape with
  | none => exact ⟨rfl, fits⟩
  | some shape =>
      have names := fitsTarget.names shape shaped
      have table := answers_tableFor fits shape
      rw [← names] at table
      refine ⟨?_, table.fits⟩
      simp only [table.same, MemberTable.resolve?_build]

theorem answers_member? (fits : cache.Fits layout) (fitsTarget : target.Fits layout)
    (request : String) : Answers layout (cache.member? target request) (target.find? request) := by
  have resolved := answers_resolveName? fits fitsTarget request
  exact ⟨by simp only [member?, resolved.same, Accessor.find?], resolved.fits⟩

theorem answers_step? (fits : cache.Fits layout) (fitsTarget : target.Fits layout) (name : String)
    (isLast : Bool) :
    Answers layout (cache.step? target name isLast) (target.step? name isLast) := by
  have member := answers_member? fits fitsTarget name
  simp only [step?, Accessor.step?]
  split
  · simp only [countOrMember?, Accessor.countOrFind?]
    cases target.count with
    | none => exact member
    | some count => exact ⟨rfl, fits⟩
  · exact member

theorem answers_follow? (segments : List String) (fits : cache.Fits layout)
    (fitsTarget : target.Fits layout) :
    Answers layout (cache.follow? target segments) (target.follow? segments) := by
  induction segments generalizing cache target with
  | nil => exact ⟨rfl, fits⟩
  | cons name rest ih =>
      cases rest with
      | nil => exact answers_step? fits fitsTarget name true
      | cons next others =>
          have first := answers_step? fits fitsTarget name false
          have fitsFirst := fitsTarget.step? name false
          simp only [follow?, Accessor.follow?]
          rw [← first.same] at fitsFirst ⊢
          have fitsAfter := first.fits
          generalize cache.step? target name false = answer at *
          rcases answer with ⟨_ | value, after⟩
          · exact ⟨rfl, fitsAfter⟩
          · exact ih fitsAfter (fitsFirst value rfl).accessor

/-- What a path leads to does not depend on the cache. -/
theorem answers_resolvePath (fits : cache.Fits layout) (fitsTarget : target.Fits layout)
    (segments : List String) :
    Answers layout (cache.resolvePath target segments) (target.read segments) := by
  have followed := answers_follow? segments fits fitsTarget
  exact ⟨by simp only [resolvePath, followed.same, Accessor.read], followed.fits⟩

end MemberCache

end SqlMapper
