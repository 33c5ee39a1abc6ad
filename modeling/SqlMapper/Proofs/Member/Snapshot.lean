import SqlMapper.Proofs.Member.Layout
import SqlMapper.Proofs.Value.Record

/-!
# Snapshots of parameter objects

A snapshot holds every declared member of an object, each name once and absent members as null.  It is
prepared for requests by the same member table, and the end of a path does not tell a member that is null
from one that is missing.  So paths lead to the same values in both, and leave the same tables behind.
-/

namespace SqlMapper

namespace MemberTable

theorem build_concat (names : List String) (name : String) :
    build (names ++ [name]) = (build names).insert name := by
  simp only [build, List.foldl_append, List.foldl_cons, List.foldl_nil]

/-- A name that was entered before changes nothing. -/
theorem insert_build_of_mem {names : List String} {name : String} (member : name ∈ names) :
    (build names).insert name = build names := by
  have declared : name ∈ (build names).declared :=
    (mem_declared_foldl names {} name).2 (.inr member)
  have folded : ((build names).folded.lookup (Text.foldCase name)).isSome := by
    rw [build, lookup_folded_foldl, List.lookup_nil, Option.none_or, List.find?_isSome]
    exact ⟨name, member, beq_self_eq_true _⟩
  simp only [insert, declared, folded, if_true]

/-- The fields of a record are prepared as the names that were inserted, repeated ones included. -/
theorem build_insertAll (record : Record) (fields : List (String × Value)) :
    build ((record.insertAll fields).fields.map (·.1)) =
      build (record.fields.map (·.1) ++ fields.map (·.1)) := by
  induction fields generalizing record with
  | nil => simp [Record.insertAll]
  | cons field rest ih =>
      have later := ih (record.insert field.1 field.2)
      have entered : build ((record.insert field.1 field.2).fields.map (·.1)) =
          build (record.fields.map (·.1) ++ [field.1]) := by
        rw [Record.insert, Record.names_insertField, build_concat]
        split
        · rename_i known
          exact (insert_build_of_mem known).symm
        · exact build_concat _ _
      rw [Record.insertAll, List.foldl_cons, ← Record.insertAll, later, List.map_cons]
      simp only [build, List.foldl_append, List.foldl_cons, List.foldl_nil] at entered ⊢
      rw [entered]

end MemberTable

/-! ### Copies -/

/-- Whether a parameter object without a count has the members of another one, except that it may hold
null for a member that is absent there. -/
structure Accessor.Copies (copy source : Accessor) : Prop where
  shape : copy.shape = source.shape
  table : MemberTable.build copy.names = .build source.names
  uncounted : copy.count = none ∧ source.count = none
  member : ∀ name, copy.member? name = source.member? name ∨
    copy.member? name = some .null ∧ source.member? name = none

theorem Accessor.snapshot_copies {source : Accessor} (uncounted : source.count = none)
    (listed : ∀ name, source.member? name ≠ none → name ∈ source.names) :
    source.snapshot.accessor.Copies source where
  shape := Record.shape_insertAll _ _
  table := by
    have built := MemberTable.build_insertAll { shape := source.shape }
      (source.names.map fun name => (name, (source.member? name).getD .null))
    simp only [List.map_nil, List.nil_append, List.map_map] at built
    exact built.trans (congrArg MemberTable.build (List.map_id source.names))
  uncounted := ⟨rfl, uncounted⟩
  member := by
    intro name
    have held : source.snapshot.accessor.member? name =
        if name ∈ source.names then some ((source.member? name).getD .null) else none :=
      Record.get?_insertAll _ _ _ _
    rw [held]
    cases found : source.member? name with
    | none =>
        by_cases known : name ∈ source.names
        · exact .inr (by simp [known])
        · exact .inl (by simp [known])
    | some value =>
        have known : name ∈ source.names := listed name (by simp [found])
        exact .inl (by simp [known])

namespace MemberCache

variable {copy source : Accessor}

theorem resolveName?_eq_of_copies (copies : copy.Copies source) (cache : MemberCache)
    (request : String) : cache.resolveName? copy request = cache.resolveName? source request := by
  simp only [resolveName?, tableFor, copies.shape, copies.table, ← MemberTable.resolve?_build]

/-- A lookup finds the same in a copy, or null where there is nothing. -/
theorem member?_of_copies (copies : copy.Copies source) (cache : MemberCache) (request : String) :
    cache.member? copy request = cache.member? source request ∨
      ∃ after, cache.member? copy request = (some .null, after) ∧
        cache.member? source request = (none, after) := by
  simp only [member?, resolveName?_eq_of_copies copies]
  cases (cache.resolveName? source request).1 with
  | none => exact .inl rfl
  | some name =>
      rcases copies.member name with same | ⟨isNull, missing⟩
      · exact .inl (by simp [same])
      · refine .inr ⟨(cache.resolveName? source request).2, ?_, ?_⟩
        · simp [isNull]
        · simp [missing]

theorem step?_eq_member?_of_uncounted {target : Accessor} (uncounted : target.count = none)
    (cache : MemberCache) (name : String) (isLast : Bool) :
    cache.step? target name isLast = cache.member? target name := by
  simp [step?, countOrMember?, uncounted]

/-- Nothing is found in null, and nothing is cached for it. -/
theorem follow?_null (cache : MemberCache) (segments : List String) :
    cache.follow? Value.null.accessor segments = (none, cache) := by
  have step (name : String) (isLast : Bool) :
      cache.step? Value.null.accessor name isLast = (none, cache) := by
    rw [step?_eq_member?_of_uncounted rfl]
    rfl
  cases segments with
  | nil => rfl
  | cons name rest =>
      cases rest with
      | nil => exact step name true
      | cons next others => simp only [follow?, step]

/-- A path leads to the same value in a copy, from every cache, and leaves the same cache behind. -/
theorem resolvePath_eq_of_copies (copies : copy.Copies source) (cache : MemberCache)
    (segments : List String) : cache.resolvePath copy segments = cache.resolvePath source segments := by
  have step (name : String) (isLast : Bool) :
      cache.step? copy name isLast = cache.step? source name isLast ∨
        ∃ after, cache.step? copy name isLast = (some .null, after) ∧
          cache.step? source name isLast = (none, after) := by
    rw [step?_eq_member?_of_uncounted copies.uncounted.1,
      step?_eq_member?_of_uncounted copies.uncounted.2]
    exact member?_of_copies copies cache name
  cases segments with
  | nil => rfl
  | cons name rest =>
      cases rest with
      | nil =>
          simp only [resolvePath, follow?]
          rcases step name true with same | ⟨after, isNull, missing⟩
          · rw [same]
          · rw [isNull, missing]
            rfl
      | cons next others =>
          simp only [resolvePath, follow?]
          rcases step name false with same | ⟨after, isNull, missing⟩
          · rw [same]
          · rw [isNull, missing]
            dsimp only
            rw [follow?_null]

end MemberCache

end SqlMapper
