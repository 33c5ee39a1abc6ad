import SqlMapper.Value.Basic
import Mathlib

/-!
# Inserting into records

A field whose name is taken replaces the value of that name in its place, and any other field is put
behind the fields.  So names stay distinct, and fields of new names are kept as they are and in their
order.
-/

namespace SqlMapper.Record

theorem lookup_insertField (name : String) (value : Value) (fields : List (String × Value))
    (key : String) :
    (insertField name value fields).lookup key =
      if key = name then some value else fields.lookup key := by
  induction fields with
  | nil =>
      cases same : key == name with
      | true => simp [insertField, beq_iff_eq.1 same]
      | false => simp [insertField, List.lookup_cons, same, beq_eq_false_iff_ne.1 same]
  | cons field rest ih =>
      rcases field with ⟨other, old⟩
      by_cases found : other = name
      · subst found
        cases same : key == other with
        | true => simp [insertField, beq_iff_eq.1 same]
        | false => simp [insertField, List.lookup_cons, same, beq_eq_false_iff_ne.1 same]
      · cases same : key == other with
        | true => simp [insertField, found, beq_iff_eq.1 same]
        | false => simp [insertField, found, List.lookup_cons, same, ih]

theorem names_insertField (name : String) (value : Value) (fields : List (String × Value)) :
    (insertField name value fields).map (·.1) =
      if name ∈ fields.map (·.1) then fields.map (·.1) else fields.map (·.1) ++ [name] := by
  induction fields with
  | nil => simp [insertField]
  | cons field rest ih =>
      rcases field with ⟨other, old⟩
      by_cases found : other = name
      · simp [insertField, found]
      · have differ : name ≠ other := fun same => found same.symm
        simp only [insertField, found, beq_iff_eq, if_false, List.map_cons, ih, List.mem_cons, differ,
          false_or]
        split <;> rfl

@[simp]
theorem shape_insertAll (record : Record) (fields : List (String × Value)) :
    (record.insertAll fields).shape = record.shape := by
  induction fields generalizing record with
  | nil => rfl
  | cons field rest ih => exact ih _

/-- Of several values for a name the last one is kept, and all of them are equal here. -/
theorem get?_insertAll (record : Record) (names : List String) (held : String → Value) (key : String) :
    (record.insertAll (names.map fun name => (name, held name))).get? key =
      if key ∈ names then some (held key) else record.get? key := by
  induction names generalizing record with
  | nil => simp [insertAll]
  | cons name rest ih =>
      have later := ih (record.insert name (held name))
      have first : (record.insert name (held name)).get? key =
          if key = name then some (held name) else record.get? key :=
        lookup_insertField name (held name) record.fields key
      rw [List.map_cons, insertAll, List.foldl_cons, ← insertAll, later, first]
      by_cases same : key = name
      · simp [same]
      · simp [same]

theorem mem_insertField {name : String} {value : Value} {fields : List (String × Value)}
    {field : String × Value} (member : field ∈ insertField name value fields) :
    field.2 = value ∨ field ∈ fields := by
  induction fields with
  | nil => exact .inl (by rw [List.mem_singleton.1 member])
  | cons first rest ih =>
      rw [insertField] at member
      split at member
      · rcases List.mem_cons.1 member with rfl | later
        · exact .inl rfl
        · exact .inr (List.mem_cons_of_mem _ later)
      · rcases List.mem_cons.1 member with rfl | later
        · exact .inr List.mem_cons_self
        · exact (ih later).imp_right (List.mem_cons_of_mem _)

theorem nodup_names_insertField {name : String} {value : Value} {fields : List (String × Value)}
    (distinct : (fields.map (·.1)).Nodup) : ((insertField name value fields).map (·.1)).Nodup := by
  rw [names_insertField]
  split
  · exact distinct
  · rename_i fresh
    exact List.nodup_append.2 ⟨distinct, List.nodup_singleton name, by grind⟩

theorem insertField_of_fresh {name : String} {fields : List (String × Value)}
    (fresh : name ∉ fields.map (·.1)) (value : Value) :
    insertField name value fields = fields ++ [(name, value)] := by
  induction fields with
  | nil => rfl
  | cons first rest ih =>
      rw [List.map_cons, List.mem_cons, not_or] at fresh
      have other : (first.1 == name) = false := beq_false_of_ne (Ne.symm fresh.1)
      rw [insertField, other, if_neg Bool.false_ne_true, ih fresh.2, List.cons_append]

/-- Fields of distinct new names are put behind the fields as they are. -/
theorem insertAll_of_nodup (record : Record) {fields : List (String × Value)}
    (distinct : ((record.fields ++ fields).map (·.1)).Nodup) :
    record.insertAll fields = { record with fields := record.fields ++ fields } := by
  induction fields generalizing record with
  | nil => rw [List.append_nil]; rfl
  | cons field rest ih =>
      have fresh : field.1 ∉ record.fields.map (·.1) := by
        rw [List.map_append, List.map_cons] at distinct
        intro known
        exact (List.disjoint_of_nodup_append distinct) known List.mem_cons_self
      have first : record.insert field.1 field.2 =
          { record with fields := record.fields ++ [field] } := by
        rw [insert, insertField_of_fresh fresh]
      rw [insertAll, List.foldl_cons, ← insertAll, first, ih]
      · simp
      · simpa using distinct

end SqlMapper.Record
