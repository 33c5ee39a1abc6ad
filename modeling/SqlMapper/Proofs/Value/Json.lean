import SqlMapper.Proofs.Value.Record
import SqlMapper.Value.Json
import Mathlib

/-!
# Values come back from JSON

The JSON form of a value drops the shapes of records and the mark of checked identifiers, and writes
decimals as strings.  A value without decimals is read back as it was but for these shapes and marks.
Records were made by inserting fields, so their names are distinct and inserting the fields that are read
back neither replaces one nor moves it.
-/

namespace SqlMapper.Value

/-- The values directly inside a value, in order. -/
def children : Value → List Value
  | .list items => items
  | .object _ fields => fields.map (·.2)
  | _ => []

/-- Whether a value is another one or stands somewhere inside it. -/
inductive Within (inner : Value) : Value → Prop where
  | here : Within inner inner
  | inside {outer child : Value} (member : child ∈ outer.children) (within : Within inner child) :
      Within inner outer

/-- The values that can be made: the fields of records come in by insertion, one at a time. -/
inductive IsBuilt : Value → Prop where
  | null : IsBuilt .null
  | bool (value : Bool) : IsBuilt (.bool value)
  | int (value : Int64) : IsBuilt (.int value)
  | decimal (value : Decimal) : IsBuilt (.decimal value)
  | string (text : String) : IsBuilt (.string text)
  | identifier (name : SafeIdentifier) : IsBuilt (.identifier name)
  | list {items : List Value} (built : ∀ item ∈ items, IsBuilt item) : IsBuilt (.list items)
  | record (shape : Option String) : IsBuilt ({ shape } : Record).toValue
  | insert {record : Record} {value : Value} (fields : IsBuilt record.toValue) (name : String)
      (inserted : IsBuilt value) : IsBuilt (record.insert name value).toValue

mutual

/-- A value with all identifiers as strings of their text and all records without shapes. -/
def plain : Value → Value
  | .identifier name => .string name.text
  | .list items => .list (plainItems items)
  | .object _ fields => .object none (plainFields fields)
  | value => value

def plainItems : List Value → List Value
  | [] => []
  | item :: rest => plain item :: plainItems rest

def plainFields : List (String × Value) → List (String × Value)
  | [] => []
  | (name, value) :: rest => (name, plain value) :: plainFields rest

end

/-- What makes a value that JSON keeps. -/
structure IsKept (value : Value) : Prop where
  distinct : ∀ shape fields, Within (.object shape fields) value → (fields.map (·.1)).Nodup
  exact : ∀ number, ¬Within (.decimal number) value

variable {value : Value}

theorem within_iff {inner outer : Value} :
    Within inner outer ↔ inner = outer ∨ ∃ child ∈ outer.children, Within inner child := by
  constructor
  · intro within
    cases within with
    | here => exact .inl rfl
    | inside member deeper => exact .inr ⟨_, member, deeper⟩
  · rintro (rfl | ⟨child, member, deeper⟩)
    · exact .here
    · exact .inside member deeper

/-! ### Names -/

theorem IsBuilt.distinct (built : IsBuilt value) (shape : Option String)
    (fields : List (String × Value)) (within : Within (.object shape fields) value) :
    (fields.map (·.1)).Nodup := by
  induction built generalizing shape fields with
  | list _ ih =>
      cases within with
      | inside member deeper => exact ih _ member shape fields deeper
  | record =>
      cases within with
      | here => exact List.nodup_nil
      | inside member => cases member
  | insert _ _ _ ihRecord ihInserted =>
      cases within with
      | here => exact Record.nodup_names_insertField (ihRecord _ _ .here)
      | inside member deeper =>
          obtain ⟨field, isField, rfl⟩ := List.mem_map.1 member
          rcases Record.mem_insertField isField with new | old
          · rw [new] at deeper
            exact ihInserted shape fields deeper
          · exact ihRecord shape fields (.inside (List.mem_map_of_mem old) deeper)
  | _ =>
      cases within with
      | inside member => cases member

theorem IsKept.child {child : Value} (kept : value.IsKept) (member : child ∈ value.children) :
    child.IsKept :=
  ⟨fun shape fields within => kept.distinct shape fields (.inside member within),
    fun number within => kept.exact number (.inside member within)⟩

theorem names_plainFields (fields : List (String × Value)) :
    (plainFields fields).map (·.1) = fields.map (·.1) := by
  induction fields with
  | nil => rfl
  | cons field rest ih => rw [plainFields, List.map_cons, List.map_cons, ih]

/-! ### Reading back -/

theorem ofInt_toInt (number : Int64) : ofInt number.toInt = .int number := by
  have fits : (Int64.minValue.toInt ≤ number.toInt && number.toInt ≤ Int64.maxValue.toInt) = true := by
    rw [Bool.and_eq_true, decide_eq_true_eq, decide_eq_true_eq]
    exact ⟨number.minValue_le_toInt, number.toInt_le⟩
  rw [ofInt, if_pos fits, Int64.ofInt_toInt]

mutual

theorem ofJson_toJson_of_isKept : (value : Value) → value.IsKept → ofJson value.toJson = value.plain
  | .null, _ => rfl
  | .bool _, _ => rfl
  | .int number, _ => ofInt_toInt number
  | .decimal number, kept => absurd .here (kept.exact number)
  | .string _, _ => rfl
  | .identifier _, _ => rfl
  | .list items, kept => by
      rw [toJson, ofJson, plain, itemsOfJson_itemsToJson items fun item member => kept.child member]
  | .object shape fields, kept => by
      have read := fieldsOfJson_fieldsToJson fields fun field member =>
        kept.child (List.mem_map_of_mem member)
      have distinct : ((plainFields fields).map (·.1)).Nodup := by
        rw [names_plainFields]
        exact kept.distinct shape fields .here
      rw [toJson, ofJson, plain, read, Record.insertAll_of_nodup _ distinct]
      rfl

theorem itemsOfJson_itemsToJson : (items : List Value) → (∀ item ∈ items, item.IsKept) →
    itemsOfJson (itemsToJson items) = plainItems items
  | [], _ => rfl
  | item :: rest, kept => by
      rw [List.forall_mem_cons] at kept
      rw [itemsToJson, itemsOfJson, plainItems, ofJson_toJson_of_isKept item kept.1,
        itemsOfJson_itemsToJson rest kept.2]

theorem fieldsOfJson_fieldsToJson : (fields : List (String × Value)) →
    (∀ field ∈ fields, field.2.IsKept) → fieldsOfJson (fieldsToJson fields) = plainFields fields
  | [], _ => rfl
  | (name, value) :: rest, kept => by
      rw [List.forall_mem_cons] at kept
      rw [fieldsToJson, fieldsOfJson, plainFields, ofJson_toJson_of_isKept value kept.1,
        fieldsOfJson_fieldsToJson rest kept.2]

end

/-- The order of fields and items and all whole numbers come back as they were. -/
theorem ofJson_toJson (built : value.IsBuilt) (exact : ∀ number, ¬Within (.decimal number) value) :
    ofJson value.toJson = value.plain :=
  ofJson_toJson_of_isKept value ⟨built.distinct, exact⟩

/-- A record with the least number, a checked identifier and a list of records in it, one of whose fields
was set twice. -/
theorem ofJson_toJson_order :
    let column : SafeIdentifier := ⟨"orders.id", by decide +kernel⟩
    let line := ((({} : Record).insert "n" (.int 1)).insert "of" .null).insert "n" (.int Int64.minValue)
    let order := (({ shape := some "Order" } : Record).insert "by" (.identifier column)).insert "lines"
      (.list [line.toValue, .bool true])
    order.toValue.IsBuilt ∧ (∀ number, ¬Within (.decimal number) order.toValue) ∧
      ofJson order.toValue.toJson = order.toValue.plain ∧
      order.toValue.plain = .object none [("by", .string "orders.id"),
        ("lines", .list [.object none [("n", .int Int64.minValue), ("of", .null)], .bool true])] := by
  intro column line order
  have lineBuilt : line.toValue.IsBuilt :=
    (((IsBuilt.record none).insert "n" (.int 1)).insert "of" .null).insert "n" (.int _)
  have built : order.toValue.IsBuilt := by
    apply (((IsBuilt.record _).insert "by" (.identifier column)).insert "lines")
    apply IsBuilt.list
    simp [lineBuilt, IsBuilt.bool]
  have exact : ∀ number, ¬Within (.decimal number) order.toValue := by
    intro number
    have leaf (value : Value) (other : .decimal number ≠ value) (empty : value.children = []) :
        ¬Within (.decimal number) value := by
      rw [within_iff, empty]
      simpa using other
    have inLine : ¬Within (.decimal number) line.toValue := by
      have written : line.toValue = .object none [("n", .int Int64.minValue), ("of", .null)] := rfl
      rw [written, within_iff]
      simp [children, leaf (.int Int64.minValue) nofun rfl, leaf .null nofun rfl]
    have inLines : ¬Within (.decimal number) (.list [line.toValue, .bool true]) := by
      rw [within_iff]
      simp [children, inLine, leaf (.bool true) nofun rfl]
    have written : order.toValue = .object (some "Order")
        [("by", .identifier column), ("lines", .list [line.toValue, .bool true])] := rfl
    rw [written, within_iff]
    simp [children, inLines, leaf (.identifier column) nofun rfl]
  exact ⟨built, exact, ofJson_toJson built exact, rfl⟩

end SqlMapper.Value
