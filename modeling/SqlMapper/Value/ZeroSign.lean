import SqlMapper.Member.Accessor
import SqlMapper.Value.Compare

/-!
# The sign of zero

A decimal zero may carry a sign, but a number that is written by its units has no sign to give to a
zero.  Two values that differ in such a sign only have the same text, the same members, the same
truth and the same comparisons.
-/

namespace SqlMapper

namespace Decimal

/-- The number that the same units and places write: a zero without its sign. -/
def dropZeroSign (number : Decimal) : Decimal :=
  { number with negative := number.negative && number.coefficient != 0 }

@[simp] theorem units_dropZeroSign (number : Decimal) :
    number.dropZeroSign.units = number.units := by
  unfold dropZeroSign units
  by_cases zero : number.coefficient = 0 <;> simp [zero]

@[simp] theorem scale_dropZeroSign (number : Decimal) :
    number.dropZeroSign.scale = number.scale := rfl

@[simp] theorem equal_dropZeroSign_left (left right : Decimal) :
    left.dropZeroSign.equal right = left.equal right := by
  simp [equal]

@[simp] theorem equal_dropZeroSign_right (left right : Decimal) :
    left.equal right.dropZeroSign = left.equal right := by
  simp [equal]

@[simp] theorem order_dropZeroSign_left (left right : Decimal) :
    left.dropZeroSign.order right = left.order right := by
  simp [order]

@[simp] theorem order_dropZeroSign_right (left right : Decimal) :
    left.order right.dropZeroSign = left.order right := by
  simp [order]

@[simp] theorem dropZeroSign_dropZeroSign (number : Decimal) :
    number.dropZeroSign.dropZeroSign = number.dropZeroSign := by
  simp [dropZeroSign]

@[simp] theorem normalize_dropZeroSign (number : Decimal) :
    number.dropZeroSign.normalize = number.normalize := by
  simp [dropZeroSign, normalize]

end Decimal

namespace Value

/-- The value without the sign of a decimal zero. -/
def dropZeroSign : Value → Value
  | .decimal number => .decimal number.dropZeroSign
  | other => other

@[simp] theorem kind_dropZeroSign (value : Value) : value.dropZeroSign.kind = value.kind := by
  cases value <;> rfl

@[simp] theorem isNull_dropZeroSign (value : Value) : value.dropZeroSign.isNull = value.isNull := by
  simp [isNull]

@[simp] theorem toText_dropZeroSign (value : Value) : value.dropZeroSign.toText = value.toText := by
  cases value <;> simp [dropZeroSign, toText]

@[simp] theorem truthy_dropZeroSign (value : Value) : value.dropZeroSign.truthy = value.truthy := by
  cases value <;> rfl

@[simp] theorem items?_dropZeroSign (value : Value) : value.dropZeroSign.items? = value.items? := by
  cases value <;> rfl

@[simp] theorem accessor_dropZeroSign (value : Value) :
    value.dropZeroSign.accessor = value.accessor := by
  cases value <;> rfl

@[simp] theorem same_decimal_dropZeroSign_left (number : Decimal) (right : Value) :
    same (.decimal number.dropZeroSign) right = same (.decimal number) right := by
  cases right <;> simp [same]

@[simp] theorem same_decimal_dropZeroSign_right (left : Value) (number : Decimal) :
    same left (.decimal number.dropZeroSign) = same left (.decimal number) := by
  cases left <;> simp [same]

@[simp] theorem looselyEqual_dropZeroSign_left (left right : Value) :
    looselyEqual left.dropZeroSign right = looselyEqual left right := by
  cases left with
  | decimal number => cases right <;> simp [dropZeroSign, looselyEqual, decimal?, coerce?, toText]
  | _ => rfl

@[simp] theorem looselyEqual_dropZeroSign_right (left right : Value) :
    looselyEqual left right.dropZeroSign = looselyEqual left right := by
  cases right with
  | decimal number => cases left <;> simp [dropZeroSign, looselyEqual, decimal?, coerce?, toText]
  | _ => rfl

@[simp] theorem order?_dropZeroSign_left (left right : Value) :
    order? left.dropZeroSign right = order? left right := by
  cases left with
  | decimal number => cases right <;> simp [dropZeroSign, order?, decimal?]
  | _ => rfl

@[simp] theorem order?_dropZeroSign_right (left right : Value) :
    order? left right.dropZeroSign = order? left right := by
  cases right with
  | decimal number => cases left <;> simp [dropZeroSign, order?, decimal?, coerce?, toText]
  | _ => rfl

@[simp] theorem canonical_dropZeroSign (value : Value) :
    value.dropZeroSign.canonical = value.canonical.dropZeroSign := by
  cases value <;> rfl

@[simp] theorem compare_dropZeroSign_left (left : Value) (op : CompareOp) (right : Value) :
    left.dropZeroSign.compare op right = left.compare op right := by
  simp [compare]

@[simp] theorem compare_dropZeroSign_right (left : Value) (op : CompareOp) (right : Value) :
    left.compare op right.dropZeroSign = left.compare op right := by
  simp [compare]

@[simp] theorem dropZeroSign_dropZeroSign (value : Value) :
    value.dropZeroSign.dropZeroSign = value.dropZeroSign := by
  cases value <;> simp [dropZeroSign]

/-- Two values that differ in the sign of a decimal zero at most. -/
def Alike (left right : Value) : Prop :=
  left.dropZeroSign = right.dropZeroSign

namespace Alike

variable {left right : Value}

theorem refl (value : Value) : value.Alike value := rfl

theorem kind_eq (alike : left.Alike right) : left.kind = right.kind := by
  rw [← kind_dropZeroSign left, alike, kind_dropZeroSign]

theorem toText_eq (alike : left.Alike right) : left.toText = right.toText := by
  rw [← toText_dropZeroSign left, alike, toText_dropZeroSign]

theorem truthy_eq (alike : left.Alike right) : left.truthy = right.truthy := by
  rw [← truthy_dropZeroSign left, alike, truthy_dropZeroSign]

theorem items?_eq (alike : left.Alike right) : left.items? = right.items? := by
  rw [← items?_dropZeroSign left, alike, items?_dropZeroSign]

theorem accessor_eq (alike : left.Alike right) : left.accessor = right.accessor := by
  rw [← accessor_dropZeroSign left, alike, accessor_dropZeroSign]

theorem compare_eq (alike : left.Alike right) (op : CompareOp) (other : Value) :
    left.compare op other = right.compare op other := by
  rw [← compare_dropZeroSign_left left, alike, compare_dropZeroSign_left]

end Alike

end Value

end SqlMapper
