import SqlMapper.Proofs.Text.Bytes
import SqlMapper.Proofs.Value.Consistency

/-!
# Total orders of values

Numbers, texts and truth values are each in a total preorder, of which the six operators are the
relations: numbers by the rational number that they stand for, whatever their places, texts by the bytes
of their UTF-8 form, and false before true.
-/

namespace SqlMapper

/-- The rational number that a decimal number writes. -/
def Decimal.toRat (number : Decimal) : ℚ :=
  number.units / 10 ^ number.scale

/-- Over a common denominator two numbers have the order of their numerators. -/
theorem Decimal.order_eq_compare_toRat (left right : Decimal) :
    left.order right = compare left.toRat right.toRat := by
  have denominator : (0 : ℚ) < 10 ^ left.scale * 10 ^ right.scale := by positivity
  have leftNumerator : left.toRat * (10 ^ left.scale * 10 ^ right.scale) =
      ((left.units * Nat.pow 10 right.scale : ℤ) : ℚ) := by
    simp only [toRat, Nat.pow_eq]
    push_cast
    field_simp
  have rightNumerator : right.toRat * (10 ^ left.scale * 10 ^ right.scale) =
      ((right.units * Nat.pow 10 left.scale : ℤ) : ℚ) := by
    simp only [toRat, Nat.pow_eq]
    push_cast
    field_simp
  calc left.order right
      = cmp (left.units * Nat.pow 10 right.scale : ℤ) (right.units * Nat.pow 10 left.scale) :=
        (cmp_eq_compare _ _).symm
    _ = cmp ((left.units * Nat.pow 10 right.scale : ℤ) : ℚ)
          ((right.units * Nat.pow 10 left.scale : ℤ) : ℚ) := (Int.cast_strictMono.cmp_map_eq _ _).symm
    _ = cmp left.toRat right.toRat := by
      rw [← leftNumerator, ← rightNumerator, cmp_mul_pos_right denominator]
    _ = compare left.toRat right.toRat := cmp_eq_compare _ _

namespace Value

/-- The rational number that a number stands for. -/
def rational? : Value → Option ℚ
  | .int n => some n.toInt
  | .decimal number => some number.toRat
  | _ => none

/-- The bytes of a text. -/
def bytes? : Value → Option (List UInt8)
  | .string text => some (Text.bytes text)
  | .identifier name => some (Text.bytes name.text)
  | _ => none

def flag? : Value → Option Bool
  | .bool flag => some flag
  | _ => none

/-- The order of keys decides all comparisons between values that have one. -/
def OrderedBy {α : Type} [Ord α] (key? : Value → Option α) : Prop :=
  ∀ ⦃a b : Value⦄ ⦃x y : α⦄, key? a = some x → key? b = some y →
    ∀ op : CompareOp, a.compare op b = op.accepts (Ord.compare x y)

/-- Whether values compare as their keys do, in the direction of the keys. -/
def ComparedBy {α : Type} [LT α] (key? : Value → Option α) : Prop :=
  ∀ ⦃a b : Value⦄ ⦃x y : α⦄, key? a = some x → key? b = some y →
    (a.compare .lt b ↔ x < y) ∧ (a.compare .eq b ↔ x = y) ∧ (a.compare .gt b ↔ y < x)

/-- Among some values the six operators are the relations of one total preorder. -/
structure TotallyPreordered (member : Value → Prop) : Prop where
  one {a b : Value} (isA : member a) (isB : member b) : ∃! op, op ∈ strictOps ∧ a.compare op b
  ge {a b : Value} (isA : member a) (isB : member b) : a.compare .ge b = !a.compare .lt b
  le {a b : Value} (isA : member a) (isB : member b) : a.compare .le b = !a.compare .gt b
  ne {a b : Value} (isA : member a) (isB : member b) : a.compare .ne b = !a.compare .eq b
  gt_swap {a b : Value} (isA : member a) (isB : member b) : a.compare .gt b = b.compare .lt a
  eq_symm {a b : Value} (isA : member a) (isB : member b) : a.compare .eq b = b.compare .eq a
  lt_trans {a b c : Value} (isA : member a) (isB : member b) (isC : member c)
    (ab : a.compare .lt b) (bc : b.compare .lt c) : a.compare .lt c
  eq_trans {a b c : Value} (isA : member a) (isB : member b) (isC : member c)
    (ab : a.compare .eq b) (bc : b.compare .eq c) : a.compare .eq c

theorem OrderedBy.totallyPreordered {α : Type} [Ord α] [Std.TransOrd α] {key? : Value → Option α}
    (ordered : OrderedBy key?) : TotallyPreordered fun value => ∃ key, key? value = some key where
  one := by
    rintro a b ⟨x, keyA⟩ ⟨y, keyB⟩
    exact (consistent_of_accepts (ordered keyA keyB)).one
  ge := by
    rintro a b ⟨x, keyA⟩ ⟨y, keyB⟩
    rw [ordered keyA keyB, ordered keyA keyB]
    rfl
  le := by
    rintro a b ⟨x, keyA⟩ ⟨y, keyB⟩
    rw [ordered keyA keyB, ordered keyA keyB]
    rfl
  ne := by
    rintro a b ⟨x, keyA⟩ ⟨y, keyB⟩
    rw [ordered keyA keyB, ordered keyA keyB]
    rfl
  gt_swap := by
    rintro a b ⟨x, keyA⟩ ⟨y, keyB⟩
    rw [ordered keyA keyB, ordered keyB keyA, Bool.eq_iff_iff]
    simp only [CompareOp.accepts, beq_iff_eq]
    exact Std.OrientedCmp.gt_iff_lt
  eq_symm := by
    rintro a b ⟨x, keyA⟩ ⟨y, keyB⟩
    rw [ordered keyA keyB, ordered keyB keyA, Bool.eq_iff_iff]
    simp only [CompareOp.accepts, beq_iff_eq]
    exact Std.OrientedCmp.eq_comm
  lt_trans := by
    rintro a b c ⟨x, keyA⟩ ⟨y, keyB⟩ ⟨z, keyC⟩ ab bc
    rw [ordered keyA keyB, CompareOp.accepts, beq_iff_eq] at ab
    rw [ordered keyB keyC, CompareOp.accepts, beq_iff_eq] at bc
    rw [ordered keyA keyC, CompareOp.accepts, beq_iff_eq]
    exact Std.TransCmp.lt_trans ab bc
  eq_trans := by
    rintro a b c ⟨x, keyA⟩ ⟨y, keyB⟩ ⟨z, keyC⟩ ab bc
    rw [ordered keyA keyB, CompareOp.accepts, beq_iff_eq] at ab
    rw [ordered keyB keyC, CompareOp.accepts, beq_iff_eq] at bc
    rw [ordered keyA keyC, CompareOp.accepts, beq_iff_eq]
    exact Std.TransCmp.eq_trans ab bc

theorem OrderedBy.comparedBy {α : Type} [Ord α] [Std.TransOrd α] [Std.LawfulEqOrd α] [LT α]
    {key? : Value → Option α} (ordered : OrderedBy key?)
    (less : ∀ x y : α, Ord.compare x y = .lt ↔ x < y) : ComparedBy key? := by
  intro a b x y keyA keyB
  have decided (op : CompareOp) : a.compare op b = op.accepts (Ord.compare x y) := ordered keyA keyB op
  simp only [decided, CompareOp.accepts, beq_iff_eq]
  exact ⟨less x y, Std.compare_eq_iff_eq, Std.OrientedCmp.gt_iff_lt.trans (less y x)⟩

/-! ### Keys -/

theorem exists_decimal_of_rational? {value : Value} {x : ℚ} (key : value.rational? = some x) :
    ∃ number, value.decimal? = some number ∧ number.toRat = x := by
  cases value <;> cases key
  case int.refl n =>
    refine ⟨.ofInt64 n, rfl, ?_⟩
    rw [Decimal.toRat, Decimal.units_ofInt64]
    exact div_one _
  case decimal.refl number => exact ⟨number, rfl, rfl⟩

theorem orderedBy_rational? : OrderedBy rational? := by
  intro a b x y keyA keyB
  rcases exists_decimal_of_rational? keyA with ⟨l, numberA, rfl⟩
  rcases exists_decimal_of_rational? keyB with ⟨r, numberB, rfl⟩
  have ordered : Ordered a b (l.order r) := by
    cases a <;> cases numberA <;> cases b <;> cases numberB <;> exact ⟨rfl, rfl, rfl⟩
  have meant : ¬Misread a b := fun misread => by
    rw [misread.text] at numberB
    cases numberB
  rw [← Decimal.order_eq_compare_toRat]
  exact ordered.compare_eq_accepts meant

theorem exists_text_of_bytes? {value : Value} {x : List UInt8} (key : value.bytes? = some x) :
    ∃ text, value.isNull = false ∧ value.canonical = .string text ∧ Text.bytes text = x := by
  cases value <;> cases key
  case string.refl text => exact ⟨text, rfl, rfl, rfl⟩
  case identifier.refl name => exact ⟨name.text, rfl, rfl, rfl⟩

theorem orderedBy_bytes? : OrderedBy bytes? := by
  intro a b x y keyA keyB
  rcases exists_text_of_bytes? keyA with ⟨l, presentA, textA, rfl⟩
  rcases exists_text_of_bytes? keyB with ⟨r, presentB, textB, rfl⟩
  have ordered : Ordered a b (Ord.compare l r) := ⟨presentA, presentB, by rw [textA, textB]; rfl⟩
  have meant : ¬Misread a b := fun misread => by
    rw [← misread_canonical, textA] at misread
    cases misread.int
  rw [Text.compare_bytes]
  exact ordered.compare_eq_accepts meant

theorem orderedBy_flag? : OrderedBy flag? := by
  intro a b x y keyA keyB
  cases a <;> cases keyA
  cases b <;> cases keyB
  have ordered : Ordered (.bool x) (.bool y) (Ord.compare x y) := ⟨rfl, rfl, rfl⟩
  exact ordered.compare_eq_accepts fun misread => nomatch misread.int

/-- Numbers, texts and truth values are each totally preordered by the six operators: numbers by the
rational numbers that they stand for, texts by their bytes, and false comes before true. -/
theorem totallyPreordered_kinds :
    (OrderedBy rational? ∧ ComparedBy rational? ∧
        TotallyPreordered fun value => ∃ number, value.rational? = some number) ∧
      (OrderedBy bytes? ∧ ComparedBy bytes? ∧
        TotallyPreordered fun value => ∃ bytes, value.bytes? = some bytes) ∧
      OrderedBy flag? ∧ ComparedBy flag? ∧
        TotallyPreordered fun value => ∃ flag, value.flag? = some flag := by
  refine ⟨⟨orderedBy_rational?, ?_, orderedBy_rational?.totallyPreordered⟩,
    ⟨orderedBy_bytes?, ?_, orderedBy_bytes?.totallyPreordered⟩,
    orderedBy_flag?, ?_, orderedBy_flag?.totallyPreordered⟩
  · exact orderedBy_rational?.comparedBy fun _ _ => compare_lt_iff_lt
  · exact orderedBy_bytes?.comparedBy Text.compare_eq_lt_iff_lt
  · exact orderedBy_flag?.comparedBy (by decide)

-- in the order of UTF-16 units the second text would be the smaller one
example : (Value.string "\uffff").compare .lt (.string "😀") := by decide +kernel

end Value

end SqlMapper
