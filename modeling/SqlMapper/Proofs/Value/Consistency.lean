import SqlMapper.Proofs.Decimal.Whole
import SqlMapper.Value.Compare
import Mathlib

/-!
# Consistent comparisons

Order and equality take different ways to a common form of two values.  They meet in the same form but
for one pair of ways: beside a whole number, order reads a text as a decimal number and equality reads it
as a whole number.  Where the text is only the former, and of the same value, the two values are neither
equal nor one below the other, and yet both weak relations hold of them.
-/

namespace SqlMapper

namespace Decimal

theorem order_eq_iff {left right : Decimal} : left.order right = .eq ↔ left.equal right := by
  simp [order, equal]

theorem equal_eq_order (left right : Decimal) : left.equal right = (left.order right == .eq) := by
  rw [Bool.eq_iff_iff, ← order_eq_iff, beq_iff_eq]

theorem units_ofInt64 (n : Int64) : (ofInt64 n).units = n.toInt := by
  simp only [units, ofInt64, decide_eq_true_eq]
  split <;> omega

theorem equal_ofInt64_iff {n m : Int64} {number : Decimal} (value : number.units = m.toInt)
    (whole : number.scale = 0) : (ofInt64 n).equal number ↔ n = m := by
  rw [equal, units_ofInt64, whole, value, ← Int64.toInt_inj]
  simp [ofInt64]

end Decimal

namespace Value

/-! ### What decides the order -/

/-- The common form in which two values are ordered, and the order that they have in it. -/
inductive Meet : Value → Value → Ordering → Prop where
  | numbers {left right : Value} {l r : Decimal} (leftNumber : left.decimal? = some l)
      (rightNumber : right.decimal? = some r) : Meet left right (l.order r)
  | reading {left : Value} {l r : Decimal} {text : String} (leftNumber : left.decimal? = some l)
      (read : Decimal.read? (Text.trim text.toList) = some r) : Meet left (.string text) (l.order r)
  | texts {right : Value} (l : String) {r : String}
      (text : right.coerce? (.string l) = some (.string r)) :
      Meet (.string l) right (Ord.compare l r)
  | flags {right : Value} (l : Bool) {r : Bool} (flag : right.coerce? (.bool l) = some (.bool r)) :
      Meet (.bool l) right (Ord.compare l r)

theorem order?_string {left : Value} {l : Decimal} (number : left.decimal? = some l) (text : String) :
    order? left (.string text) = (Decimal.read? (Text.trim text.toList)).map l.order := by
  cases left <;> cases number <;> exact Option.map_eq_bind.symm

theorem order?_of_ne_string {left right : Value} {l : Decimal} (number : left.decimal? = some l)
    (other : right.kind ≠ .string) : order? left right = right.decimal?.map l.order := by
  cases right with
  | string text => exact absurd rfl other
  | _ => cases left <;> cases number <;> rfl

theorem meet_of_decimal? {left right : Value} {l : Decimal} {order : Ordering}
    (number : left.decimal? = some l) (ordered : order? left right = some order) :
    Meet left right order := by
  by_cases isText : right.kind = .string
  · cases right <;> cases isText
    rw [order?_string number] at ordered
    rcases Option.map_eq_some_iff.1 ordered with ⟨r, read, rfl⟩
    exact .reading number read
  · rw [order?_of_ne_string number isText] at ordered
    rcases Option.map_eq_some_iff.1 ordered with ⟨r, rightNumber, rfl⟩
    exact .numbers number rightNumber

theorem meet_of_order? {left right : Value} {order : Ordering}
    (ordered : order? left right = some order) : Meet left right order := by
  cases left with
  | int n => exact meet_of_decimal? rfl ordered
  | decimal number => exact meet_of_decimal? rfl ordered
  | string l =>
      simp only [order?] at ordered
      split at ordered
      · rename_i r text
        cases ordered
        exact .texts l text
      · cases ordered
  | bool l =>
      simp only [order?] at ordered
      split at ordered
      · rename_i r flag
        cases ordered
        exact .flags l flag
      · cases ordered
  | _ => cases ordered

/-! ### What decides equality -/

theorem looselyEqual_of_decimal? {left right : Value} {l r : Decimal} (leftNumber : left.decimal? = some l)
    (rightNumber : right.decimal? = some r) : looselyEqual left right = l.equal r := by
  have alike : same left right → l.equal r := by
    intro same
    cases left <;> cases leftNumber <;> cases right <;> cases rightNumber
    case int.refl.int.refl n m =>
      obtain rfl : n = m := by simpa [Value.same] using same
      simp [Decimal.equal]
    case decimal.refl.decimal.refl => exact same
    all_goals cases same
  simp only [looselyEqual, leftNumber, rightNumber]
  split
  · rename_i same
    exact (alike same).symm
  · rfl

theorem looselyEqual_of_coerce? {left right common : Value}
    (noNumbers : left.decimal? = none ∨ right.decimal? = none)
    (coerced : right.coerce? left = some common) (kept : same left right → same left common) :
    looselyEqual left right = same left common := by
  unfold looselyEqual
  split
  · rename_i alike
    exact (kept alike).symm
  · split
    · rename_i leftNumber rightNumber
      simp [leftNumber, rightNumber] at noNumbers
    · rw [coerced]

theorem looselyEqual_of_coerce?_back {left right common : Value}
    (noNumbers : left.decimal? = none ∨ right.decimal? = none) (different : same left right = false)
    (refused : right.coerce? left = none) (coerced : left.coerce? right = some common) :
    looselyEqual left right = same common right := by
  unfold looselyEqual
  split
  · rename_i alike
    rw [different] at alike
    cases alike
  · split
    · rename_i leftNumber rightNumber
      simp [leftNumber, rightNumber] at noNumbers
    · rw [refused, coerced]

theorem same_string_iff {l : String} {right : Value} : same (.string l) right ↔ right = .string l := by
  cases right with
  | string r => rw [same, beq_iff_eq, string.injEq, eq_comm]
  | _ => exact ⟨nofun, nofun⟩

theorem same_bool_iff {l : Bool} {right : Value} : same (.bool l) right ↔ right = .bool l := by
  cases right with
  | bool r => rw [same, beq_iff_eq, bool.injEq, eq_comm]
  | _ => exact ⟨nofun, nofun⟩

theorem looselyEqual_of_text {l r : String} {right : Value}
    (text : right.coerce? (.string l) = some (.string r)) :
    looselyEqual (.string l) right = (l == r) := by
  have kept : same (.string l) right → same (.string l) (.string r) := by
    intro alike
    rw [same_string_iff] at alike ⊢
    subst alike
    exact (Option.some.inj text).symm
  rw [looselyEqual_of_coerce? (.inl rfl) text kept]
  rfl

theorem looselyEqual_of_flag {l r : Bool} {right : Value}
    (flag : right.coerce? (.bool l) = some (.bool r)) :
    looselyEqual (.bool l) right = (l == r) := by
  have kept : same (.bool l) right → same (.bool l) (.bool r) := by
    intro alike
    rw [same_bool_iff] at alike ⊢
    subst alike
    exact (Option.some.inj flag).symm
  rw [looselyEqual_of_coerce? (.inl rfl) flag kept]
  rfl

theorem looselyEqual_decimal_text {l r : Decimal} {text : String}
    (read : Decimal.read? (Text.trim text.toList) = some r) :
    looselyEqual (.decimal l) (.string text) = l.equal r := by
  have coerced : coerce? (.string text) (.decimal l) = some (.decimal r) := by simp [coerce?, read]
  rw [looselyEqual_of_coerce? (.inr rfl) coerced nofun]
  rfl

theorem looselyEqual_int_text {n m : Int64} {text : String}
    (read : Text.readInt64? (Text.trim text.toList) = some m) :
    looselyEqual (.int n) (.string text) = (n == m) := by
  have coerced : coerce? (.string text) (.int n) = some (.int m) := by simp [coerce?, read]
  rw [looselyEqual_of_coerce? (.inr rfl) coerced nofun]
  rfl

/-- A text that is not read as a whole number is not the text of one either. -/
theorem looselyEqual_int_unread {n : Int64} {text : String}
    (unread : Text.readInt64? (Text.trim text.toList) = none) :
    looselyEqual (.int n) (.string text) = false := by
  have other : toString n.toInt ≠ text := by
    rintro rfl
    rw [Text.trim_toString, Text.readInt64?_toString] at unread
    cases unread
  have refused : coerce? (.string text) (.int n) = none := by simp [coerce?, unread]
  have coerced : coerce? (.int n) (.string text) = some (.string (toString n.toInt)) := rfl
  rw [looselyEqual_of_coerce?_back (.inr rfl) rfl refused coerced, same, beq_eq_false_iff_ne]
  exact other

/-! ### Consistency -/

/-- A whole number beside a text that writes its value, though not as a whole number of 64 bits. -/
def Misread (left right : Value) : Prop :=
  ∃ n text number, left = .int n ∧ right.text? = some text ∧
    Decimal.read? (Text.trim text.toList) = some number ∧ (Decimal.ofInt64 n).equal number ∧
      Text.readInt64? (Text.trim text.toList) = none

theorem Misread.int {left right : Value} (misread : Misread left right) : left.kind = .int := by
  rcases misread with ⟨n, text, number, rfl, _⟩
  rfl

theorem Misread.text {left right : Value} (misread : Misread left right) : right.decimal? = none := by
  rcases misread with ⟨n, text, number, rfl, isText, _⟩
  cases right <;> cases isText <;> rfl

theorem misread_canonical {left right : Value} :
    Misread left.canonical right.canonical ↔ Misread left right := by
  cases left <;> cases right <;> simp [Misread, canonical, text?]

theorem looselyEqual_int_iff {n : Int64} {r : Decimal} {text : String}
    (read : Decimal.read? (Text.trim text.toList) = some r) :
    looselyEqual (.int n) (.string text) = ((Decimal.ofInt64 n).order r == .eq) ↔
      ¬Misread (.int n) (.string text) := by
  rw [← Decimal.equal_eq_order]
  cases whole : Text.readInt64? (Text.trim text.toList) with
  | some m =>
      have meant : ¬Misread (.int n) (.string text) := by
        rintro ⟨_, _, number, _, isText, _, _, unread⟩
        cases isText
        rw [whole] at unread
        cases unread
      rcases Decimal.read?_of_readInt64? whole with ⟨number, readNumber, units, scale⟩
      rw [read] at readNumber
      cases readNumber
      rw [looselyEqual_int_text whole, iff_true_right meant, Bool.eq_iff_iff, beq_iff_eq,
        Decimal.equal_ofInt64_iff units scale]
  | none =>
      rw [looselyEqual_int_unread whole, eq_comm, Bool.eq_false_iff, not_iff_not]
      constructor
      · intro equal
        exact ⟨n, text, r, rfl, rfl, read, equal, whole⟩
      · rintro ⟨_, _, number, same, isText, readNumber, equal, _⟩
        cases same
        cases isText
        rw [read] at readNumber
        cases readNumber
        exact equal

/-- Equality agrees with the order unless a text is misread. -/
theorem looselyEqual_iff_of_meet {left right : Value} {order : Ordering} (meet : Meet left right order) :
    looselyEqual left right = (order == .eq) ↔ ¬Misread left right := by
  cases meet with
  | numbers leftNumber rightNumber =>
      have meant : ¬Misread left right := fun misread => by
        rw [misread.text] at rightNumber
        cases rightNumber
      rw [iff_true_right meant, looselyEqual_of_decimal? leftNumber rightNumber,
        Decimal.equal_eq_order]
  | reading leftNumber read =>
      cases left with
      | int n =>
          cases leftNumber
          exact looselyEqual_int_iff read
      | decimal number =>
          cases leftNumber
          rw [iff_true_right (fun misread => nomatch misread.int), looselyEqual_decimal_text read,
            Decimal.equal_eq_order]
      | _ => cases leftNumber
  | texts l text =>
      rw [iff_true_right (fun misread => nomatch misread.int), looselyEqual_of_text text,
        Bool.eq_iff_iff, beq_iff_eq, beq_iff_eq, Std.LawfulEqOrd.compare_eq_iff_eq]
  | flags l flag =>
      rw [iff_true_right (fun misread => nomatch misread.int), looselyEqual_of_flag flag,
        Bool.eq_iff_iff, beq_iff_eq, beq_iff_eq, Std.LawfulEqOrd.compare_eq_iff_eq]

/-- Two values that are there and that have an order. -/
structure Ordered (left right : Value) (order : Ordering) : Prop where
  left_present : left.isNull = false
  right_present : right.isNull = false
  order?_eq : order? left.canonical right.canonical = some order

theorem exists_ordered {left right : Value} {op : CompareOp} (weak : op = .ge ∨ op = .le)
    (holds : left.compare op right) : ∃ order, Ordered left right order := by
  unfold compare at holds
  split at holds
  · rcases weak with rfl | rfl <;> cases holds
  · rename_i present
    rw [Bool.not_eq_true, Bool.or_eq_false_iff] at present
    cases found : order? left.canonical right.canonical with
    | some order => exact ⟨order, present.1, present.2, found⟩
    | none => rcases weak with rfl | rfl <;> simp [found] at holds

namespace Ordered

variable {left right : Value} {order : Ordering}

theorem compare_eq (ordered : Ordered left right order) :
    left.compare .eq right = looselyEqual left.canonical right.canonical := by
  simp [compare, ordered.left_present, ordered.right_present]

theorem compare_ne (ordered : Ordered left right order) :
    left.compare .ne right = !looselyEqual left.canonical right.canonical := by
  simp [compare, ordered.left_present, ordered.right_present]

theorem compare_of_ne (ordered : Ordered left right order) (op : CompareOp)
    (notEq : op ≠ .eq) (notNe : op ≠ .ne) : left.compare op right = op.accepts order := by
  cases op <;> simp_all [compare, ordered.left_present, ordered.right_present, ordered.order?_eq]

theorem equal_iff (ordered : Ordered left right order) :
    left.compare .eq right = (order == .eq) ↔ ¬Misread left right := by
  rw [ordered.compare_eq, looselyEqual_iff_of_meet (meet_of_order? ordered.order?_eq),
    misread_canonical]

/-- Without a misread text all six operators see one order. -/
theorem compare_eq_accepts (ordered : Ordered left right order) (meant : ¬Misread left right)
    (op : CompareOp) : left.compare op right = op.accepts order := by
  have equal := ordered.equal_iff.2 meant
  cases op with
  | eq => exact equal
  | ne => rw [ordered.compare_ne, ← ordered.compare_eq, equal]; rfl
  | _ => exact ordered.compare_of_ne _ nofun nofun

end Ordered

/-- The operators of which one holds in every order, and no other one does. -/
def strictOps : List CompareOp := [.lt, .eq, .gt]

/-- Two values are in one order only, and equal values are those for which both weak relations hold. -/
structure Consistent (left right : Value) : Prop where
  one : ∃! op, op ∈ strictOps ∧ left.compare op right
  both : left.compare .ge right ∧ left.compare .le right ↔ left.compare .eq right

theorem consistent_of_accepts {left right : Value} {order : Ordering}
    (accepts : ∀ op : CompareOp, left.compare op right = op.accepts order) : Consistent left right := by
  constructor
  · simp only [accepts]
    cases order <;> decide
  · simp only [accepts]
    cases order <;> decide

/-- Of two values for which a weak relation holds, exactly one is below, equal to or above the other, and
both weak relations hold if and only if the values are equal, unless a text is misread. -/
theorem consistent_iff {left right : Value} (ordered : left.compare .ge right ∨ left.compare .le right) :
    Consistent left right ↔ ¬Misread left right := by
  have found : ∃ order, Ordered left right order :=
    ordered.elim (exists_ordered (.inl rfl)) (exists_ordered (.inr rfl))
  rcases found with ⟨order, found⟩
  constructor
  · intro consistent
    rw [← found.equal_iff, Bool.eq_iff_iff, ← consistent.both, found.compare_of_ne .ge nofun nofun,
      found.compare_of_ne .le nofun nofun]
    cases order <;> decide
  · intro meant
    exact consistent_of_accepts (found.compare_eq_accepts meant)

theorem consistent_iff_twenty :
    ((Value.int 20).compare .ge (.string " +20 ") ∨ (Value.int 20).compare .le (.string " +20 ")) ∧
      (Consistent (.int 20) (.string " +20 ") ↔ ¬Misread (.int 20) (.string " +20 ")) :=
  ⟨by decide +kernel, consistent_iff (by decide +kernel)⟩

/-- The text `20.0` is neither below nor above nor equal to 20, yet both at least and at most 20. -/
theorem not_consistent_twenty :
    (Value.int 20).compare .ge (.string "20.0") ∧ (Value.int 20).compare .le (.string "20.0") ∧
      ¬Consistent (.int 20) (.string "20.0") := by
  have relations : (Value.int 20).compare .ge (.string "20.0") ∧
      (Value.int 20).compare .le (.string "20.0") ∧
        (Value.int 20).compare .eq (.string "20.0") = false := by decide +kernel
  refine ⟨relations.1, relations.2.1, ?_⟩
  intro consistent
  have equal := consistent.both.1 ⟨relations.1, relations.2.1⟩
  rw [relations.2.2] at equal
  cases equal

end Value

end SqlMapper
