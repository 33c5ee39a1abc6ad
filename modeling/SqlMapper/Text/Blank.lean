import SqlMapper.Text.Ranges

/-!
# White space

Blank characters are those with the Unicode property White_Space.  Trimming drops them at the ends
of a text, and the words of a text are what stands between them.
-/

namespace SqlMapper.Text

/-- Code points of white space. -/
def blankRanges : List (Nat × Nat) := [
    (0x9, 0xd), (0x20, 0x20), (0x85, 0x85), (0xa0, 0xa0), (0x1680, 0x1680), (0x2000, 0x200a),
    (0x2028, 0x2029), (0x202f, 0x202f), (0x205f, 0x205f), (0x3000, 0x3000) ]

/-- A white space character. -/
def isBlank (c : Char) : Bool :=
  inRanges blankRanges c.toNat

/-- The text without the white space in front. -/
def trimStart (text : List Char) : List Char :=
  text.dropWhile isBlank

/-- The text without the white space behind. -/
def trimEnd (text : List Char) : List Char :=
  (text.reverse.dropWhile isBlank).reverse

/-- The text without the white space around it. -/
def trim (text : List Char) : List Char :=
  trimEnd (trimStart text)

/-- `trim` on strings. -/
def trimmed (text : String) : String :=
  String.ofList (trim text.toList)

theorem isBlank_of_isDigit {c : Char} (digit : c.isDigit) : isBlank c = false := by
  simp only [Char.isDigit, Bool.and_eq_true, decide_eq_true_eq, UInt32.le_iff_toNat_le] at digit
  have lower : 48 ≤ c.toNat := digit.1
  have upper : c.toNat ≤ 57 := digit.2
  simp only [isBlank, inRanges, blankRanges, List.any_cons, List.any_nil, Bool.or_false,
    Bool.or_eq_false_iff, Bool.and_eq_false_iff, decide_eq_false_iff_not]
  omega

theorem trimStart_suffix (text : List Char) : trimStart text <:+ text :=
  List.dropWhile_suffix isBlank

theorem trimEnd_subset (text : List Char) : trimEnd text ⊆ text := by
  intro c member
  rw [trimEnd, List.mem_reverse] at member
  exact List.mem_reverse.1 ((List.dropWhile_sublist _).subset member)

theorem trim_subset (text : List Char) : trim text ⊆ text :=
  List.Subset.trans (trimEnd_subset _) (trimStart_suffix text).subset

theorem trimStart_cons_of_blank {c : Char} (blank : isBlank c) (rest : List Char) :
    trimStart (c :: rest) = trimStart rest := by
  simp [trimStart, blank]

theorem trimStart_cons_of_solid {c : Char} (solid : isBlank c = false) (rest : List Char) :
    trimStart (c :: rest) = c :: rest := by
  simp [trimStart, solid]

theorem trimEnd_concat_of_blank {last : Char} (blank : isBlank last) (text : List Char) :
    trimEnd (text ++ [last]) = trimEnd text := by
  simp [trimEnd, blank]

theorem trimEnd_eq_of_last {text : List Char} {last : Char} (solid : isBlank last = false) :
    trimEnd (text ++ [last]) = text ++ [last] := by
  simp [trimEnd, solid]

theorem trimStart_eq_self {text : List Char} (solid : ∀ c ∈ text.head?, isBlank c = false) :
    trimStart text = text := by
  cases text with
  | nil => rfl
  | cons c rest => exact trimStart_cons_of_solid (solid c rfl) rest

theorem trimEnd_eq_self {text : List Char} (solid : ∀ c ∈ text.getLast?, isBlank c = false) :
    trimEnd text = text := by
  rcases List.eq_nil_or_concat text with rfl | ⟨start, last, rfl⟩
  · rfl
  · rw [List.concat_eq_append] at solid ⊢
    exact trimEnd_eq_of_last (solid last (by simp))

theorem trim_eq_self {text : List Char} (first : ∀ c ∈ text.head?, isBlank c = false)
    (last : ∀ c ∈ text.getLast?, isBlank c = false) : trim text = text := by
  rw [trim, trimStart_eq_self first, trimEnd_eq_self last]

theorem trimStart_append_of_blank {gap : List Char} (blank : ∀ c ∈ gap, isBlank c)
    (text : List Char) : trimStart (gap ++ text) = trimStart text := by
  induction gap with
  | nil => rfl
  | cons c rest ih =>
    rw [List.forall_mem_cons] at blank
    rw [List.cons_append, trimStart_cons_of_blank blank.1, ih blank.2]

theorem trimEnd_append_of_blank {gap : List Char} (blank : ∀ c ∈ gap, isBlank c)
    (text : List Char) : trimEnd (text ++ gap) = trimEnd text := by
  have behind : ∀ c ∈ gap.reverse, isBlank c := fun c member => blank c (List.mem_reverse.1 member)
  have dropped := trimStart_append_of_blank behind text.reverse
  simp only [trimStart] at dropped
  rw [trimEnd, List.reverse_append, dropped, trimEnd]

theorem exists_append_trimEnd (text : List Char) :
    ∃ after, (∀ c ∈ after, isBlank c) ∧ trimEnd text ++ after = text := by
  refine ⟨(text.reverse.takeWhile isBlank).reverse, ?_, ?_⟩
  · intro c member
    exact List.all_eq_true.1 List.all_takeWhile c (List.mem_reverse.1 member)
  · rw [trimEnd, ← List.reverse_append, List.takeWhile_append_dropWhile, List.reverse_reverse]

theorem trim_eq_of_blank_around {before text after : List Char} (blankBefore : ∀ c ∈ before, isBlank c)
    (blankAfter : ∀ c ∈ after, isBlank c) (first : ∀ c ∈ text.head?, isBlank c = false)
    (last : ∀ c ∈ text.getLast?, isBlank c = false) : trim (before ++ text ++ after) = text := by
  rw [trim, List.append_assoc, trimStart_append_of_blank blankBefore]
  cases text with
  | nil =>
    rw [List.nil_append, ← List.append_nil after, trimStart_append_of_blank blankAfter]
    rfl
  | cons c rest =>
    rw [List.cons_append, trimStart_cons_of_solid (first c rfl), ← List.cons_append,
      trimEnd_append_of_blank blankAfter, trimEnd_eq_self last]

end SqlMapper.Text
