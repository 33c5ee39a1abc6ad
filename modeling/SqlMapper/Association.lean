/-!
# Lists of pairs

What is kept under names is a list of pairs, and looking a name up gives the first pair of it.
-/

namespace SqlMapper.Association

variable {α β : Type} [BEq α] [LawfulBEq α]

theorem mem_of_lookup_eq_some {entries : List (α × β)} {key : α} {value : β}
    (found : entries.lookup key = some value) : (key, value) ∈ entries := by
  rw [List.lookup_eq_some_iff] at found
  obtain ⟨before, after, rfl, _⟩ := found
  simp

end SqlMapper.Association
