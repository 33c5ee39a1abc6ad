import SqlMapper.Include.Marker
import Mathlib

/-!
# Markers are comments

No id can end the comment that is left for it.  Setting the two characters of an end apart makes no new
end, neither with what stands before them nor with what follows, so the only end of a marker is its own.
-/

namespace SqlMapper.Include

/-- The two characters that end a comment. -/
abbrev commentEnd : List Char := ['*', '/']

/-- A comment whose last two characters are the only end in it. -/
def IsClosedComment (text : List Char) : Prop :=
  ∃ inside, text = ['/', '*'] ++ inside ++ commentEnd ∧
    ∀ before after, text = before ++ commentEnd ++ after → before = ['/', '*'] ++ inside ∧ after = []

variable {left right rest text : List Char} {c : Char}

/-! ### Texts without an end -/

theorem commentEnd_infix_cons_iff :
    commentEnd <:+: c :: rest ↔ (c = '*' ∧ rest.head? = some '/') ∨ commentEnd <:+: rest := by
  rw [List.infix_cons_iff]
  apply or_congr_left
  cases rest <;> simp [commentEnd, eq_comm]

theorem not_commentEnd_infix_append (leftFree : ¬commentEnd <:+: left)
    (rightFree : ¬commentEnd <:+: right) (apart : right.head? ≠ some '/') :
    ¬commentEnd <:+: left ++ right := by
  induction left with
  | nil => exact rightFree
  | cons c more ih =>
      rw [commentEnd_infix_cons_iff, not_or] at leftFree
      rw [List.cons_append, commentEnd_infix_cons_iff, not_or]
      refine ⟨?_, ih leftFree.2⟩
      rintro ⟨isStar, slash⟩
      cases more with
      | nil => exact apart slash
      | cons d others => exact leftFree.1 ⟨isStar, slash⟩

theorem head?_commentSafe (text : List Char) : (commentSafe text).head? = text.head? := by
  fun_cases commentSafe text <;> rfl

theorem not_commentEnd_infix_commentSafe (text : List Char) : ¬commentEnd <:+: commentSafe text := by
  fun_induction commentSafe text with
  | case1 rest ih => simp [commentEnd_infix_cons_iff, ih]
  | case2 c rest other ih =>
      rw [commentEnd_infix_cons_iff, head?_commentSafe, not_or]
      refine ⟨?_, ih⟩
      rintro ⟨rfl, slash⟩
      obtain ⟨more, rfl⟩ := List.head?_eq_some_iff.1 slash
      exact other more rfl rfl
  | case3 => decide

/-! ### Comments -/

/-- A text without an end that does not run on into the end behind it. -/
theorem append_commentEnd_eq_iff {before after : List Char} (free : ¬commentEnd <:+: text ++ ['*']) :
    text ++ commentEnd = before ++ commentEnd ++ after ↔ before = text ∧ after = [] := by
  constructor
  · intro same
    rcases List.eq_nil_or_concat after with rfl | ⟨more, last, rfl⟩
    · rw [List.append_nil] at same
      exact ⟨(List.append_cancel_right same).symm, rfl⟩
    · have cut : (text ++ ['*']) ++ ['/'] = (before ++ commentEnd ++ more) ++ [last] := by
        simpa [commentEnd] using same
      exact absurd ⟨before, more, (List.append_inj' cut rfl).1.symm⟩ free
  · rintro ⟨rfl, rfl⟩
    rw [List.append_nil]

theorem isClosedComment_comment (kind text : String) (free : ¬commentEnd <:+: kind.toList) :
    IsClosedComment (comment kind text).toList := by
  have written : (comment kind text).toList = ['/', '*'] ++
      (' ' :: (kind.toList ++ ':' :: ' ' :: (commentSafe text.toList ++ [' ']))) ++ commentEnd := by
    simp [comment, String.toList_append]
  -- blanks stand on both sides of the text, and no end begins or goes on with a blank
  have shown : ¬commentEnd <:+: commentSafe text.toList ++ [' ', '*'] :=
    not_commentEnd_infix_append (not_commentEnd_infix_commentSafe _) (by decide) (by simp)
  have behind : ¬commentEnd <:+: ':' :: ' ' :: (commentSafe text.toList ++ [' ', '*']) := by
    simpa [commentEnd_infix_cons_iff] using shown
  have named : ¬commentEnd <:+: kind.toList ++ ':' :: ' ' :: (commentSafe text.toList ++ [' ', '*']) :=
    not_commentEnd_infix_append free behind (by simp)
  refine ⟨_, written, ?_⟩
  intro before after same
  rw [written] at same
  refine (append_commentEnd_eq_iff ?_).1 same
  simpa [commentEnd_infix_cons_iff] using named

/-- Whatever characters the ids are made of. -/
theorem isClosedComment_markers (id : String) (chain : List String) :
    IsClosedComment (unresolvedMarker id).toList ∧ IsClosedComment (circularMarker chain).toList :=
  ⟨isClosedComment_comment _ _ (by decide), isClosedComment_comment _ _ (by decide)⟩

end SqlMapper.Include
