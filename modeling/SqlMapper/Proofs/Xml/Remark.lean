import SqlMapper.Xml.Event

/-!
# Comments and instructions between characters

A complete piece of markup is read alike whatever follows it.  A comment or an instruction is such a
piece and leaves nothing; references in the text around it are resolved as if it were not there.
-/

namespace SqlMapper.Xml

/-- A comment or an instruction as it is written. -/
inductive Remark : List Char → Prop where
  | comment {inside : List Char} (opened : ¬['-', '-', '>'] <:+: inside) :
      Remark (['<', '!', '-', '-'] ++ inside ++ ['-', '-', '>'])
  | instruction {inside : List Char} (opened : ¬['?', '>'] <:+: '?' :: inside) :
      Remark (['<', '?'] ++ inside ++ ['?', '>'])

namespace Piece

variable {closes : List Char → Bool} {before text content after markup : List Char} {piece : Piece}

/-! ### Complete markup -/

theorem cutTag_append {quote : Option Char} (cut : cutTag quote text = some (content, after))
    (more : List Char) : cutTag quote (text ++ more) = some (content, after ++ more) := by
  induction text generalizing quote content with
  | nil => simp [cutTag] at cut
  | cons c rest ih =>
      rw [List.cons_append]
      unfold cutTag at cut ⊢
      split at cut
      · simp only [Option.map_eq_some_iff, Prod.exists, Prod.mk.injEq] at cut ⊢
        obtain ⟨inner, _, found, rfl, rfl⟩ := cut
        exact ⟨inner, _, ih found, rfl, rfl⟩
      · split at cut
        · rename_i ends
          rw [if_pos ends]
          cases cut
          rfl
        · rename_i inside
          rw [if_neg inside]
          simp only [Option.map_eq_some_iff, Prod.exists, Prod.mk.injEq] at cut ⊢
          obtain ⟨inner, _, found, rfl, rfl⟩ := cut
          exact ⟨inner, _, ih found, rfl, rfl⟩

theorem cutWhere_append (cut : cutWhere closes before text = some (content, after))
    (more : List Char) : cutWhere closes before (text ++ more) = some (content, after ++ more) := by
  induction text generalizing before with
  | nil => simp [cutWhere] at cut
  | cons c rest ih =>
      rw [List.cons_append]
      unfold cutWhere at cut ⊢
      split at cut
      · rename_i ends
        rw [if_pos ends]
        cases cut
        rfl
      · rename_i inside
        rw [if_neg inside]
        exact ih cut

theorem finish_append {cut longer : Option (List Char × List Char)} {unclosed : Fault}
    {interpret : List Char → Except Fault Piece} {more : List Char}
    (stable : ∀ content after, cut = some (content, after) → longer = some (content, after ++ more))
    (ok : finish cut unclosed interpret = .ok (piece, after)) :
    finish longer unclosed interpret = .ok (piece, after ++ more) := by
  unfold finish at ok
  split at ok
  · cases ok
  · rename_i content rest
    rw [stable content rest rfl]
    cases interpreted : interpret content <;> simp_all [finish]

theorem ofMarkup_append (ok : ofMarkup markup = .ok (piece, after)) (more : List Char) :
    ofMarkup (markup ++ more) = .ok (piece, after ++ more) := by
  have whereStable (closes : List Char → Bool) (content after : List Char)
      (cut : cutWhere closes [] markup = some (content, after)) := cutWhere_append cut more
  have tagStable (content after : List Char) (cut : cutTag none markup = some (content, after)) :=
    cutTag_append cut more
  unfold ofMarkup at ok
  split at ok
  · cases ok
  · exact finish_append (whereStable _) ok
  · exact finish_append (whereStable _) ok
  · exact finish_append (whereStable _) ok
  · exact finish_append (whereStable _) ok
  · cases ok
  · exact finish_append (whereStable _) ok
  · exact finish_append tagStable ok
  · rename_i empty _ _ _ _ declaration instruction ending
    obtain ⟨c, rest, rfl⟩ := List.exists_cons_of_ne_nil empty
    have other : c ≠ '!' ∧ c ≠ '?' ∧ c ≠ '/' := by
      refine ⟨?_, ?_, ?_⟩
      · rintro rfl
        exact declaration rest rfl
      · rintro rfl
        exact instruction rest rfl
      · rintro rfl
        exact ending rest rfl
    rw [← finish_append tagStable ok, List.cons_append, ofMarkup] <;> simp [other]

/-! ### Remarks -/

/-- Cutting stops at the first `>` that closes. -/
theorem cutWhere_of_first (inside : ∀ front rest, text = front ++ '>' :: rest →
      closes (front.reverse ++ before) = false)
    (ends : closes (text.reverse ++ before)) (after : List Char) :
    cutWhere closes before (text ++ '>' :: after) = some (before.reverse ++ text, after) := by
  induction text generalizing before with
  | nil =>
      have closed : closes before := ends
      simp [cutWhere, closed]
  | cons c rest ih =>
      have open? : ¬(c == '>' && closes before) := by
        rw [Bool.and_eq_true, beq_iff_eq]
        rintro ⟨rfl, closed⟩
        have none : closes before = false := inside [] rest rfl
        simp [none] at closed
      rw [List.cons_append, cutWhere, if_neg open?, ih]
      · simp
      · intro front more same
        simpa using inside (c :: front) more (by rw [same, List.cons_append])
      · simpa using ends

end Piece

theorem infix_of_append {mark inside tail front rest : List Char} (free : '>' ∉ tail)
    (same : inside ++ tail = front ++ mark ++ '>' :: rest) : mark ++ ['>'] <:+: inside := by
  have same : inside ++ tail = front ++ (mark ++ ['>']) ++ rest := by simpa using same
  rcases List.append_eq_append_iff.1 same with ⟨more, longer, rfl⟩ | ⟨more, rfl, -⟩
  · rcases List.eq_nil_or_concat more with rfl | ⟨start, last, rfl⟩
    · exact ⟨front, [], by simpa using longer⟩
    · have ends : (front ++ mark) ++ ['>'] = (inside ++ start) ++ [last] := by simpa using longer
      obtain ⟨-, last⟩ := List.append_inj' ends rfl
      cases last
      simp at free
  · exact ⟨front, more, rfl⟩

theorem closesComment_inside {inside front rest : List Char} (opened : ¬['-', '-', '>'] <:+: inside)
    (same : ['!', '-', '-'] ++ inside ++ ['-', '-'] = front ++ '>' :: rest) :
    Piece.closesComment (front.reverse ++ []) = false := by
  rw [Bool.eq_false_iff]
  intro closes
  simp only [Piece.closesComment, List.append_nil, List.length_reverse, Bool.and_eq_true,
    decide_eq_true_eq, beq_iff_eq] at closes
  obtain ⟨long, marks⟩ := closes
  obtain ⟨start, rfl⟩ : ∃ start, front = start ++ ['-', '-'] := by
    refine ⟨(front.reverse.drop 2).reverse, ?_⟩
    have whole := List.take_append_drop 2 front.reverse
    rw [marks] at whole
    simpa using congrArg List.reverse whole.symm
  -- the marks at the beginning and those at the end may not overlap
  have begins : ['!', '-', '-'] <+: start := by
    apply List.prefix_of_prefix_length_le (List.prefix_append _ (inside ++ ['-', '-']))
    · rw [← List.append_assoc, same, List.append_assoc]
      exact List.prefix_append _ _
    · simp only [List.length_append, List.length_cons, List.length_nil] at long ⊢
      omega
  obtain ⟨front, rfl⟩ := begins
  simp only [List.append_assoc, List.append_cancel_left_eq] at same
  rw [← List.append_assoc] at same
  exact opened (infix_of_append (by decide) same)

theorem ofMarkup_comment {inside : List Char} (opened : ¬['-', '-', '>'] <:+: inside)
    (after : List Char) :
    Piece.ofMarkup (['!', '-', '-'] ++ inside ++ ['-', '-', '>'] ++ after) = .ok (.silent, after) := by
  have cut : Piece.cutWhere Piece.closesComment []
      (['!', '-', '-'] ++ inside ++ ['-', '-'] ++ '>' :: after) =
        some ([].reverse ++ (['!', '-', '-'] ++ inside ++ ['-', '-']), after) :=
    Piece.cutWhere_of_first (fun _ _ => closesComment_inside opened) (by simp [Piece.closesComment]) after
  have same : ['!', '-', '-'] ++ inside ++ ['-', '-', '>'] ++ after =
      ['!', '-', '-'] ++ inside ++ ['-', '-'] ++ '>' :: after := by simp
  rw [same]
  change Piece.finish (Piece.cutWhere Piece.closesComment [] _) _ _ = _
  rw [cut]
  rfl

theorem closesInstruction_inside {inside front rest : List Char} (opened : ¬['?', '>'] <:+: '?' :: inside)
    (same : '?' :: inside ++ ['?'] = front ++ '>' :: rest) :
    Piece.closesInstruction (front.reverse ++ []) = false := by
  rw [Bool.eq_false_iff]
  intro closes
  obtain ⟨start, rfl⟩ : ∃ start, front = start ++ ['?'] := by
    rw [← List.getLast?_eq_some_iff]
    simpa [Piece.closesInstruction] using closes
  exact opened (infix_of_append (by decide) same)

theorem ofMarkup_instruction {inside : List Char} (opened : ¬['?', '>'] <:+: '?' :: inside)
    (after : List Char) : Piece.ofMarkup ('?' :: inside ++ ['?', '>'] ++ after) = .ok (.silent, after) := by
  have cut : Piece.cutWhere Piece.closesInstruction [] ('?' :: inside ++ ['?'] ++ '>' :: after) =
      some ([].reverse ++ ('?' :: inside ++ ['?']), after) :=
    Piece.cutWhere_of_first (fun _ _ => closesInstruction_inside opened)
      (by simp [Piece.closesInstruction]) after
  have same : '?' :: inside ++ ['?', '>'] ++ after = '?' :: inside ++ ['?'] ++ '>' :: after := by simp
  rw [same]
  change Piece.finish (Piece.cutWhere Piece.closesInstruction [] _) _ _ = _
  rw [cut]
  simp [Piece.finish, Piece.ofInstruction]

/-- A remark is read as a piece that leaves nothing, whatever follows it. -/
theorem Remark.ofMarkup {remark : List Char} (isRemark : Remark remark) :
    ∃ markup, remark = '<' :: markup ∧
      ∀ after, Piece.ofMarkup (markup ++ after) = .ok (.silent, after) := by
  cases isRemark with
  | comment opened => exact ⟨_, rfl, ofMarkup_comment opened⟩
  | instruction opened => exact ⟨_, rfl, ofMarkup_instruction opened⟩

/-! ### References -/

namespace Entity

variable {raw more decoded later : List Char} {position : Nat}

theorem bind_eq_ok {α β : Type} {action : Except Fault α} {next : α → Except Fault β} {result : β} :
    action >>= next = .ok result ↔ ∃ value, action = .ok value ∧ next value = .ok result := by
  cases action <;> simp [bind, Except.bind]

theorem resolve_ok {name : List Char} {c : Char} (ok : resolve position name = .ok c) (other : Nat) :
    resolve other name = .ok c := by
  unfold resolve at ok ⊢
  split at ok
  · exact ok
  · exact ok
  · split at ok
    · exact ok
    · cases ok

/-- References are resolved alike wherever they stand, and whatever follows. -/
theorem decodeFrom_append (first : decodeFrom position raw = .ok decoded)
    (second : ∀ other, decodeFrom other more = .ok later) (other : Nat) :
    decodeFrom other (raw ++ more) = .ok (decoded ++ later) := by
  fun_induction decodeFrom position raw generalizing decoded other with
  | case1 position =>
      cases first
      exact second other
  | case2 position rest after ends name =>
      rename_i ih
      have whole : name ++ rest.dropWhile (!endsName ·) = rest := List.takeWhile_append_dropWhile
      have named : ∀ c ∈ name, !endsName c := List.all_eq_true.1 List.all_takeWhile
      rw [ends] at whole
      clear_value name
      have dropped : (rest ++ more).dropWhile (!endsName ·) = ';' :: (after ++ more) := by
        rw [← whole, List.append_assoc, List.dropWhile_append_of_pos named]
        rfl
      have taken : (rest ++ more).takeWhile (!endsName ·) = name := by
        rw [← whole, List.append_assoc, List.takeWhile_append_of_pos named]
        simp [endsName]
      obtain ⟨c, resolved, first⟩ := bind_eq_ok.1 first
      obtain ⟨inner, behind, first⟩ := bind_eq_ok.1 first
      cases first
      rw [List.cons_append, decodeFrom]
      split
      · rename_i tail ends
        rw [dropped] at ends
        cases ends
        dsimp only
        rw [taken]
        exact bind_eq_ok.2 ⟨c, resolve_ok resolved _, bind_eq_ok.2 ⟨_, ih behind _, rfl⟩⟩
      · simp_all
  | case3 position rest unended => cases first
  | case4 position c rest plain ih =>
      obtain ⟨inner, behind, first⟩ := bind_eq_ok.1 first
      cases first
      rw [List.cons_append, decodeFrom]
      · exact bind_eq_ok.2 ⟨_, ih behind _, rfl⟩
      · exact plain

theorem decode_eq_ok_iff : decode raw = .ok (String.ofList decoded) ↔ decodeFrom 0 raw = .ok decoded := by
  unfold decode
  cases decodeFrom 0 raw with
  | error fault => simp [Except.map]
  | ok text => simp [Except.map, String.ofList_inj]

theorem decode_append (first : decode raw = .ok (String.ofList decoded))
    (second : decode more = .ok (String.ofList later)) :
    decode (raw ++ more) = .ok (String.ofList (decoded ++ later)) := by
  rw [decode_eq_ok_iff] at first second ⊢
  apply decodeFrom_append first
  intro other
  have alone : decodeFrom other (more ++ []) = .ok (later ++ []) :=
    decodeFrom_append second (fun _ => by rw [decodeFrom]) other
  simpa using alone

end Entity

end SqlMapper.Xml
