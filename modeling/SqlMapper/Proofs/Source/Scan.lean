import SqlMapper.Proofs.Text.Split
import SqlMapper.Text.Integer

/-!
# Scanning source

A scan takes something off the front of a text.  It takes what was written there if it comes to the same
value and leaves the same rest whatever the rest is; a number or a name has to end there as well.
-/

namespace SqlMapper.Generated

/-- Takes something off the front of a text, or fails. -/
abbrev Scan (α : Type) : Type := StateT (List Char) Option α

namespace Scan

variable {α β : Type}

/-- Takes fixed text. -/
def expect (mark : String) : Scan Unit := fun text =>
  (text.dropPrefix? mark.toList).map ((), ·)

/-- Goes on behind the first of some marks with which the text begins. -/
def select : List (String × Scan α) → Scan α
  | [] => fun _ => none
  | (mark, next) :: others => fun text =>
    match text.dropPrefix? mark.toList with
    | some rest => next rest
    | none => select others text

/-- Takes items with a separator in front of each, as many as `fuel` allows, and a closing mark. -/
def itemsWithin (item : Scan α) (separator closing : String) : (fuel : Nat) → Scan (List α)
  | 0 => fun _ => none
  | fuel + 1 => select [(closing, pure []), (separator, do
      let first ← item
      let others ← itemsWithin item separator closing fuel
      pure (first :: others))]

/-- Takes items with a separator in front of each and a closing mark behind them. -/
def items (item : Scan α) (separator closing : String) : Scan (List α) := fun text =>
  itemsWithin item separator closing (text.length + 1) text

/-- Takes the digits of a number, which has to be spelled as numbers are written. -/
def number : Scan Nat := fun text =>
  let digits := text.takeWhile Char.isDigit
  let value := Nat.ofDigitChars 10 digits 0
  if Nat.toDigits 10 value = digits then some (value, text.dropWhile Char.isDigit) else none

/-- Takes a number of either sign. -/
def integer : Scan Int
  | '-' :: text => (number text).map fun (magnitude, rest) => (-(magnitude : Int), rest)
  | text => (number text).map fun (magnitude, rest) => (magnitude, rest)

/-! ### What is taken -/

/-- Whether a scan takes a text as a value. -/
def Takes (scan : Scan α) (text : String) (value : α) : Prop :=
  ∀ rest, scan (text.toList ++ rest) = some (value, rest)

/-- Whether no digit comes next. -/
def ended (text : List Char) : Bool :=
  text.head?.all fun c => !c.isDigit

/-- Whether a scan takes a text as a value where the text is not continued. -/
def TakesWord (scan : Scan α) (text : String) (value : α) : Prop :=
  ∀ rest, ended rest → scan (text.toList ++ rest) = some (value, rest)

/-- Whether a text begins with another character than a mark, before either ends. -/
def Differs (mark text : String) : Prop :=
  ∀ rest, (text.toList ++ rest).dropPrefix? mark.toList = none

/-- Whether a scan fails on whatever begins with a text. -/
def Fails (scan : Scan α) (text : String) : Prop :=
  ∀ rest, scan (text.toList ++ rest) = none

def differ : List Char → List Char → Bool
  | c :: mark, d :: text => c != d || differ mark text
  | _, _ => false

/-- Whether a text ends the number before it. -/
def Ends (text : String) : Prop :=
  ∀ rest, ended (text.toList ++ rest)

variable {scan other : Scan α} {next : α → Scan β} {text first second more mark : String} {value : α}
  {result : β}

theorem bind_apply (scan : Scan α) (next : α → Scan β) (text : List Char) :
    (scan >>= next) text = (scan text).bind fun taken => next taken.1 taken.2 :=
  rfl

theorem Takes.bind (one : Takes scan first value) (two : Takes (next value) second result) :
    Takes (scan >>= next) (first ++ second) result := by
  intro rest
  rw [String.toList_append, List.append_assoc, bind_apply, one]
  exact two rest

theorem takes_pure (value : α) : Takes (pure value) "" value :=
  fun _ => rfl

/-- A text is taken as a whole if nothing follows. -/
theorem Takes.whole (taken : Takes scan text value) : scan text.toList = some (value, []) := by
  have all := taken []
  rwa [List.append_nil] at all

/-- The last thing that is taken. -/
theorem Takes.last {finish : α → β} (one : Takes scan text value) :
    Takes (scan >>= fun taken => pure (finish taken)) text (finish value) := by
  intro rest
  rw [bind_apply, one]
  rfl

theorem Takes.word (taken : Takes scan text value) : TakesWord scan text value :=
  fun rest _ => taken rest

theorem TakesWord.bind (one : TakesWord scan first value) (ends : Ends second)
    (two : Takes (next value) second result) : Takes (scan >>= next) (first ++ second) result := by
  intro rest
  rw [String.toList_append, List.append_assoc, bind_apply, one _ (ends rest)]
  exact two rest

theorem TakesWord.last {finish : α → β} (one : TakesWord scan text value) :
    TakesWord (scan >>= fun taken => pure (finish taken)) text (finish value) := by
  intro rest ended
  rw [bind_apply, one rest ended]
  rfl

theorem ends_ofList {characters : List Char} (mark : characters.head?.any fun c => !c.isDigit) :
    Ends (String.ofList characters) := by
  intro rest
  rw [String.toList_ofList]
  cases characters with
  | nil => cases mark
  | cons c others => exact mark

theorem Ends.append (ends : Ends first) : Ends (first ++ second) := by
  intro rest
  rw [String.toList_append, List.append_assoc]
  exact ends (second.toList ++ rest)

/-! ### Marks -/

theorem dropPrefix?_append (mark rest : List Char) : (mark ++ rest).dropPrefix? mark = some rest :=
  List.dropPrefix?_eq_some_iff.2 ⟨mark, rfl, beq_self_eq_true mark⟩

theorem takes_expect (mark : String) : Takes (expect mark) mark () := by
  intro rest
  rw [expect, dropPrefix?_append]
  rfl

theorem takes_select {next : Scan α} {others : List (String × Scan α)}
    (taken : Takes next text value) : Takes (select ((mark, next) :: others)) (mark ++ text) value := by
  intro rest
  rw [String.toList_append, List.append_assoc]
  simp only [select, dropPrefix?_append]
  exact taken rest

/-- A mark with nothing behind it. -/
theorem takes_mark {others : List (String × Scan α)} :
    Takes (select ((mark, pure value) :: others)) mark value := by
  have taken : Takes (select ((mark, pure value) :: others)) (mark ++ "") value :=
    takes_select (takes_pure value)
  rwa [String.append_empty] at taken

theorem Takes.select_later {next : Scan α} {others : List (String × Scan α)}
    (taken : Takes (select others) text value) (differs : Differs mark text) :
    Takes (select ((mark, next) :: others)) text value := by
  intro rest
  simp only [select, differs rest]
  exact taken rest

theorem dropPrefix?_of_differ {mark text : List Char} (different : differ mark text) (rest : List Char) :
    (text ++ rest).dropPrefix? mark = none := by
  induction mark generalizing text with
  | nil => cases different
  | cons c mark ih =>
      cases text with
      | nil => cases different
      | cons d text =>
          rw [List.cons_append, List.dropPrefix?]
          by_cases same : d = c
          · subst d
            rw [if_pos (beq_self_eq_true c)]
            exact ih (by simpa [differ] using different)
          · rw [if_neg (by simpa using same)]

theorem differs_ofList {mark characters : List Char} (different : differ mark characters) :
    Differs (String.ofList mark) (String.ofList characters) := by
  intro rest
  rw [String.toList_ofList, String.toList_ofList]
  exact dropPrefix?_of_differ different rest

theorem Differs.append (differs : Differs mark first) : Differs mark (first ++ second) := by
  intro rest
  rw [String.toList_append, List.append_assoc]
  exact differs (second.toList ++ rest)

/-! ### Failing -/

theorem Fails.append (fails : Fails scan first) : Fails scan (first ++ second) := by
  intro rest
  rw [String.toList_append, List.append_assoc]
  exact fails (second.toList ++ rest)

theorem Fails.bind (fails : Fails scan text) : Fails (scan >>= next) text := by
  intro rest
  rw [bind_apply, fails]
  rfl

theorem Differs.expect (differs : Differs mark text) : Fails (expect mark) text := by
  intro rest
  rw [Scan.expect, differs]
  rfl

theorem fails_select {marks : List (String × Scan α)} {characters : List Char}
    (different : marks.all fun entry => differ entry.1.toList characters) :
    Fails (select marks) (String.ofList characters) := by
  intro rest
  rw [String.toList_ofList]
  induction marks with
  | nil => rfl
  | cons entry others ih =>
      rw [List.all_cons, Bool.and_eq_true] at different
      simp only [select, dropPrefix?_of_differ different.1]
      exact ih different.2

theorem orElse_apply (scan other : Scan α) (text : List Char) :
    (scan <|> other) text = (scan text).orElse fun _ => other text :=
  rfl

theorem Takes.orElse (taken : Takes scan text value) : Takes (scan <|> other) text value := by
  intro rest
  rw [orElse_apply, taken]
  rfl

theorem Takes.orElse_later (taken : Takes other text value) (fails : Fails scan text) :
    Takes (scan <|> other) text value := by
  intro rest
  rw [orElse_apply, fails]
  exact taken rest

theorem TakesWord.orElse_later (taken : TakesWord other text value) (fails : Fails scan text) :
    TakesWord (scan <|> other) text value := by
  intro rest ended
  rw [orElse_apply, fails]
  exact taken rest ended

theorem Fails.orElse (one : Fails scan text) (two : Fails other text) : Fails (scan <|> other) text := by
  intro rest
  rw [orElse_apply, one]
  exact two rest

/-! ### Lists -/

theorem takes_itemsWithin {item : Scan α} {spell : α → String} {read : α → α} {separator closing : String}
    {values : List α} (each : ∀ value ∈ values, Takes item (spell value) (read value))
    (differs : Differs closing separator) {fuel : Nat} (enough : values.length < fuel) :
    Takes (itemsWithin item separator closing fuel)
      (String.join (values.map fun value => separator ++ spell value) ++ closing) (values.map read) := by
  induction values generalizing fuel with
  | nil =>
      rcases Nat.exists_eq_succ_of_ne_zero (Nat.ne_of_gt enough) with ⟨fuel, rfl⟩
      have closed : Takes (pure []) "" ([] : List α) := takes_pure []
      simpa [itemsWithin] using takes_select closed
  | cons value rest ih =>
      rcases Nat.exists_eq_succ_of_ne_zero (Nat.ne_of_gt (Nat.zero_lt_of_lt enough)) with ⟨fuel, rfl⟩
      rw [List.forall_mem_cons] at each
      have later := ih each.2 (Nat.lt_of_succ_lt_succ enough)
      simp only [itemsWithin, List.map_cons, String.join_cons, String.append_assoc]
      exact (takes_select (each.1.bind later.last)).select_later differs.append

theorem length_le_join {separator : String} (some_char : separator ≠ "") (spell : α → String)
    (values : List α) :
    values.length ≤ (String.join (values.map fun value => separator ++ spell value)).toList.length := by
  have longer : 0 < separator.toList.length := by
    rw [List.length_pos_iff, ne_eq, String.toList_eq_nil_iff]
    exact some_char
  induction values with
  | nil => exact Nat.zero_le _
  | cons value rest ih =>
      simp only [List.map_cons, String.join_cons, String.toList_append, List.length_append,
        List.length_cons]
      omega

theorem takes_items {item : Scan α} {spell : α → String} {read : α → α} {separator closing : String}
    {values : List α} (each : ∀ value ∈ values, Takes item (spell value) (read value))
    (differs : Differs closing separator) (some_char : separator ≠ "") :
    Takes (items item separator closing)
      (String.join (values.map fun value => separator ++ spell value) ++ closing) (values.map read) := by
  intro rest
  have enough := length_le_join some_char spell values
  apply takes_itemsWithin each differs
  simp only [String.toList_append, List.length_append]
  omega

theorem fails_items {item : Scan α} {separator closing characters : List Char}
    (noClosing : differ closing characters) (noSeparator : differ separator characters) :
    Fails (items item (String.ofList separator) (String.ofList closing)) (String.ofList characters) := by
  intro rest
  rw [String.toList_ofList]
  simp only [items, itemsWithin, select, String.toList_ofList, dropPrefix?_of_differ noClosing,
    dropPrefix?_of_differ noSeparator]

/-- Texts with a separator between are the first of them and the others with a separator in front. -/
theorem intercalate_cons (separator text : String) (texts : List String) :
    separator.intercalate (text :: texts) = text ++ String.join (texts.map (separator ++ ·)) := by
  induction texts generalizing text with
  | nil => simp
  | cons next rest ih =>
      rw [String.intercalate_cons_cons, ih, List.map_cons, String.join_cons, String.append_assoc,
        String.append_assoc]

/-! ### Numbers -/

theorem takesWord_number (value : Nat) : TakesWord number (toString value) value := by
  intro rest ended
  have digits : ∀ c ∈ Nat.toDigits 10 value, c.isDigit := fun c member =>
    Nat.isDigit_of_mem_toDigits (by decide) (by decide) member
  have stops : rest.takeWhile Char.isDigit = [] ∧ rest.dropWhile Char.isDigit = rest := by
    cases rest with
    | nil => exact ⟨rfl, rfl⟩
    | cons c others =>
        have other : c.isDigit = false := by simpa [Scan.ended] using ended
        exact ⟨List.takeWhile_cons_of_neg (by simp [other]), List.dropWhile_cons_of_neg (by simp [other])⟩
  simp only [number, Nat.toString_eq_repr, Nat.toList_repr, List.takeWhile_append_of_pos digits,
    List.dropWhile_append_of_pos digits, stops, List.append_nil, Nat.ofDigitChars_ten_toDigits, if_true]

theorem integer_of_ne {c : Char} (other : c ≠ '-') (text : List Char) :
    integer (c :: text) = (number (c :: text)).map fun (magnitude, rest) => (magnitude, rest) := by
  rw [integer.eq_def]
  split
  · rename_i same
    exact absurd (List.cons.inj same).1 other
  · rfl

theorem takesWord_integer : (value : Int) → TakesWord integer (toString value) value
  | .ofNat magnitude => by
      intro rest ended
      have text : toString (Int.ofNat magnitude) = toString magnitude := rfl
      have taken := takesWord_number magnitude rest ended
      have digits := Text.isDigit_of_mem_toString magnitude
      rw [text]
      cases characters : (toString magnitude).toList with
      | nil =>
          rw [Nat.toString_eq_repr, Nat.toList_repr] at characters
          exact absurd characters Nat.toDigits_ne_nil
      | cons c others =>
          rw [characters] at taken digits
          have other : c ≠ '-' := by
            rintro rfl
            cases digits _ List.mem_cons_self
          rw [List.cons_append] at taken ⊢
          rw [integer_of_ne other, taken]
          rfl
  | .negSucc magnitude => by
      intro rest ended
      have taken := takesWord_number (magnitude + 1) rest ended
      have signed : integer ('-' :: ((toString (magnitude + 1)).toList ++ rest)) =
          some (-((magnitude + 1 : Nat) : Int), rest) := by
        rw [integer, taken]
        rfl
      have text : toString (Int.negSucc magnitude) = "-" ++ toString (magnitude + 1) := rfl
      rw [text, String.toList_append]
      exact signed

end Scan

end SqlMapper.Generated
