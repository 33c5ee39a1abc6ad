import SqlMapper.Proofs.Source.Canonical
import SqlMapper.Proofs.Source.Quoted

/-!
# Scanning expressions

The expressions of generated functions are read back from their source.  What is read is the canonical
form of what was written.
-/

namespace SqlMapper.Generated.Scan

variable {α β : Type}

/-- What a value that may be missing comes to. -/
def given (value? : Option α) : Scan α := fun text =>
  value?.map (·, text)

/-! ### Variables and literals -/

def roles : List Role :=
  [.bind, .collection, .items, .counter, .item, .index, .clause .whereClause, .clause .setClause]

/-- Takes the letters of a role. -/
def role : Scan Role := fun text =>
  (roles.find? (·.source.toList == text.takeWhile Char.isAlpha)).map (·, text.dropWhile Char.isAlpha)

def «variable» : Scan Variable := do
  expect "__"
  let role ← role
  let number ← number
  pure { role, number }

def int64? (value : Int) : Option Int64 :=
  if Int64.minValue.toInt ≤ value ∧ value ≤ Int64.maxValue.toInt then some (Int64.ofInt value) else none

def literal : Scan Literal :=
  select [
    ("Value::Null", pure .null),
    ("Value::Bool(true)", pure (.bool true)),
    ("Value::Bool(false)", pure (.bool false)),
    ("Value::Int(", do
      let value ← integer
      expect ")"
      given ((int64? value).map .int)),
    ("Value::decimal(", do
      let units ← integer
      expect ", "
      let scale ← number
      expect ")"
      given ((Decimal.ofParts? (units < 0) units.natAbs scale).map .decimal)),
    ("Value::from(", do
      let text ← quoted
      expect ")"
      pure (.string text))]

/-! ### Values -/

/-- Takes one step of a path behind its context. -/
def access (target : String) : Scan Access := do
  expect "cx."
  let counts ← select [("count_or_member", pure true), ("member", pure false)]
  expect "("
  expect target
  expect ", "
  let name ← quoted
  expect ")"
  pure { name, counts }

def origin : Scan (Origin Variable) :=
  (do
    let member ← access "param"
    pure (.parameter member)) <|> do
    expect "Some("
    let target ← «variable»
    expect ".clone())"
    pure (.variable target)

/-- Takes one step of a path that is not the first. -/
def step : Scan Access := do
  let access ← access "&v"
  expect ")"
  pure access

def value : Scan (ValueCode Variable) :=
  (do
    let constant ← literal
    pure (.constant constant)) <|> do
    let origin ← origin
    let path ← items step ".and_then(|v| " ".unwrap_or_default()"
    pure (.read origin path)

/-- Takes one of the texts that are joined. -/
def part : Scan (ValueCode Variable) := do
  expect "stringify(&"
  let value ← value
  expect ")"
  pure value

def bound : Scan (BindCode Variable) :=
  (do
    let value ← value
    pure (.value value)) <|> do
    expect "Value::String(["
    let first ← part
    let others ← items part ", " "].concat())"
    pure (.concat (first :: others))

/-! ### Tests -/

def operator : Scan CompareOp :=
  select [("Ne", pure .ne), ("Eq", pure .eq), ("Ge", pure .ge), ("Le", pure .le), ("Gt", pure .gt),
    ("Lt", pure .lt)]

def condition : Scan (ConditionCode Variable) :=
  select [
    ("truthy(&", do
      let value ← value
      expect ")"
      pure (.truthy value)),
    ("compare(&", do
      let value ← value
      expect ", CompareOp::"
      let op ← operator
      expect ", &"
      let literal ← literal
      expect ")"
      pure (.compare value op literal)),
    ("false", pure .never)]

/-- What stands between conditions. -/
def joint : Junction → String
  | .all => " && "
  | .any => " || "

/-- Takes the conditions behind the first one, and tells how they are joined. -/
def otherConditions : Scan (Junction × List (ConditionCode Variable)) :=
  (do
    let others ← items condition (joint .all) ")"
    pure (.all, others)) <|> do
    let others ← items condition (joint .any) ")"
    pure (.any, others)

def test : Scan (TestCode Variable) :=
  (do
    let condition ← condition
    pure { junction := .all, conditions := [condition] }) <|> do
    expect "("
    let first ← condition
    let others ← otherConditions
    pure { junction := others.1, conditions := first :: others.2 }

/-! ### What is written is taken -/

variable {scan : Scan α} {text : String} {taken : α} {found : β}

theorem Takes.given (one : Takes scan text taken) {finish : α → Option β}
    (some_value : finish taken = some found) :
    Takes (scan >>= fun taken => given (finish taken)) text found := by
  intro rest
  rw [bind_apply, one]
  change (finish taken).map _ = _
  rw [some_value]
  rfl

theorem find?_roles (role : Role) :
    roles.find? (·.source.toList == role.source.toList) = some role := by
  cases role with
  | clause kind => cases kind <;> rfl
  | _ => rfl

theorem isAlpha_role (role : Role) : role.source.toList.all Char.isAlpha := by
  cases role with
  | clause kind => cases kind <;> rfl
  | _ => rfl

theorem role_append (target : Role) {c : Char} (digit : c.isDigit) (rest : List Char) :
    role (target.source.toList ++ c :: rest) = some (target, c :: rest) := by
  have letters := List.all_eq_true.1 (isAlpha_role target)
  have other : ¬c.isAlpha := by
    simp only [Char.isAlpha, Char.isUpper, Char.isLower, Char.isDigit] at digit ⊢
    grind [UInt32.le_iff_toNat_le]
  rw [role, List.takeWhile_append_of_pos letters, List.dropWhile_append_of_pos letters,
    List.takeWhile_cons_of_neg other, List.dropWhile_cons_of_neg other, List.append_nil, find?_roles]
  rfl

theorem takesWord_variable (target : Variable) : TakesWord «variable» target.source target := by
  intro rest ended
  have text : target.source = "__" ++ (target.role.source ++ toString target.number) :=
    String.append_assoc ..
  have digits := Text.isDigit_of_mem_toString target.number
  have number := takesWord_number target.number rest ended
  rw [text, String.toList_append, String.toList_append, List.append_assoc, List.append_assoc,
    «variable», bind_apply, takes_expect]
  cases characters : (toString target.number).toList with
  | nil =>
      rw [Nat.toString_eq_repr, Nat.toList_repr] at characters
      exact absurd characters Nat.toDigits_ne_nil
  | cons c others =>
      rw [characters] at digits number
      simp only [Option.bind_some, bind_apply, List.cons_append,
        role_append target.role (digits c List.mem_cons_self)]
      rw [← List.cons_append, number]
      rfl

theorem int64?_toInt (value : Int64) : int64? value.toInt = some value := by
  rw [int64?, if_pos ⟨value.minValue_le_toInt, value.toInt_le⟩, Int64.ofInt_toInt]

theorem ofParts?_units (value : Decimal) :
    Decimal.ofParts? (value.units < 0) value.units.natAbs value.scale = some value.dropZeroSign := by
  have magnitude : value.units.natAbs = value.coefficient := by
    unfold Decimal.units
    split <;> omega
  have sign : decide (value.units < 0) = (value.negative && value.coefficient != 0) := by
    unfold Decimal.units
    cases value.negative with
    | false => simp
    | true =>
        rw [Bool.eq_iff_iff]
        simp
        omega
  simp only [magnitude, sign, Decimal.ofParts?, dif_pos value.coefficient_lt, dif_pos value.scale_le]
  rfl

theorem takes_literal (constant : Literal) :
    Takes literal (literalSource constant) constant.canonical := by
  cases constant with
  | null => exact takes_mark
  | bool value =>
      cases value with
      | true =>
          have text : literalSource (.bool true) = "Value::Bool(true)" := rfl
          rw [text]
          exact takes_mark.select_later (differs_ofList (by decide))
      | false =>
          have text : literalSource (.bool false) = "Value::Bool(false)" := rfl
          rw [text]
          exact (takes_mark.select_later (differs_ofList (by decide))).select_later
            (differs_ofList (by decide))
  | int value =>
      change Takes literal ("Value::Int(" ++ toString value.toInt ++ ")") _
      rw [String.append_assoc]
      iterate 3 refine Takes.select_later ?_ (differs_ofList (by decide)).append
      refine takes_select <| (takesWord_integer value.toInt).bind (ends_ofList (by decide)) <|
        (takes_expect _).given ?_
      rw [int64?_toInt]
      rfl
  | decimal value =>
      change Takes literal
        ("Value::decimal(" ++ toString value.units ++ ", " ++ toString value.scale ++ ")") _
      simp only [String.append_assoc]
      iterate 4 refine Takes.select_later ?_ (differs_ofList (by decide)).append
      refine takes_select <| (takesWord_integer value.units).bind (ends_ofList (by decide)).append <|
        (takes_expect _).bind <| (takesWord_number value.scale).bind (ends_ofList (by decide)) <|
          (takes_expect _).given ?_
      rw [ofParts?_units]
      rfl
  | string text =>
      change Takes literal ("Value::from(" ++ Text.quoted text ++ ")") _
      rw [String.append_assoc]
      iterate 5 refine Takes.select_later ?_ (differs_ofList (by decide)).append
      exact takes_select <| (takes_quoted text).bind (takes_expect _).last

theorem takes_access (member : Access) (target : String) :
    Takes (access target) (member.source target) member := by
  have method : Takes (select [("count_or_member", pure true), ("member", pure false)])
      (if member.counts then "count_or_member" else "member") member.counts := by
    cases member.counts with
    | false => exact takes_mark.select_later (differs_ofList (by decide))
    | true => exact takes_mark
  simp only [Access.source, String.append_assoc]
  exact (takes_expect _).bind <| method.bind <| (takes_expect _).bind <| (takes_expect _).bind <|
    (takes_expect _).bind <| (takes_quoted _).bind (takes_expect _).last

theorem takes_origin (start : Origin Variable) :
    Takes origin (start.source Variable.source) start := by
  cases start with
  | parameter member => exact (takes_access member "param").last.orElse
  | «variable» target =>
      have refused : Fails (access "param") "Some(" := (differs_ofList (by decide)).expect.bind
      change Takes origin ("Some(" ++ target.source ++ ".clone())") _
      rw [String.append_assoc]
      refine Takes.orElse_later ?_ refused.bind.append
      exact (takes_expect _).bind <| (takesWord_variable target).bind (ends_ofList (by decide))
        (takes_expect _).last

/-- What begins like no literal and like no origin is no value. -/
theorem fails_value {characters : List Char} (noLiteral : Fails literal (String.ofList characters))
    (noMember : differ ['c', 'x', '.'] characters)
    (noVariable : differ ['S', 'o', 'm', 'e', '('] characters) :
    Fails value (String.ofList characters) := by
  have noOrigin : Fails origin (String.ofList characters) :=
    ((differs_ofList noMember).expect.bind).bind.orElse (differs_ofList noVariable).expect.bind
  exact noLiteral.bind.orElse noOrigin.bind

theorem takes_step (member : Access) : Takes step (member.source "&v" ++ ")") member :=
  (takes_access member "&v").bind (takes_expect _).last

theorem takes_value (code : ValueCode Variable) :
    Takes value (code.source Variable.source) code.canonical := by
  cases code with
  | constant constant => exact (takes_literal constant).last.orElse
  | read start path =>
      have steps : Takes (items step ".and_then(|v| " ".unwrap_or_default()")
          (String.join (path.map fun access => ".and_then(|v| " ++ (access.source "&v" ++ ")")) ++
            ".unwrap_or_default()") (path.map id) :=
        takes_items (fun member _ => takes_step member) (differs_ofList (by decide)) (by decide)
      rw [List.map_id] at steps
      have refused : Fails literal (start.source Variable.source) := by
        cases start with
        | parameter member =>
            have refused : Fails literal "cx." := fails_select rfl
            simp only [Origin.source, Access.source, String.append_assoc]
            exact refused.append
        | «variable» target =>
            have refused : Fails literal "Some(" := fails_select rfl
            exact refused.append.append
      simp only [ValueCode.source, String.append_assoc]
      exact ((takes_origin start).bind steps.last).orElse_later refused.bind.append

theorem takes_part (code : ValueCode Variable) :
    Takes part ("stringify(&" ++ code.source Variable.source ++ ")") code.canonical := by
  rw [String.append_assoc]
  exact (takes_expect _).bind <| (takes_value code).bind (takes_expect _).last

theorem takes_bound {code : BindCode Variable} (legible : code.IsLegible) :
    Takes bound (code.source Variable.source) code.canonical := by
  cases code with
  | value code => exact (takes_value code).last.orElse
  | null => exact (takes_value (.constant .null)).last.orElse
  | concat parts =>
      rcases List.exists_cons_of_ne_nil legible with ⟨first, others, rfl⟩
      have texts : Takes (items part ", " "].concat())")
          (String.join (others.map fun code => ", " ++ s!"stringify(&{code.source Variable.source})") ++
            "].concat())") (others.map (·.canonical)) :=
        takes_items (fun code _ => takes_part code) (differs_ofList (by decide)) (by decide)
      have split : (BindCode.concat (first :: others)).source Variable.source =
          "Value::String([" ++ (s!"stringify(&{first.source Variable.source})" ++
            (String.join (others.map fun code =>
              ", " ++ s!"stringify(&{code.source Variable.source})") ++ "].concat())")) := by
        simp only [BindCode.source, List.map_cons, intercalate_cons, List.map_map, String.append_assoc]
        rfl
      have refused : Fails value "Value::String([" :=
        fails_value (fails_select rfl) (by decide) (by decide)
      rw [split]
      exact ((takes_expect _).bind <| (takes_part first).bind texts.last).orElse_later refused.bind.append

/-! ### Tests are taken -/

theorem takes_operator (op : CompareOp) : Takes operator op.name op := by
  cases op with
  | ne => exact takes_mark
  | eq => exact takes_mark.select_later (differs_ofList (by decide))
  | ge =>
      iterate 2 refine Takes.select_later ?_ (differs_ofList (by decide))
      exact takes_mark
  | le =>
      iterate 3 refine Takes.select_later ?_ (differs_ofList (by decide))
      exact takes_mark
  | gt =>
      iterate 4 refine Takes.select_later ?_ (differs_ofList (by decide))
      exact takes_mark
  | lt =>
      iterate 5 refine Takes.select_later ?_ (differs_ofList (by decide))
      exact takes_mark

theorem takes_condition (code : ConditionCode Variable) :
    Takes condition (code.source Variable.source) code.canonical := by
  cases code with
  | truthy code =>
      simp only [ConditionCode.source, String.append_assoc]
      exact takes_select <| (takes_value code).bind (takes_expect _).last
  | compare code op literal =>
      simp only [ConditionCode.source, String.append_assoc]
      refine Takes.select_later ?_ (differs_ofList (by decide)).append
      exact takes_select <| (takes_value code).bind <| (takes_expect _).bind <| (takes_operator op).bind <|
        (takes_expect _).bind <| (takes_literal literal).bind (takes_expect _).last
  | never =>
      iterate 2 refine Takes.select_later ?_ (differs_ofList (by decide))
      exact takes_mark

theorem takes_otherConditions (junction : Junction) {others : List (ConditionCode Variable)}
    (several : others ≠ []) :
    Takes otherConditions
      (String.join (others.map fun code => joint junction ++ code.source Variable.source) ++ ")")
      (junction, others.map (·.canonical)) := by
  have each : ∀ code ∈ others, Takes condition (code.source Variable.source) code.canonical :=
    fun code _ => takes_condition code
  cases junction with
  | all =>
      have differs : Differs ")" (joint .all) := show Differs ")" " && " from differs_ofList (by decide)
      have taken := takes_items each differs (by decide)
      exact taken.last.orElse
  | any =>
      have differs : Differs ")" (joint .any) := show Differs ")" " || " from differs_ofList (by decide)
      have refused : Fails (items condition (joint .all) ")") (joint .any) :=
        show Fails (items condition " && " ")") " || " from fails_items (by decide) (by decide)
      refine (takes_items each differs (by decide)).last.orElse_later ?_
      rcases List.exists_cons_of_ne_nil several with ⟨second, rest, rfl⟩
      simp only [List.map_cons, String.join_cons, String.append_assoc]
      exact refused.bind.append

theorem takes_test {code : TestCode Variable} (legible : code.IsLegible) :
    Takes test (code.source Variable.source) code.canonical := by
  rcases code with ⟨junction, conditions⟩
  rcases conditions with _ | ⟨first, _ | ⟨second, rest⟩⟩
  · exact absurd rfl legible
  · exact (takes_condition first).last.orElse
  · have refused : Fails condition "(" := fails_select rfl
    have taken := takes_otherConditions junction (List.cons_ne_nil second rest)
    have split : TestCode.source Variable.source ⟨junction, first :: second :: rest⟩ =
        "(" ++ (first.source Variable.source ++ (String.join ((second :: rest).map fun code =>
          joint junction ++ code.source Variable.source) ++ ")")) := by
      have whole : TestCode.source Variable.source ⟨junction, first :: second :: rest⟩ =
          "(" ++ (joint junction).intercalate
            ((first :: second :: rest).map (·.source Variable.source)) ++ ")" := by
        cases junction <;> rfl
      rw [whole, List.map_cons, intercalate_cons, List.map_map, String.append_assoc,
        String.append_assoc]
      rfl
    rw [split]
    exact ((takes_expect _).bind <| (takes_condition first).bind taken.last).orElse_later
      refused.bind.append

end SqlMapper.Generated.Scan
