import SqlMapper.Generated.Run

/-!
# Writing to buffers

A step of a generated function adds text to one buffer.  The buffer of a clause body is the newest
variable of its name, so what a block declares on top of it neither hides nor changes the body, and
leaving the block brings back the variables with the longer body among them.
-/

namespace SqlMapper.Generated

/-- The body of a clause with text behind it.  Nothing else takes text. -/
def Cell.append (text : String) : Cell → Cell
  | .body written => .body (written ++ text)
  | other => other

namespace Variables

/-- The variables with text behind the newest body of a name. -/
def extend (target : Variable) (text : String) : Variables → Variables
  | [] => []
  | (other, cell) :: rest =>
    if other == target then (other, cell.append text) :: rest
    else (other, cell) :: extend target text rest

variable {declared fresh : Variables} {target other : Variable}

@[simp]
theorem map_fst_extend (target : Variable) (text : String) (declared : Variables) :
    (declared.extend target text).map (·.1) = declared.map (·.1) := by
  induction declared with
  | nil => rfl
  | cons entry rest ih =>
      unfold extend
      split <;> simp [ih]

@[simp]
theorem length_extend (target : Variable) (text : String) (declared : Variables) :
    (declared.extend target text).length = declared.length := by
  rw [← List.length_map (f := (·.1)), map_fst_extend, List.length_map]

theorem lookup_extend_of_ne (different : other ≠ target) (text : String) (declared : Variables) :
    (declared.extend target text).lookup other = declared.lookup other := by
  induction declared with
  | nil => rfl
  | cons entry rest ih =>
      rcases entry with ⟨name, cell⟩
      by_cases same : name = target
      · subst same
        have : (other == name) = false := beq_eq_false_iff_ne.2 different
        simp [extend, List.lookup_cons, this]
      · simp [extend, List.lookup_cons, same, ih]

theorem lookup_extend_self (target : Variable) (text : String) (declared : Variables) :
    (declared.extend target text).lookup target =
      (declared.lookup target).map (Cell.append text) := by
  induction declared with
  | nil => rfl
  | cons entry rest ih =>
      rcases entry with ⟨name, cell⟩
      by_cases same : name = target
      · simp [extend, same]
      · have : (target == name) = false := beq_eq_false_iff_ne.2 (Ne.symm same)
        simp [extend, List.lookup_cons, same, this, ih]

@[simp]
theorem extend_extend (target : Variable) (first second : String) (declared : Variables) :
    (declared.extend target first).extend target second =
      declared.extend target (first ++ second) := by
  induction declared with
  | nil => rfl
  | cons entry rest ih =>
      rcases entry with ⟨name, cell⟩
      by_cases same : name = target
      · cases cell <;> simp [extend, same, Cell.append, String.append_assoc]
      · simp [extend, same, ih]

@[simp]
theorem extend_empty (target : Variable) (declared : Variables) :
    declared.extend target "" = declared := by
  induction declared with
  | nil => rfl
  | cons entry rest ih =>
      rcases entry with ⟨name, cell⟩
      cases cell <;> simp [extend, Cell.append, ih]

theorem extend_append (absent : ∀ entry ∈ fresh, entry.1 ≠ target) (text : String) :
    (fresh ++ declared).extend target text = fresh ++ declared.extend target text := by
  induction fresh with
  | nil => rfl
  | cons entry rest ih =>
      have different : entry.1 ≠ target := absent entry List.mem_cons_self
      have := ih fun entry member => absent entry (List.mem_cons_of_mem _ member)
      simp [extend, different, this]

theorem lookup_append_of_absent (absent : ∀ entry ∈ fresh, entry.1 ≠ target) :
    (fresh ++ declared).lookup target = declared.lookup target := by
  have : fresh.lookup target = none := by
    rw [List.lookup_eq_none_iff]
    intro entry member
    exact bne_iff_ne.2 (absent entry member).symm
  simp [List.lookup_append, this]

theorem assign_eq_extend {written text : String}
    (found : declared.lookup target = some (.body written)) :
    declared.assign target (.body (written ++ text)) = declared.extend target text := by
  induction declared with
  | nil => simp at found
  | cons entry rest ih =>
      rcases entry with ⟨name, cell⟩
      by_cases same : name = target
      · subst same
        have : cell = .body written := by simpa [List.lookup_cons] using found
        simp [assign, extend, this, Cell.append]
      · have : (target == name) = false := beq_eq_false_iff_ne.2 (Ne.symm same)
        simp only [List.lookup_cons, this] at found
        simp [assign, extend, same, ih found]

/-- Leaving a block forgets what was declared in front of the older variables. -/
theorem restore_append {outer inner : Variables} (sameLength : inner.length = outer.length) :
    outer.restore (fresh ++ inner) = inner := by
  simp [restore, sameLength]

end Variables

/-- Whether text can be written to a buffer. -/
def Buffer.IsOpen (declared : Variables) : Buffer → Prop
  | .output => True
  | .side body => ∃ written, declared.lookup body = some (.body written)

namespace RunState

/-- The state with text behind what a buffer holds. -/
def appendTo (state : RunState) (text : String) : Buffer → RunState
  | .output => { state with sql := state.sql ++ text }
  | .side body => { state with declared := state.declared.extend body text }

variable {state : RunState} {buffer : Buffer}

theorem write_of_isOpen (opened : buffer.IsOpen state.declared) (text : String) :
    state.write text buffer = .ok (state.appendTo text buffer) := by
  cases buffer with
  | output => rfl
  | side body =>
      rcases opened with ⟨written, found⟩
      have : state.declared.body body = .ok written := by simp [Variables.body, found]
      simp [write, appendTo, this, Variables.assign_eq_extend found, bind, Except.bind]

@[simp]
theorem length_declared_appendTo (state : RunState) (text : String) (buffer : Buffer) :
    (state.appendTo text buffer).declared.length = state.declared.length := by
  cases buffer <;> simp [appendTo]

@[simp]
theorem map_fst_declared_appendTo (state : RunState) (text : String) (buffer : Buffer) :
    (state.appendTo text buffer).declared.map (·.1) = state.declared.map (·.1) := by
  cases buffer <;> simp [appendTo]

@[simp]
theorem sql_appendTo_side (state : RunState) (text : String) (body : Variable) :
    (state.appendTo text (.side body)).sql = state.sql := rfl

@[simp]
theorem parameters_appendTo (state : RunState) (text : String) (buffer : Buffer) :
    (state.appendTo text buffer).parameters = state.parameters := by
  cases buffer <;> rfl

@[simp]
theorem members_appendTo (state : RunState) (text : String) (buffer : Buffer) :
    (state.appendTo text buffer).members = state.members := by
  cases buffer <;> rfl

@[simp]
theorem appendTo_appendTo (state : RunState) (first second : String) (buffer : Buffer) :
    (state.appendTo first buffer).appendTo second buffer =
      state.appendTo (first ++ second) buffer := by
  cases buffer <;> simp [appendTo, String.append_assoc]

@[simp]
theorem appendTo_empty (state : RunState) (buffer : Buffer) : state.appendTo "" buffer = state := by
  cases buffer <;> simp [appendTo]

@[simp]
theorem leave_appendTo (state : RunState) (text : String) (buffer : Buffer) :
    state.leave (state.appendTo text buffer) = state.appendTo text buffer := by
  cases buffer <;> simp [leave, appendTo, Variables.restore]

/-- Text goes to no variable that is not the body of a clause. -/
theorem lookup_appendTo {target : Variable} {cell : Cell}
    (held : state.declared.lookup target = some cell) (opened : buffer.IsOpen state.declared)
    (other : ∀ written, cell ≠ .body written) (text : String) :
    (state.appendTo text buffer).declared.lookup target = some cell := by
  cases buffer with
  | output => exact held
  | side body =>
      rcases opened with ⟨written, found⟩
      have different : target ≠ body := by
        intro same
        rw [same, found, Option.some.injEq] at held
        exact other written held.symm
      rw [appendTo, Variables.lookup_extend_of_ne different, held]

theorem isOpen_appendTo (opened : buffer.IsOpen state.declared) (text : String) :
    buffer.IsOpen (state.appendTo text buffer).declared := by
  cases buffer with
  | output => trivial
  | side body =>
      rcases opened with ⟨written, found⟩
      exact ⟨written ++ text, by simp [appendTo, Variables.lookup_extend_self, found, Cell.append]⟩

end RunState

end SqlMapper.Generated
