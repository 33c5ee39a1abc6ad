import SqlMapper.Proofs.Generated.Scope
import SqlMapper.Proofs.Source.Function

/-!
# Broken remarks

The id of a fragment is written as it is into the remark on it.  A line break in the id ends the remark,
and what the id holds behind the break is read as a step of the function, whatever step that is.
-/

namespace SqlMapper.Generated

open Text Code

/-- The id of a fragment that ends the remark on it and begins another one behind some code. -/
def breakingId (before code : String) : String :=
  before ++ ("\n" ++ (code ++ "//"))

variable {statement before text : String}

/-- The remark on a broken id comes to the line of code in the id. -/
theorem rowsOfLines?_breakingId {row : Row} (unbrokenBefore : Lacks ['\n'] before)
    (unbroken : Lacks ['\n'] text) (taken : Scan.Takes (Scan.row statement) text row) :
    rowsOfLines? statement (Line.pieces [referenceLine (breakingId before text)]) = some [row] := by
  let opened := '/' :: '/' :: (" include `".toList ++ before.toList)
  let rest := text.toList ++ ("//".toList ++ "` was never resolved".toList)
  have written : (referenceLine (breakingId before text)).text.toList = opened ++ '\n' :: rest := by
    have split : "// include `".toList = '/' :: '/' :: " include `".toList := rfl
    have newline : "\n".toList = ['\n'] := rfl
    change ("// include `" ++ breakingId before text ++ "` was never resolved").toList = _
    simp only [breakingId, String.toList_append, List.append_assoc, split, newline, opened, rest,
      List.cons_append, List.nil_append]
  have apart : Text.split (· == '\n') (opened ++ '\n' :: rest) = [opened, rest] := by
    have first : '\n' ∉ opened := by
      simp only [opened, List.mem_cons, List.mem_append, not_or]
      exact ⟨by decide, by decide, by decide +kernel,
        fun inside => unbrokenBefore _ inside List.mem_cons_self⟩
    have second : '\n' ∉ rest := by
      simp only [rest, List.mem_append, not_or]
      exact ⟨fun inside => unbroken _ inside List.mem_cons_self, by decide +kernel, by decide +kernel⟩
    rw [Text.split_append rfl, split_of_lacks first, split_of_lacks second]
    rfl
  have code := rowsOfLine?_of_row (taken ("//".toList ++ "` was never resolved".toList)) rfl
  rw [Line.pieces, List.flatMap_singleton, written, apart, rowsOfLines?, rowsOfLine?_remark,
    rowsOfLines?, code]
  rfl

/-- A broken id puts a step of its own into a function, between the steps around the remark on it. -/
theorem Function.isReadAs_of_breakingId {function : Function} {front back : List Code} {code : Code}
    (steps : function.body = front ++ back) (legal : IsName function.name)
    (legible : AreLegible function.body)
    (unbrokenLines : ∀ line ∈ function.lines, Lacks ['\n'] line.text)
    (unbrokenBefore : Lacks ['\n'] before) (unbroken : Lacks ['\n'] text)
    (taken : Scan.Takes (Scan.row function.statement) text (.step code)) :
    ({ function with body := front ++ .remark (breakingId before text) :: back } : Function).IsReadAs
      function.statement { function with body := canonicalOfAll front ++ code :: canonicalOfAll back } := by
  rw [Function.lines_eq, steps, linesOfAll_append, List.forall_mem_append, List.forall_mem_append,
    List.forall_mem_append] at unbrokenLines
  rcases unbrokenLines with ⟨unbrokenPrologue, ⟨unbrokenFront, unbrokenBack⟩, -⟩
  rw [steps, areLegible_append] at legible
  rcases readAs_linesOfAll function.statement front legible.1 with ⟨rows, readFront, stepsFront⟩
  rcases readAs_linesOfAll function.statement back legible.2 with ⟨others, readBack, stepsBack⟩
  have lines : linesOfAll function.statement (front ++ .remark (breakingId before text) :: back) =
      linesOfAll function.statement front ++
        ([referenceLine (breakingId before text)] ++ linesOfAll function.statement back) :=
    linesOfAll_append ..
  have read : rowsOfLines? function.statement
      (Line.pieces (linesOfAll function.statement (front ++ .remark (breakingId before text) :: back))) =
        some (rows ++ ([.step code] ++ others)) := by
    rw [lines, Line.pieces_append, Line.pieces_append, rowsOfLines?_append, rowsOfLines?_append,
      rowsOfLines?_pieces unbrokenFront, readFront, rowsOfLines?_pieces unbrokenBack, readBack,
      rowsOfLines?_breakingId unbrokenBefore unbroken taken]
    rfl
  let broken : Function := { function with body := front ++ .remark (breakingId before text) :: back }
  refine @Function.isReadAs_of_pieces broken legal unbrokenPrologue _ _ read ?_
  simp [stepsOfRows?, Reading.takeAll_append, Reading.takeAll, Reading.take, stepsFront, stepsBack]

end SqlMapper.Generated
