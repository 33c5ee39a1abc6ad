import SqlMapper.Proofs.Expression.Parsing
import SqlMapper.Proofs.Expression.Written

/-!
# Written tests are read back

The tokens of a written test are its pieces.  Its own junction splits them into the conditions, the other
junction nowhere, and each condition is read back with the white space around it.
-/

namespace SqlMapper.Written

open Token

/-! ### Tokens -/

theorem Sentence.lex_text {junction : Junction} (sentence : Sentence junction) :
    lex (String.ofList sentence.text) = layOut 0 sentence.pieces := by
  rw [lex_eq_lexFrom, String.toList_ofList, ← spell_pieces, lexFrom_spell sentence.cut]

/-- Whether no word among pieces spells a junction. -/
def FreeOf (junction : Junction) (pieces : List (TokenKind × List Char)) : Prop :=
  ∀ piece ∈ pieces, piece.1 = .word → piece.2 ∉ junction.spellings

section FreeOf

variable {junction : Junction} {first second : List (TokenKind × List Char)}

theorem FreeOf.spells_eq_false (free : FreeOf junction first) (start : Nat) :
    ∀ token ∈ layOut start first, junction.spells token = false :=
  fun _ member => Junction.spells_eq_false (free _ (mem_of_mem_layOut member))

theorem FreeOf.append (firstFree : FreeOf junction first) (secondFree : FreeOf junction second) :
    FreeOf junction (first ++ second) :=
  List.forall_mem_append.2 ⟨firstFree, secondFree⟩

theorem Gap.freeOf (gap : Gap) (junction : Junction) : FreeOf junction gap.pieces := by
  intro piece member word
  rw [kind_of_mem_pieces member] at word
  cases word

theorem Phrase.freeOf (phrase : Phrase) (junction : Junction) : FreeOf junction phrase.pieces := by
  have subjectFree (subject : Subject) : FreeOf junction [(.word, subject.text)] :=
    List.forall_mem_singleton.2 fun _ => subject.term junction
  cases phrase with
  | truthy subject => exact subjectFree subject
  | compare subject before op after operand =>
      have symbolFree : FreeOf junction [(op.tokenKind, op.symbol.toList)] := by
        refine List.forall_mem_singleton.2 fun word => ?_
        cases op <;> cases word
      have operandFree : FreeOf junction [(operand.kind, operand.text)] := by
        refine List.forall_mem_singleton.2 fun word => ?_
        cases operand with
        | quoted quote inner isQuote closed => cases word
        | bare word nonempty chars term => exact term junction
      exact (subjectFree subject).append ((before.freeOf junction).append
        (symbolFree.append ((after.freeOf junction).append operandFree)))

theorem Joint.freeOf (joint : Joint junction) {other : Junction} (differ : other ≠ junction) :
    FreeOf other joint.pieces := by
  have keywordFree : FreeOf other [(.word, joint.keyword)] :=
    List.forall_mem_singleton.2 fun _ => Junction.not_mem_spellings joint.spelled differ
  exact (joint.before.freeOf other).append (keywordFree.append (joint.after.freeOf other))

/-- A test does not hold the other junction. -/
theorem Sentence.freeOf (sentence : Sentence junction) {other : Junction} (differ : other ≠ junction) :
    FreeOf other sentence.pieces := by
  induction sentence with
  | single phrase => exact phrase.freeOf other
  | joined phrase joint rest ih => exact (phrase.freeOf other).append ((joint.freeOf differ).append ih)

end FreeOf

/-! ### Conditions are read back -/

/-- Whether no piece spells an operator. -/
def ArePlain (pieces : List (TokenKind × List Char)) : Prop :=
  ∀ piece ∈ pieces, piece.1.IsPlain

theorem ArePlain.layOut {pieces : List (TokenKind × List Char)} (plain : ArePlain pieces) (start : Nat) :
    ∀ token ∈ Token.layOut start pieces, token.kind.IsPlain :=
  fun _ member => plain _ (mem_of_mem_layOut member)

theorem isPlain_word : TokenKind.word.IsPlain := by
  intro op
  cases op <;> nofun

theorem Operand.isPlain_kind (operand : Operand) : operand.kind.IsPlain := by
  intro op
  cases operand <;> cases op <;> nofun

section Around

variable (before after : Gap)

theorem Gap.isPlain_of_mem_pieces {gap : Gap} {piece : TokenKind × List Char}
    (member : piece ∈ gap.pieces) : piece.1.IsPlain := by
  intro op
  rw [kind_of_mem_pieces member]
  cases op <;> nofun

theorem arePlain_around {kind : TokenKind} (plain : kind.IsPlain) (text : List Char) :
    ArePlain (before.pieces ++ (kind, text) :: after.pieces) :=
  List.forall_mem_append.2 ⟨fun _ => Gap.isPlain_of_mem_pieces,
    List.forall_mem_cons.2 ⟨plain, fun _ => Gap.isPlain_of_mem_pieces⟩⟩

theorem spell_around (kind : TokenKind) (text : List Char) :
    spell (before.pieces ++ (kind, text) :: after.pieces) = before.text ++ (text ++ after.text) := by
  rw [spell_append, spell_cons, Gap.spell_pieces, Gap.spell_pieces]

theorem Subject.trim_text (subject : Subject) :
    Text.trim (before.text ++ (subject.text ++ after.text)) = subject.text := by
  have solid := solid_of_word subject.isWordChar_of_mem
  rw [← List.append_assoc]
  exact Text.trim_eq_of_blank_around before.blank after.blank (forall_head?_of_forall_mem solid)
    fun c last => solid c (List.mem_of_mem_getLast? last)

theorem Operand.trim_text (operand : Operand) :
    Text.trim (before.text ++ (operand.text ++ after.text)) = operand.text := by
  rw [← List.append_assoc]
  exact Text.trim_eq_of_blank_around before.blank after.blank operand.solid_head?
    operand.solid_getLast?

end Around

/-- A condition is read back between white space. -/
theorem Phrase.parse_layOut (phrase : Phrase) (lead trail : Gap) (start : Nat) :
    Atom.parse (layOut start (lead.pieces ++ (phrase.pieces ++ trail.pieces))) = phrase.atom := by
  cases phrase with
  | truthy subject =>
      refine Atom.parse_of_path ((arePlain_around lead trail isPlain_word subject.text).layOut start) ?_
      rw [trimmedText_layOut, spell_around, subject.trim_text]
      exact Path.parse?_toText subject.plain
  | compare subject before op after operand =>
      -- the sign parts the tokens into those of the subject and those of the operand
      have parted : lead.pieces ++ ((Phrase.compare subject before op after operand).pieces ++ trail.pieces) =
          (lead.pieces ++ (.word, subject.text) :: before.pieces) ++ (op.tokenKind, op.symbol.toList) ::
            (after.pieces ++ (operand.kind, operand.text) :: trail.pieces) := by
        simp only [pieces, List.cons_append, List.append_assoc, List.nil_append]
      have plainLeft := arePlain_around lead before isPlain_word subject.text
      have plainRight := arePlain_around after trail operand.isPlain_kind operand.text
      have right (start : Nat) :
          trimmedText (layOut start (after.pieces ++ (operand.kind, operand.text) :: trail.pieces)) =
            operand.text := by
        rw [trimmedText_layOut, spell_around, operand.trim_text]
      rw [parted, layOut_append, layOut,
        Atom.parse_of_comparison rfl (plainLeft.layOut _) (plainRight.layOut _), right, operand.parse_text]
      · rfl
      · rw [trimmedText_layOut, spell_around, subject.trim_text]
        exact Path.parse?_toText subject.plain
      · rw [right]
        exact operand.text_ne_nil

/-! ### Tests are read back -/

namespace Sentence

variable {junction : Junction}

/-- Splitting a test at its junction gives its conditions, whatever white space stands in front. -/
theorem map_parse_split (sentence : Sentence junction) (lead : Gap) (afterBlank : Bool) (start : Nat) :
    (junction.split afterBlank (layOut start (lead.pieces ++ sentence.pieces))).map Atom.parse =
      sentence.atoms := by
  induction sentence generalizing lead afterBlank start with
  | single phrase =>
      have free := (lead.freeOf junction).append (phrase.freeOf junction)
      have read := phrase.parse_layOut lead .none start
      change Atom.parse (layOut start (lead.pieces ++ (phrase.pieces ++ []))) = _ at read
      rw [List.append_nil] at read
      rw [pieces, Junction.split_of_none (free.spells_eq_false start), List.map_singleton, read, atoms]
  | joined phrase joint rest ih =>
      have free := (lead.freeOf junction).append (phrase.freeOf junction)
      have before := Gap.pieces_of_nonempty joint.before_nonempty
      have after := Gap.pieces_of_nonempty joint.after_nonempty
      -- the condition in front is read with the white space behind it, the others with that before them
      have parted : lead.pieces ++ (Sentence.joined phrase joint rest).pieces =
          (lead.pieces ++ phrase.pieces) ++ (.whitespace, joint.before.text) :: (.word, joint.keyword) ::
            (.whitespace, joint.after.text) :: rest.pieces := by
        simp only [pieces, Joint.pieces, before, after, List.cons_append, List.append_assoc,
          List.nil_append]
      have spelled (start : Nat) : junction.spells { kind := .word, start, text := joint.keyword } := by
        simp [Junction.spells, joint.spelled]
      have read := phrase.parse_layOut lead joint.before start
      rw [before, ← List.append_assoc, layOut_append] at read
      have others := ih joint.after false
      rw [after] at others
      rw [parted, layOut_append, layOut, layOut, layOut,
        Junction.split_append_of_none (free.spells_eq_false start) rfl (spelled _) rfl, List.map_cons]
      exact congrArg₂ List.cons read (others _)

theorem length_atoms_pos (sentence : Sentence junction) : 0 < sentence.atoms.length := by
  cases sentence <;> exact Nat.succ_pos _

end Sentence

/-- What is written is read back: every test comes out with its junction and its conditions in order, and
every operand with its meaning. -/
theorem Sentence.parse_written {junction : Junction} (sentence : Sentence junction) :
    Test.parse (String.ofList sentence.text) =
        { source := String.ofList sentence.text, junction := sentence.junctionOf,
          atoms := sentence.atoms, mixed := false } ∧
      ∀ operand : Operand, Literal.parse operand.text = operand.literal := by
  refine ⟨?_, Operand.parse_text⟩
  have conditions := sentence.map_parse_split .none false 0
  change (junction.split false (layOut 0 sentence.pieces)).map Atom.parse = sentence.atoms at conditions
  cases sentence with
  | single phrase =>
      have whole (other : Junction) :=
        Junction.split_of_none ((phrase.freeOf other).spells_eq_false 0) false
      have lexed := (single phrase : Sentence junction).lex_text
      rw [pieces] at lexed conditions
      rw [whole junction, List.map_singleton] at conditions
      rw [Test.parse_of_whole lexed whole, conditions]
      rfl
  | joined phrase joint rest =>
      have several : 1 < (junction.split false (layOut 0 (joined phrase joint rest).pieces)).length := by
        rw [← List.length_map (f := Atom.parse), conditions]
        exact Nat.succ_lt_succ rest.length_atoms_pos
      have whole (other : Junction) (differ : other ≠ junction) :=
        Junction.split_of_none (((joined phrase joint rest).freeOf differ).spells_eq_false 0) false
      rw [Test.parse_of_split (joined phrase joint rest).lex_text several whole, conditions]
      rfl

/-! ### A written test -/

def blankGap : Gap where
  text := [' ']
  blank := List.forall_mem_singleton.2 (by decide)

def totalSubject : Subject where
  path := { head := "order", rest := ["total"] }
  plain := by decide +kernel
  term := by
    intro junction
    cases junction <;> decide +kernel

def nameSubject : Subject where
  path := { head := "name", rest := [] }
  plain := by decide +kernel
  term := by
    intro junction
    cases junction <;> decide +kernel

theorem isTerm_ten : IsTerm ['1', '0'] := by
  intro junction
  cases junction <;> decide +kernel

def tenOperand : Operand :=
  .bare ['1', '0'] (by decide) (List.all_eq_true.1 (by decide)) isTerm_ten

/-- A text that holds a junction. -/
def quotedOperand : Operand :=
  .quoted '\x27' "x or y".toList (by decide) (by decide +kernel)

def tabJoint : Joint .all where
  before := blankGap
  keyword := "AND".toList
  after := { text := ['\t'], blank := List.forall_mem_singleton.2 (by decide) }
  before_nonempty := by decide
  spelled := by decide +kernel
  after_nonempty := by decide

/-- A test of two comparisons, one of them with a junction in quotes. -/
def totalAndName : Sentence .all :=
  .joined (.compare totalSubject .none .ge blankGap tenOperand) tabJoint
    (.single (.compare nameSubject blankGap .ne .none quotedOperand))

theorem Sentence.parse_written_totalAndName :
    Test.parse "order.total>= 10 AND\tname !='x or y'" =
        { source := "order.total>= 10 AND\tname !='x or y'"
          junction := .all
          atoms := [.compare { head := "order", rest := ["total"] } .ge (.int 10),
            .compare { head := "name", rest := [] } .ne (.string "x or y")]
          mixed := false } := by
  have text : String.ofList totalAndName.text = "order.total>= 10 AND\tname !='x or y'" := by
    decide +kernel
  have atoms : totalAndName.atoms = [.compare { head := "order", rest := ["total"] } .ge (.int 10),
      .compare { head := "name", rest := [] } .ne (.string "x or y")] := by
    decide +kernel
  have read := (Sentence.parse_written totalAndName).1
  rw [text, atoms] at read
  exact read

end SqlMapper.Written
