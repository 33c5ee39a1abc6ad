import SqlMapper.Expression.Test

/-!
# Reading tests from tokens

Where a junction splits tokens, which operator a condition is read at, and what a test comes out as: each
said of any tokens, whatever text they come from.
-/

namespace SqlMapper

namespace Junction

variable {junction : Junction}

theorem spells_eq_false {token : Token}
    (term : token.kind = .word → token.text ∉ junction.spellings) : junction.spells token = false := by
  rw [Bool.eq_false_iff]
  intro spelled
  simp only [spells, Bool.and_eq_true, beq_iff_eq, List.contains_iff_mem] at spelled
  exact term spelled.1 spelled.2

theorem not_mem_spellings {keyword : List Char} (spelled : keyword ∈ junction.spellings)
    {other : Junction} (differ : other ≠ junction) : keyword ∉ other.spellings := by
  have apart : junction.spellings.all fun word => !other.spellings.contains word := by
    cases junction <;> cases other <;> first | rfl | exact absurd rfl differ
  simpa using List.all_eq_true.1 apart keyword spelled

theorem split_cons {token : Token} (term : junction.spells token = false)
    {rest piece : List Token} {pieces : List (List Token)}
    (split : junction.split (token.kind == .whitespace) rest = piece :: pieces) (afterBlank : Bool) :
    junction.split afterBlank (token :: rest) = (token :: piece) :: pieces := by
  simp only [Junction.split, term, split, Bool.false_and, Bool.false_eq_true, if_false]

theorem split_keyword {keyword next : Token} (spelled : junction.spells keyword)
    (blankAfter : next.kind = .whitespace) (rest : List Token) :
    junction.split true (keyword :: next :: rest) = [] :: junction.split false (next :: rest) := by
  rw [Junction.split, if_pos]
  simp [spelled, blankAfter]

theorem split_of_none {tokens : List Token}
    (none : ∀ token ∈ tokens, junction.spells token = false) (afterBlank : Bool) :
    junction.split afterBlank tokens = [tokens] := by
  induction tokens generalizing afterBlank with
  | nil => rfl
  | cons token rest ih =>
      rw [List.forall_mem_cons] at none
      exact split_cons none.1 (ih none.2 _) afterBlank

/-- The first junction between white space ends the first condition. -/
theorem split_append_of_none {front : List Token} {blank keyword next : Token}
    (none : ∀ token ∈ front, junction.spells token = false) (blankBefore : blank.kind = .whitespace)
    (spelled : junction.spells keyword) (blankAfter : next.kind = .whitespace) (rest : List Token)
    (afterBlank : Bool) :
    junction.split afterBlank (front ++ blank :: keyword :: next :: rest) =
      (front ++ [blank]) :: junction.split false (next :: rest) := by
  induction front generalizing afterBlank with
  | nil =>
      have noKeyword : junction.spells blank = false := by simp [Junction.spells, blankBefore]
      refine split_cons noKeyword ?_ afterBlank
      rw [blankBefore]
      exact split_keyword spelled blankAfter rest
  | cons token more ih =>
      rw [List.forall_mem_cons] at none
      exact split_cons none.1 (ih none.2 _) afterBlank

end Junction

/-- Whether no operator is spelled by tokens of a kind. -/
def TokenKind.IsPlain (kind : TokenKind) : Prop :=
  ∀ op : CompareOp, kind ≠ op.tokenKind

namespace CompareOp

theorem eq_of_tokenKind_eq {op other : CompareOp} (same : op.tokenKind = other.tokenKind) : other = op := by
  cases op <;> cases other <;> first | rfl | cases same

theorem findIn?_eq_some {tokens : List Token} {op : CompareOp}
    (found : ∃ token ∈ tokens, token.kind = op.tokenKind)
    (only : ∀ token ∈ tokens, ∀ other : CompareOp, token.kind = other.tokenKind → other = op) :
    findIn? tokens = some op := by
  have tried : (fun other : CompareOp => tokens.any (·.kind == other.tokenKind)) = (· == op) := by
    funext other
    rw [Bool.eq_iff_iff, List.any_eq_true, beq_iff_eq]
    constructor
    · rintro ⟨token, member, same⟩
      exact only token member other (eq_of_beq same)
    · rintro rfl
      rcases found with ⟨token, member, same⟩
      exact ⟨token, member, beq_iff_eq.2 same⟩
  rw [findIn?, tried]
  cases op <;> rfl

theorem findIn?_eq_none {tokens : List Token} (plain : ∀ token ∈ tokens, token.kind.IsPlain) :
    findIn? tokens = none := by
  rw [findIn?, List.find?_eq_none]
  intro op _ found
  rcases List.any_eq_true.1 found with ⟨token, member, same⟩
  exact plain token member op (eq_of_beq same)

end CompareOp

namespace Atom

theorem parse_of_path {tokens : List Token} (plain : ∀ token ∈ tokens, token.kind.IsPlain)
    {path : Path} (read : Path.parse? (Token.trimmedText tokens) = some path) :
    parse tokens = .truthy path := by
  simp only [parse, CompareOp.findIn?_eq_none plain, read]

theorem parse_of_comparison {left right : List Token} {sign : Token} {op : CompareOp}
    (isSign : sign.kind = op.tokenKind) (plainLeft : ∀ token ∈ left, token.kind.IsPlain)
    (plainRight : ∀ token ∈ right, token.kind.IsPlain) {path : Path}
    (read : Path.parse? (Token.trimmedText left) = some path) (nonempty : Token.trimmedText right ≠ []) :
    parse (left ++ sign :: right) = .compare path op (Literal.parse (Token.trimmedText right)) := by
  have found : CompareOp.findIn? (left ++ sign :: right) = some op := by
    refine CompareOp.findIn?_eq_some ⟨sign, by simp, isSign⟩ ?_
    intro token member other same
    rcases List.mem_append.1 member with inLeft | later
    · exact absurd same (plainLeft token inLeft other)
    · rcases List.mem_cons.1 later with rfl | inRight
      · exact CompareOp.eq_of_tokenKind_eq (isSign.symm.trans same)
      · exact absurd same (plainRight token inRight other)
  let isOther (token : Token) : Bool := token.kind != op.tokenKind
  have passed : ∀ token ∈ left, isOther token :=
    fun token member => bne_iff_ne.2 (plainLeft token member op)
  have stops : ¬isOther sign := by simp [isOther, isSign]
  have taken : (left ++ sign :: right).takeWhile isOther = left := by
    rw [List.takeWhile_append_of_pos passed, List.takeWhile_cons_of_neg stops, List.append_nil]
  have dropped : (left ++ sign :: right).dropWhile isOther = sign :: right := by
    rw [List.dropWhile_append_of_pos passed, List.dropWhile_cons_of_neg stops]
  have some_right : (Token.trimmedText right).isEmpty = false := by simpa using nonempty
  simp only [isOther] at taken dropped
  simp only [parse, found, taken, dropped, List.tail_cons, read, some_right, Bool.false_eq_true,
    if_false]

end Atom

namespace Test

variable {source : String} {tokens : List Token}

/-- A text in which neither junction splits is one condition. -/
theorem parse_of_whole (lexed : Token.lex source = tokens)
    (whole : ∀ junction : Junction, junction.split false tokens = [tokens]) :
    parse source = { source, junction := .all, atoms := [Atom.parse tokens], mixed := false } := by
  simp [parse, lexed, whole]

/-- A text in which only one junction splits has the pieces between as conditions. -/
theorem parse_of_split (lexed : Token.lex source = tokens) {junction : Junction}
    (several : 1 < (junction.split false tokens).length)
    (whole : ∀ other, other ≠ junction → other.split false tokens = [tokens]) :
    parse source =
      { source, junction, atoms := (junction.split false tokens).map Atom.parse, mixed := false } := by
  cases junction with
  | all =>
      have noOr := whole .any nofun
      simp [parse, lexed, several, noOr]
  | any =>
      have noAnd := whole .all nofun
      simp [parse, lexed, several, noAnd]

end Test

end SqlMapper
