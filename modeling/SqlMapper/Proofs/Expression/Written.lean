import SqlMapper.Expression.Test
import SqlMapper.Proofs.Expression.Path
import SqlMapper.Proofs.Expression.Token

/-!
# Written tests

A test is written as conditions with one junction between them.  A condition is a path, or a path, an
operator and an operand; around operators there may be white space, around junctions there is some.  The
types below admit just such tests, and `Sentence.parse_written` says that the text of every one of them is
read back as its conditions.
-/

namespace SqlMapper

open Token

namespace Written

/-- White space, or nothing. -/
structure Gap where
  text : List Char
  blank : ∀ c ∈ text, Text.isBlank c

/-- Whether a word may stand in a condition because it spells no junction. -/
def IsTerm (word : List Char) : Prop :=
  ∀ junction : Junction, word ∉ junction.spellings

/-- A path that may stand in a condition. -/
structure Subject where
  path : Path
  plain : path.IsPlain
  term : IsTerm path.toText.toList

/-- The right side of a comparison: a string without its own quote in it, or a word. -/
inductive Operand where
  | quoted (quote : Char) (inner : List Char) (isQuote : quote ∈ quotes) (closed : quote ∉ inner)
  | bare (word : List Char) (nonempty : word ≠ []) (chars : ∀ c ∈ word, isWordChar c)
      (term : IsTerm word)

/-- A condition. -/
inductive Phrase where
  | truthy (subject : Subject)
  | compare (subject : Subject) (before : Gap) (op : CompareOp) (after : Gap) (operand : Operand)

/-- A junction in one of its spellings, with white space on both sides. -/
structure Joint (junction : Junction) where
  before : Gap
  keyword : List Char
  after : Gap
  before_nonempty : before.text ≠ []
  spelled : keyword ∈ junction.spellings
  after_nonempty : after.text ≠ []

/-- A test: one condition, or a condition that is joined to the others. -/
inductive Sentence (junction : Junction) where
  | single (phrase : Phrase)
  | joined (phrase : Phrase) (joint : Joint junction) (rest : Sentence junction)

/-! ### Texts and what they mean -/

def Gap.none : Gap where
  text := []
  blank := List.forall_mem_nil _

def Subject.text (subject : Subject) : List Char :=
  subject.path.toText.toList

def Operand.text : Operand → List Char
  | .quoted quote inner _ _ => quote :: (inner ++ [quote])
  | .bare word _ _ _ => word

/-- A string means its inside, a word whatever constant it writes. -/
def Operand.literal : Operand → Literal
  | .quoted _ inner _ _ => .string (String.ofList inner)
  | .bare word _ _ _ => Literal.parse word

def Phrase.text : Phrase → List Char
  | .truthy subject => subject.text
  | .compare subject before op after operand =>
      subject.text ++ (before.text ++ (op.symbol.toList ++ (after.text ++ operand.text)))

def Phrase.atom : Phrase → Atom
  | .truthy subject => .truthy subject.path
  | .compare subject _ op _ operand => .compare subject.path op operand.literal

def Joint.text {junction : Junction} (joint : Joint junction) : List Char :=
  joint.before.text ++ (joint.keyword ++ joint.after.text)

namespace Sentence

variable {junction : Junction}

def text : Sentence junction → List Char
  | .single phrase => phrase.text
  | .joined phrase joint rest => phrase.text ++ (joint.text ++ rest.text)

def atoms : Sentence junction → List Atom
  | .single phrase => [phrase.atom]
  | .joined phrase _ rest => phrase.atom :: rest.atoms

/-- A condition on its own is a test of all its conditions. -/
def junctionOf : Sentence junction → Junction
  | .single _ => .all
  | .joined _ _ _ => junction

end Sentence

/-! ### Pieces -/

/-- Nothing is no piece. -/
def Gap.pieces (gap : Gap) : List (TokenKind × List Char) :=
  if gap.text = [] then [] else [(.whitespace, gap.text)]

def Operand.kind : Operand → TokenKind
  | .quoted _ _ _ _ => .string
  | .bare _ _ _ _ => .word

def Phrase.pieces : Phrase → List (TokenKind × List Char)
  | .truthy subject => [(.word, subject.text)]
  | .compare subject before op after operand =>
      (.word, subject.text) :: (before.pieces ++ (op.tokenKind, op.symbol.toList) ::
        (after.pieces ++ [(operand.kind, operand.text)]))

def Joint.pieces {junction : Junction} (joint : Joint junction) : List (TokenKind × List Char) :=
  joint.before.pieces ++ (.word, joint.keyword) :: joint.after.pieces

def Sentence.pieces {junction : Junction} : Sentence junction → List (TokenKind × List Char)
  | .single phrase => phrase.pieces
  | .joined phrase joint rest => phrase.pieces ++ (joint.pieces ++ rest.pieces)

@[simp] theorem Gap.spell_pieces (gap : Gap) : spell gap.pieces = gap.text := by
  unfold pieces
  split
  · rename_i empty
    rw [empty]
    rfl
  · exact List.append_nil _

theorem Gap.pieces_of_nonempty {gap : Gap} (nonempty : gap.text ≠ []) :
    gap.pieces = [(.whitespace, gap.text)] :=
  if_neg nonempty

theorem Gap.kind_of_mem_pieces {gap : Gap} {piece : TokenKind × List Char}
    (member : piece ∈ gap.pieces) : piece.1 = .whitespace := by
  unfold pieces at member
  split at member
  · cases member
  · rw [List.mem_singleton.1 member]

@[simp] theorem Phrase.spell_pieces (phrase : Phrase) : spell phrase.pieces = phrase.text := by
  cases phrase with
  | truthy subject => exact List.append_nil _
  | compare subject before op after operand =>
      simp only [pieces, text, spell_cons, spell_append, Gap.spell_pieces]
      simp [spell]

@[simp] theorem Joint.spell_pieces {junction : Junction} (joint : Joint junction) :
    spell joint.pieces = joint.text := by
  simp only [pieces, text, spell_cons, spell_append, Gap.spell_pieces]

@[simp] theorem Sentence.spell_pieces {junction : Junction} (sentence : Sentence junction) :
    spell sentence.pieces = sentence.text := by
  induction sentence with
  | single phrase => exact phrase.spell_pieces
  | joined phrase joint rest ih =>
      simp only [pieces, text, spell_append, Phrase.spell_pieces, Joint.spell_pieces, ih]

/-! ### The pieces are cut where the text is -/

/-- Whether a text is empty or begins with white space. -/
def Breaks (text : List Char) : Prop :=
  ∀ c ∈ text.head?, Text.isBlank c

theorem Breaks.ends {text : List Char} (breaks : Breaks text) :
    ∀ c ∈ text.head?, isWordChar c = false :=
  fun c first => isWordChar_of_isBlank (breaks c first)

/-- What holds of white space and of the first character of a text holds with a gap in front. -/
theorem Gap.forall_head? (gap : Gap) {holds : Char → Prop} {text : List Char}
    (blank : ∀ c, Text.isBlank c → holds c) (first : ∀ c ∈ text.head?, holds c) :
    ∀ c ∈ (gap.text ++ text).head?, holds c := by
  rcases gap with ⟨_ | ⟨space, spaces⟩, blanks⟩
  · exact first
  · intro c same
    cases same
    exact blank space (blanks space List.mem_cons_self)

theorem forall_head?_append {holds : Char → Prop} {text : List Char} (nonempty : text ≠ [])
    (first : ∀ c ∈ text.head?, holds c) (more : List Char) : ∀ c ∈ (text ++ more).head?, holds c := by
  rcases List.exists_cons_of_ne_nil nonempty with ⟨c, rest, rfl⟩
  exact first

theorem forall_head?_of_forall_mem {holds : Char → Prop} {text : List Char}
    (all : ∀ c ∈ text, holds c) : ∀ c ∈ text.head?, holds c :=
  fun c first => all c (List.mem_of_mem_head? first)

theorem solid_of_word {word : List Char} (chars : ∀ c ∈ word, isWordChar c) :
    ∀ c ∈ word, Text.isBlank c = false :=
  fun c member => isBlank_of_isWordChar (chars c member)

namespace Subject

variable (subject : Subject)

theorem text_ne_nil : subject.text ≠ [] :=
  Path.toList_toText_ne_nil subject.plain

theorem isWordChar_of_mem : ∀ c ∈ subject.text, isWordChar c :=
  Path.isWordChar_of_mem_toText subject.plain

theorem cut {rest : List (TokenKind × List Char)} (cut : Cut rest)
    (ends : ∀ c ∈ (spell rest).head?, isWordChar c = false) : Cut ((.word, subject.text) :: rest) :=
  .cons (.word subject.text_ne_nil subject.isWordChar_of_mem ends) (by decide) cut

end Subject

theorem Gap.cut (gap : Gap) {rest : List (TokenKind × List Char)} (cut : Cut rest)
    (solid : ∀ c ∈ (spell rest).head?, Text.isBlank c = false) : Cut (gap.pieces ++ rest) := by
  unfold pieces
  split
  · exact cut
  · rename_i nonempty
    exact .cons (.whitespace nonempty gap.blank solid) (by decide) cut

namespace Operand

variable (operand : Operand)

theorem text_ne_nil : operand.text ≠ [] := by
  cases operand with
  | quoted quote inner isQuote closed => exact List.cons_ne_nil _ _
  | bare word nonempty chars term => exact nonempty

theorem solid_head? : ∀ c ∈ operand.text.head?, Text.isBlank c = false := by
  cases operand with
  | quoted quote inner isQuote closed => exact solid_head?_quoted isQuote inner
  | bare word nonempty chars term => exact forall_head?_of_forall_mem (solid_of_word chars)

theorem solid_getLast? : ∀ c ∈ operand.text.getLast?, Text.isBlank c = false := by
  cases operand with
  | quoted quote inner isQuote closed => exact solid_getLast?_quoted isQuote inner
  | bare word nonempty chars term => exact fun c last => solid_of_word chars c (List.mem_of_mem_getLast? last)

theorem head?_ne_equals : ∀ c ∈ operand.text.head?, c ≠ '=' := by
  rintro c first rfl
  cases operand with
  | quoted quote inner isQuote closed =>
      cases first
      exact absurd isQuote (by decide)
  | bare word nonempty chars term =>
      exact absurd (chars '=' (List.mem_of_mem_head? first)) (by decide)

theorem cut {rest : List (TokenKind × List Char)} (cut : Cut rest)
    (ends : ∀ c ∈ (spell rest).head?, isWordChar c = false) :
    Cut ((operand.kind, operand.text) :: rest) := by
  cases operand with
  | quoted quote inner isQuote closed => exact .cons (.string isQuote closed _) nofun cut
  | bare word nonempty chars term => exact .cons (.word nonempty chars ends) nofun cut

/-- The text of an operand is read back as its meaning. -/
theorem parse_text : Literal.parse operand.text = operand.literal := by
  have whole : Text.trim operand.text = operand.text :=
    Text.trim_eq_self operand.solid_head? operand.solid_getLast?
  cases operand with
  | quoted quote inner isQuote closed => exact Literal.parse_quoted isQuote whole
  | bare word nonempty chars term => rfl

end Operand

theorem isWord_of_mem_spellings {junction : Junction} {keyword : List Char}
    (spelled : keyword ∈ junction.spellings) : keyword ≠ [] ∧ ∀ c ∈ keyword, isWordChar c := by
  have words : junction.spellings.all fun word => !word.isEmpty && word.all isWordChar := by
    cases junction <;> decide
  simpa using List.all_eq_true.1 words keyword spelled

theorem solid_symbol (op : CompareOp) :
    ∀ c ∈ op.symbol.toList.head?, isWordChar c = false ∧ Text.isBlank c = false := by
  have heads : op.symbol.toList.head?.all fun c => !isWordChar c && !Text.isBlank c := by
    cases op <;> decide
  intro c first
  rw [Option.mem_def.1 first] at heads
  simpa using heads

theorem symbol_ne_nil (op : CompareOp) : op.symbol.toList ≠ [] := by
  cases op <;> decide +kernel

theorem cut_symbol (op : CompareOp) {rest : List (TokenKind × List Char)} (cut : Cut rest)
    (alone : (spell rest).head? ≠ some '=') : Cut ((op.tokenKind, op.symbol.toList) :: rest) := by
  cases op with
  | ne => exact .cons (.double '!' .ne (by decide) _) nofun cut
  | eq => exact .cons (.double '=' .eqEq (by decide) _) nofun cut
  | ge => exact .cons (.double '>' .ge (by decide) _) nofun cut
  | le => exact .cons (.double '<' .le (by decide) _) nofun cut
  | gt => exact .cons (.single '>' .gt (by decide) alone) nofun cut
  | lt => exact .cons (.single '<' .lt (by decide) alone) nofun cut

/-- An operator is no longer than its symbol: neither white space nor an operand begins with the mark that
would make it longer. -/
theorem Gap.alone_before (gap : Gap) (operand : Operand) (more : List Char) :
    (gap.text ++ (operand.text ++ more)).head? ≠ some '=' := by
  have noEquals : ∀ c, Text.isBlank c → c ≠ '=' := by
    rintro c blank rfl
    exact absurd blank (by decide)
  have operandHead := forall_head?_append operand.text_ne_nil operand.head?_ne_equals more
  exact fun equals => gap.forall_head? noEquals operandHead '=' equals rfl

theorem Phrase.cut (phrase : Phrase) {rest : List (TokenKind × List Char)} (cut : Cut rest)
    (breaks : Breaks (spell rest)) : Cut (phrase.pieces ++ rest) := by
  cases phrase with
  | truthy subject => exact subject.cut cut breaks.ends
  | compare subject before op after operand =>
      have operandHead := forall_head?_append operand.text_ne_nil operand.solid_head? (spell rest)
      have operandCut := after.cut (operand.cut cut breaks.ends) operandHead
      have symbolHead := forall_head?_append (symbol_ne_nil op) (solid_symbol op)
        (after.text ++ (operand.text ++ spell rest))
      have symbolCut := cut_symbol op operandCut (by
        rw [spell_append, Gap.spell_pieces, spell_cons]
        exact after.alone_before operand (spell rest))
      have beforeCut := before.cut symbolCut (by
        rw [spell_cons, spell_append, Gap.spell_pieces, spell_cons]
        exact fun c first => (symbolHead c first).2)
      have subjectCut := subject.cut beforeCut (by
        rw [spell_append, Gap.spell_pieces, spell_cons, spell_append, Gap.spell_pieces, spell_cons]
        exact before.forall_head? (fun c => isWordChar_of_isBlank) fun c first => (symbolHead c first).1)
      simpa only [pieces, List.cons_append, List.append_assoc, List.nil_append] using subjectCut

theorem Phrase.solid_head? (phrase : Phrase) (more : List Char) :
    ∀ c ∈ (phrase.text ++ more).head?, Text.isBlank c = false := by
  have subjectHead (subject : Subject) (more : List Char) :
      ∀ c ∈ (subject.text ++ more).head?, Text.isBlank c = false :=
    forall_head?_append subject.text_ne_nil
      (forall_head?_of_forall_mem (solid_of_word subject.isWordChar_of_mem)) more
  cases phrase with
  | truthy subject => exact subjectHead subject more
  | compare subject before op after operand =>
      rw [text, List.append_assoc]
      exact subjectHead subject _

theorem Joint.cut {junction : Junction} (joint : Joint junction) {rest : List (TokenKind × List Char)}
    (cut : Cut rest) (solid : ∀ c ∈ (spell rest).head?, Text.isBlank c = false) :
    Cut (joint.pieces ++ rest) := by
  rcases isWord_of_mem_spellings joint.spelled with ⟨nonempty, chars⟩
  have breaks : Breaks (joint.after.text ++ spell rest) :=
    forall_head?_append joint.after_nonempty (forall_head?_of_forall_mem joint.after.blank) _
  have keywordHead := forall_head?_append nonempty
    (forall_head?_of_forall_mem (solid_of_word chars)) (joint.after.text ++ spell rest)
  have keywordCut : Cut ((.word, joint.keyword) :: (joint.after.pieces ++ rest)) := by
    refine .cons (.word nonempty chars ?_) nofun (joint.after.cut cut solid)
    rw [spell_append, Gap.spell_pieces]
    exact breaks.ends
  have beforeCut := joint.before.cut keywordCut (by
    rw [spell_cons, spell_append, Gap.spell_pieces]
    exact keywordHead)
  simpa only [pieces, List.cons_append, List.append_assoc] using beforeCut

theorem Joint.breaks {junction : Junction} (joint : Joint junction) (more : List Char) :
    Breaks (joint.text ++ more) := by
  rw [text, List.append_assoc]
  exact forall_head?_append joint.before_nonempty (forall_head?_of_forall_mem joint.before.blank) _

/-- Every piece of a test is as long as it can be. -/
theorem Sentence.cut {junction : Junction} (sentence : Sentence junction) : Cut sentence.pieces := by
  induction sentence with
  | single phrase =>
      have cut := phrase.cut .nil nofun
      rwa [List.append_nil] at cut
  | joined phrase joint rest ih =>
      have solid : ∀ c ∈ (spell rest.pieces).head?, Text.isBlank c = false := by
        rw [spell_pieces]
        cases rest with
        | single next =>
            have head := next.solid_head? []
            rwa [List.append_nil] at head
        | joined next more others => exact next.solid_head? _
      refine phrase.cut (joint.cut ih solid) ?_
      rw [spell_append, Joint.spell_pieces]
      exact joint.breaks _

end Written

end SqlMapper
