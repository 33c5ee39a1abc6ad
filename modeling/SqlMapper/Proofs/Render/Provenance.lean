import SqlMapper.Proofs.Render.Reached
import SqlMapper.Text.Integer

/-!
# Where rendered text comes from

Every character of a rendering belongs to a fixed text of the template, to a value that a raw
substitution writes, or to the few characters that marks and keywords are made of.  Values that are
bound to marks contribute nothing.
-/

namespace SqlMapper

/-- A character of names and marks, or a space.  Nothing else in SQL is made of these. -/
def isPlainChar (c : Char) : Bool :=
  c.isAlphanum || c ∈ ['_', '.', ' ', '?', '@', '$', ':']

/-- Characters that begin or end strings, comments, statements and groups: an apostrophe, a quotation
mark and the ones spelled out. -/
def syntaxChars : List Char :=
  ['\x27', '\x22', ';', '-', '/', '*', '(', ')']

/-- The texts that a loop writes around its items and between them. -/
def Loop.literals (header : Loop) : List String :=
  header.opening.toList ++ header.closing.toList ++ header.separator.toList

namespace Node

mutual

/-- The fixed texts of a tree. -/
def literals : Node → List String
  | .text content => [content]
  | .parameter _ _ | .bind _ _ | .reference _ => []
  | .condition _ children | .clause _ children | .mixed children => literalsOfAll children
  | .choice branches none => literalsOfBranches branches
  | .choice branches (some children) => literalsOfBranches branches ++ literalsOfAll children
  | .loop header children => header.literals ++ literalsOfAll children

/-- The fixed texts of trees one after the other. -/
def literalsOfAll : List Node → List String
  | [] => []
  | node :: rest => node.literals ++ literalsOfAll rest

/-- The fixed texts of branches. -/
def literalsOfBranches : List (String × List Node) → List String
  | [] => []
  | (_, children) :: rest => literalsOfAll children ++ literalsOfBranches rest

end

end Node

/-- A text has no characters but plain ones, those of fixed texts and those of spliced values. -/
def ComesFrom (literals : List String) (spliced : List Substitution) (text : String) : Prop :=
  ∀ c ∈ text.toList, isPlainChar c ∨ (∃ literal ∈ literals, c ∈ literal.toList) ∨
    ∃ substitution ∈ spliced, c ∈ substitution.value.toText.toList

namespace ComesFrom

variable {literals more : List String} {spliced others : List Substitution} {text second : String}

theorem mono (comes : ComesFrom literals spliced text) (known : literals ⊆ more)
    (reached : spliced ⊆ others) : ComesFrom more others text := by
  intro c member
  rcases comes c member with plain | ⟨literal, fixed, inside⟩ | ⟨substitution, found, inside⟩
  · exact .inl plain
  · exact .inr (.inl ⟨literal, known fixed, inside⟩)
  · exact .inr (.inr ⟨substitution, reached found, inside⟩)

theorem empty (literals : List String) (spliced : List Substitution) :
    ComesFrom literals spliced "" := by
  intro c member
  simp at member

theorem join (first : ComesFrom literals spliced text) (next : ComesFrom literals spliced second) :
    ComesFrom literals spliced (text ++ second) := by
  intro c member
  rw [String.toList_append, List.mem_append] at member
  rcases member with early | late
  · exact first c early
  · exact next c late

theorem append (first : ComesFrom literals spliced text)
    (next : ComesFrom literals others second) :
    ComesFrom literals (spliced ++ others) (text ++ second) :=
  (first.mono (List.Subset.refl _) (List.subset_append_left _ _)).join
    (next.mono (List.Subset.refl _) (List.subset_append_right _ _))

theorem of_literal (spliced : List Substitution) (member : text ∈ literals) :
    ComesFrom literals spliced text :=
  fun _ inside => .inr (.inl ⟨text, member, inside⟩)

theorem of_option (spliced : List Substitution) {fixed : Option String}
    (member : fixed.toList ⊆ literals) : ComesFrom literals spliced (fixed.getD "") := by
  cases fixed with
  | none => exact empty literals spliced
  | some text => exact of_literal spliced (member (by simp))

theorem of_plain (literals : List String) (spliced : List Substitution)
    (plain : ∀ c ∈ text.toList, isPlainChar c) : ComesFrom literals spliced text :=
  fun c member => .inl (plain c member)

theorem subset (comes : ComesFrom literals spliced text) (shorter : second.toList ⊆ text.toList) :
    ComesFrom literals spliced second :=
  fun c member => comes c (shorter member)

end ComesFrom

theorem isPlainChar_of_mem_toString (number : Nat) :
    ∀ c ∈ (toString number).toList, isPlainChar c := by
  intro c member
  have digit := Text.isDigit_of_mem_toString number c member
  simp [isPlainChar, Char.isAlphanum, digit]

theorem isPlainChar_of_mem_marker (style : MarkerStyle) (index : Nat) :
    ∀ c ∈ (style.marker index).toList, isPlainChar c := by
  have numbered (sigil : String) (plain : sigil.toList.all isPlainChar) (number : Nat) :
      ∀ c ∈ (sigil ++ toString number).toList, isPlainChar c := by
    intro c member
    rw [String.toList_append, List.mem_append] at member
    rcases member with inside | inside
    · exact List.all_eq_true.1 plain c inside
    · exact isPlainChar_of_mem_toString number c inside
  cases style with
  | question =>
      have plain : "?".toList.all isPlainChar := by decide
      exact List.all_eq_true.1 plain
  | atNamed => exact numbered "@p" (by decide) index
  | dollar => exact numbered "$" (by decide) (index + 1)
  | colonNamed => exact numbered ":p" (by decide) index

/-- A clause adds nothing to its body but the keyword. -/
theorem ComesFrom.wrap {literals : List String} {spliced : List Substitution} {body : String}
    (comes : ComesFrom literals spliced body) (kind : Clause) :
    ComesFrom literals spliced (kind.wrap body) := by
  have mended := comes.subset (kind.trimBody_subset body)
  have keyword : ComesFrom literals spliced kind.keyword := by
    have plain : kind.keyword.toList.all isPlainChar := by cases kind <;> decide
    exact of_plain literals spliced (List.all_eq_true.1 plain)
  simp only [Clause.wrap]
  split
  · exact empty literals spliced
  · exact keyword.join mended

namespace RenderContext

variable {literals : List String}

section Loop

variable {header : Loop} {body : RenderState → String × RenderState}
  {reached : RenderState → List Substitution}

theorem comesFrom_forItems (known : header.literals ⊆ literals)
    (comes : ∀ state, ComesFrom literals (reached state) (body state).1) (items : List Value)
    (index : Nat) (state : RenderState) :
    ComesFrom literals (reachedItems header body reached index state items)
      (forItems header body index state items).1 := by
  induction items generalizing index state with
  | nil => exact .empty literals []
  | cons item rest ih =>
      have separator : header.separator.toList ⊆ literals :=
        List.Subset.trans (List.subset_append_right _ _) known
      have between : ComesFrom literals [] (separatorText header index) := by
        simp only [separatorText]
        split
        · exact .empty literals []
        · exact .of_option [] separator
      exact (between.append (comes _)).append (ih _ _)

theorem comesFrom_edges {spliced : List Substitution} {text : String}
    (known : header.literals ⊆ literals) (comes : ComesFrom literals spliced text) :
    ComesFrom literals spliced (header.opening.getD "" ++ text ++ header.closing.getD "") := by
  have edges : header.opening.toList ++ header.closing.toList ⊆ literals :=
    List.Subset.trans (List.subset_append_left _ _) known
  have opening : header.opening.toList ⊆ literals :=
    List.Subset.trans (List.subset_append_left _ _) edges
  have closing : header.closing.toList ⊆ literals :=
    List.Subset.trans (List.subset_append_right _ _) edges
  exact ((ComesFrom.of_option spliced opening).join comes).join (.of_option spliced closing)

end Loop

mutual

theorem comesFrom_render (context : RenderContext) (state : RenderState) : (node : Node) →
    ComesFrom node.literals (context.reached state node) (context.render state node).1
  | .text content => .of_literal [] (List.mem_singleton.2 rfl)
  | .parameter name false =>
      .of_plain [] [] (isPlainChar_of_mem_marker context.style state.parameters.length)
  | .parameter name true =>
      fun _ member => .inr (.inr ⟨_, List.mem_singleton.2 rfl, member⟩)
  | .condition test children => by
      have inner (state : RenderState) := comesFrom_renderAll context state children
      simp only [render, reached]
      rcases context.holds state test with ⟨_ | _, next⟩
      · exact .empty _ _
      · exact inner next
  | .choice branches none => by
      have taken := comesFrom_renderBranches context state branches
      simp only [render, reached]
      rcases sameOutcome : context.renderBranches state branches with ⟨_ | text, next⟩
      · exact .empty _ _
      · rw [sameOutcome] at taken
        exact taken
  | .choice branches (some children) => by
      have taken := comesFrom_renderBranches context state branches
      have fallback (state : RenderState) := comesFrom_renderAll context state children
      have fixed := List.subset_append_left (Node.literalsOfBranches branches)
        (Node.literalsOfAll children)
      simp only [render, reached]
      rcases sameOutcome : context.renderBranches state branches with ⟨_ | text, next⟩
      · exact (fallback next).mono (List.subset_append_right _ _) (List.subset_append_right _ _)
      · rw [sameOutcome] at taken
        exact taken.mono fixed (List.subset_append_left _ _)
  | .clause kind children =>
      (comesFrom_renderAll context state children).wrap kind
  | .loop header children => by
      have inner (state : RenderState) := comesFrom_renderAll context state children
      simp only [render, reached]
      generalize context.resolve state (.ofPlaceholder header.collection) = resolved
      rcases resolved with ⟨value, next⟩
      rcases value.items? with _ | items
      · exact .empty _ _
      · have known := List.subset_append_left header.literals (Node.literalsOfAll children)
        apply comesFrom_edges known
        apply comesFrom_forItems known
        intro entered
        exact (inner entered).mono (List.subset_append_right _ _) (List.Subset.refl _)
  | .bind name value => .empty _ _
  | .reference fragment => .empty _ _
  | .mixed children => comesFrom_renderAll context state children
termination_by structural node => node

theorem comesFrom_renderAll (context : RenderContext) (state : RenderState) : (nodes : List Node) →
    ComesFrom (Node.literalsOfAll nodes) (context.reachedAll state nodes)
      (context.renderAll state nodes).1
  | [] => .empty _ _
  | node :: rest => by
      have first := comesFrom_render context state node
      have others := comesFrom_renderAll context (context.render state node).2 rest
      exact (first.mono (List.subset_append_left _ _) (List.Subset.refl _)).append
        (others.mono (List.subset_append_right _ _) (List.Subset.refl _))
termination_by structural nodes => nodes

theorem comesFrom_renderBranches (context : RenderContext) (state : RenderState) :
    (branches : List (String × List Node)) →
    ComesFrom (Node.literalsOfBranches branches) (context.reachedBranches state branches)
      ((context.renderBranches state branches).1.getD "")
  | [] => .empty _ _
  | (test, children) :: rest => by
      have inner (state : RenderState) := comesFrom_renderAll context state children
      have others (state : RenderState) := comesFrom_renderBranches context state rest
      simp only [renderBranches, reachedBranches]
      rcases context.holds state test with ⟨_ | _, next⟩
      · exact (others next).mono (List.subset_append_right _ _) (List.Subset.refl _)
      · exact (inner next).mono (List.subset_append_left _ _) (List.Subset.refl _)
termination_by structural branches => branches

end

end RenderContext

end SqlMapper
