import Mathlib.Data.List.Nodup
import SqlMapper.Proofs.Expression.Token

/-!
# Tokens one behind the other

The tokens of a text stand one right behind the other, from the offset of the text up to its end.  Putting
a token in front of others keeps this, whether or not it is merged with the first of them.
-/

namespace SqlMapper.Token

/-- Tokens that are not empty and stand one right behind the other, from an offset up to another one. -/
inductive Tiles : Nat → List Token → Nat → Prop where
  | nil (place : Nat) : Tiles place [] place
  | cons {token : Token} {rest : List Token} {start last : Nat} (begins : token.start = start)
      (nonempty : token.start < token.stop) (others : Tiles token.stop rest last) :
      Tiles start (token :: rest) last

section Tiles

variable {token : Token} {tokens rest : List Token} {start last : Nat}

theorem Tiles.behind (tiles : Tiles start tokens last) : ∀ token ∈ tokens, start ≤ token.start := by
  induction tiles with
  | nil => exact List.forall_mem_nil _
  | cons begins nonempty others ih =>
      refine List.forall_mem_cons.2 ⟨Nat.le_of_eq begins.symm, fun later member => ?_⟩
      have := ih later member
      omega

/-- Every token ends before the later ones begin. -/
theorem Tiles.increasing (tiles : Tiles start tokens last) :
    tokens.Pairwise fun token later => token.stop ≤ later.start := by
  induction tiles with
  | nil => exact .nil
  | cons begins nonempty others ih => exact .cons others.behind ih

theorem Tiles.nonempty (tiles : Tiles start tokens last) :
    ∀ token ∈ tokens, token.start < token.stop := by
  induction tiles with
  | nil => exact List.forall_mem_nil _
  | cons begins nonempty others ih => exact List.forall_mem_cons.2 ⟨nonempty, ih⟩

theorem Tiles.nodup (tiles : Tiles start tokens last) : tokens.Nodup := by
  refine tiles.increasing.imp_of_mem fun {first second} member _ before same => ?_
  have := tiles.nonempty first member
  rw [← same] at before
  omega

theorem Tiles.addFront (nonempty : token.start < token.stop) (tiles : Tiles token.stop rest last) :
    Tiles token.start (addFront token rest) last := by
  rcases addFront_cases token rest with ⟨kept, -⟩ | ⟨next, more, rfl, -, -, merged⟩
  · rw [kept]
    exact .cons rfl nonempty tiles
  · rw [merged]
    cases tiles with
    | cons begins nextNonempty others =>
        have same : Token.stop { token with text := token.text ++ next.text } = next.stop := by
          simp only [stop, Text.utf8Length_append] at begins ⊢
          omega
        refine .cons rfl ?_ (same ▸ others)
        rw [same]
        exact Nat.lt_trans nonempty (begins ▸ nextNonempty)

end Tiles

theorem flatMap_text_addFront (token : Token) (rest : List Token) :
    (addFront token rest).flatMap (·.text) = token.text ++ rest.flatMap (·.text) := by
  rcases addFront_cases token rest with ⟨kept, -⟩ | ⟨next, more, rfl, -, -, merged⟩
  · rw [kept, List.flatMap_cons]
  · simp [merged]

/-- Tokens spell the text that they are cut from. -/
theorem flatMap_text_lexFrom (start : Nat) (text : List Char) :
    (lexFrom start text).flatMap (·.text) = text := by
  induction start, text using lexFrom.induct with
  | case1 start => simp [lexFrom]
  | case2 start c rest token ih =>
      rw [lexFrom, flatMap_text_addFront, ih]
      exact firstPiece_append c rest

theorem tiles_lexFrom (start : Nat) (text : List Char) :
    Tiles start (lexFrom start text) (start + Text.utf8Length text) := by
  induction start, text using lexFrom.induct with
  | case1 start =>
      rw [lexFrom]
      exact .nil start
  | case2 start c rest token ih =>
      have long := Text.utf8Length_pos (firstPiece_nonempty c rest)
      have nonempty : token.start < token.stop := Nat.lt_add_of_pos_right long
      have ends : token.stop + Text.utf8Length (firstPiece c rest).2.2 =
          start + Text.utf8Length (c :: rest) := by
        rw [← firstPiece_append c rest, Text.utf8Length_append, ← Nat.add_assoc]
        rfl
      rw [ends] at ih
      rw [lexFrom]
      exact ih.addFront nonempty

theorem flatMap_text_lex (source : String) : (lex source).flatMap (·.text) = source.toList := by
  rw [lex_eq_lexFrom, flatMap_text_lexFrom]

theorem tiles_lex (source : String) : Tiles 0 (lex source) (Text.utf8Length source.toList) := by
  have tiles := tiles_lexFrom 0 source.toList
  rwa [Nat.zero_add, ← lex_eq_lexFrom] at tiles

theorem nodup_lex (source : String) : (lex source).Nodup :=
  (tiles_lex source).nodup

end SqlMapper.Token
