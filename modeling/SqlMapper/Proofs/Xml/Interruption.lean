import SqlMapper.Proofs.Xml.Position
import SqlMapper.Proofs.Xml.Remark

/-!
# Character data with remarks in it

A source is character data with markup between.  Remarks may be put between any two characters of the
data, though not inside a reference, and then the data is delivered in parts.
-/

namespace SqlMapper.Xml

/-- Character data with remarks put into it.  The parts between them are listed with their references
resolved, so none of these is cut. -/
inductive Divided : List (List Char) → List Char → List Char → Prop where
  | last {raw part : List Char} (plain : '<' ∉ raw)
      (decoded : Entity.decode raw = .ok (String.ofList part)) : Divided [part] raw raw
  | remark {raw part remark rest longer : List Char} {parts : List (List Char)} (plain : '<' ∉ raw)
      (decoded : Entity.decode raw = .ok (String.ofList part)) (isRemark : Remark remark)
      (behind : Divided parts rest longer) :
      Divided (part :: parts) (raw ++ rest) (raw ++ (remark ++ longer))

/-- A source with remarks put into its character data.  The parts of the data in front of each piece of
markup are listed, and those at the end. -/
inductive Interrupted : List (List (List Char)) → List Char → List Char → Prop where
  | last {parts : List (List Char)} {raw longer : List Char} (run : Divided parts raw longer) :
      Interrupted [parts] raw longer
  | markup {parts : List (List Char)} {raw longer markup rest later : List Char} {piece : Piece}
      {runs : List (List (List Char))} (run : Divided parts raw longer)
      (complete : Piece.ofMarkup markup = .ok (piece, [])) (behind : Interrupted runs rest later) :
      Interrupted (parts :: runs) (raw ++ '<' :: (markup ++ rest)) (longer ++ '<' :: (markup ++ later))

variable {raw longer part rest remark markup after : List Char} {parts : List (List Char)} {piece : Piece}

theorem Divided.plain (run : Divided parts raw longer) : '<' ∉ raw := by
  induction run with
  | last plain => exact plain
  | remark plain _ _ _ ih => simp [plain, ih]

theorem Divided.decoded (run : Divided parts raw longer) :
    Entity.decode raw = .ok (String.ofList parts.flatten) := by
  induction run with
  | last _ decoded => simpa using decoded
  | remark _ decoded _ _ ih => exact Entity.decode_append decoded ih

theorem Interrupted.divided {source target : List Char} (interrupted : Interrupted [parts] source target) :
    Divided parts source target := by
  cases interrupted with
  | last run => exact run
  | markup _ _ behind => cases behind

namespace Document

/-! ### What pieces deliver -/

theorem bare_text (some : raw ≠ []) (plain : '<' ∉ raw)
    (decoded : Entity.decode raw = .ok (String.ofList part)) (next : ∀ c ∈ after.head?, c = '<')
    (opened : List String) :
    bare opened (raw ++ after) = (bare opened after).behind [.text (String.ofList part)] := by
  obtain ⟨c, rest, rfl⟩ := List.exists_cons_of_ne_nil some
  rw [List.mem_cons, not_or] at plain
  have others : ∀ d ∈ rest, d != '<' := by
    intro d member
    rw [bne_iff_ne]
    rintro rfl
    exact plain.2 member
  have stops : after.takeWhile (· != '<') = [] ∧ after.dropWhile (· != '<') = after := by
    cases after <;> simp_all
  have cut : Piece.first c (rest ++ after) = .ok (.text (c :: rest), after) := by
    simp [Piece.first, Ne.symm plain.1, List.takeWhile_append_of_pos others,
      List.dropWhile_append_of_pos others, stops]
  rw [List.cons_append, bare_of_first cut]
  simp only [Piece.effect, decoded]
  rfl

theorem bare_markup (complete : Piece.ofMarkup markup = .ok (piece, [])) (opened : List String) :
    bare opened ('<' :: (markup ++ after)) =
      match piece.effect opened with
      | .error fault => ⟨[], .fault 0 0 fault⟩
      | .ok (events, inner) => (bare inner after).behind events := by
  have cut : Piece.first '<' (markup ++ after) = .ok (piece, after) :=
    Piece.ofMarkup_append complete after
  exact bare_of_first cut opened

theorem bare_remark (isRemark : Remark remark) (opened : List String) :
    bare opened (remark ++ after) = bare opened after := by
  obtain ⟨markup, rfl, silent⟩ := isRemark.ofMarkup
  have cut : Piece.first '<' (markup ++ after) = .ok (.silent, after) := silent after
  rw [List.cons_append, bare_of_first cut]
  rfl

end Document

end SqlMapper.Xml
