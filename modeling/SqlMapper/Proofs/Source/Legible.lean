import SqlMapper.Generated.FromTemplate
import SqlMapper.Proofs.Source.Canonical

/-!
# Generated functions are legible

A test of a template has a condition and a joined bind value has parts, so whatever is generated for a
template is written in a way that can be read.
-/

namespace SqlMapper

theorem Test.atoms_parse_ne_nil (source : String) : (Test.parse source).atoms ≠ [] := by
  have some_piece (pieces : List (List Token)) (several : 1 < pieces.length) : pieces ≠ [] := by
    rintro rfl
    cases several
  unfold Test.parse
  simp only [ne_eq, List.map_eq_nil_iff]
  split_ifs with hasAnd hasOr
  · exact some_piece _ hasAnd
  · exact some_piece _ hasOr
  · exact not_false

theorem Bind.pieces_ne_nil (tokens : List Token) : Bind.pieces tokens ≠ [] := by
  induction tokens with
  | nil => exact List.cons_ne_nil _ _
  | cons token rest ih =>
      unfold Bind.pieces
      split
      · exact List.cons_ne_nil _ _
      · split <;> exact List.cons_ne_nil _ _

theorem Bind.parts_ne_nil {source : String} {parts : List BindPart}
    (joined : Bind.parse source = .concat parts) : parts ≠ [] := by
  rintro rfl
  rcases List.exists_cons_of_ne_nil (pieces_ne_nil (Token.lex source)) with ⟨piece, others, cut⟩
  unfold Bind.parse at joined
  rw [cut, List.mapM_cons] at joined
  split at joined
  · cases joined
  · cases joined
  · rename_i read
    cases joined
    rcases Option.bind_eq_some_iff.1 read with ⟨first, -, later⟩
    rcases Option.bind_eq_some_iff.1 later with ⟨rest, -, same⟩
    cases same

namespace Generated

open Code (IsLegible AreLegible BranchesLegible)

variable {locals : Scope Variable}

theorem isLegible_ofTest (source : String) : (ofTest locals (.parse source)).IsLegible := by
  simp only [TestCode.IsLegible, ofTest, ne_eq, List.map_eq_nil_iff]
  exact Test.atoms_parse_ne_nil source

theorem isLegible_ofBind (source : String) : (ofBind locals (.parse source)).IsLegible := by
  cases parsed : Bind.parse source with
  | single part => trivial
  | invalid text => trivial
  | concat parts =>
      have some_part := Bind.parts_ne_nil parsed
      simpa [ofBind, BindCode.IsLegible] using some_part

theorem areLegible_append {first second : List Code} :
    AreLegible (first ++ second) ↔ AreLegible first ∧ AreLegible second := by
  induction first with
  | nil => exact (and_iff_right trivial).symm
  | cons code rest ih =>
      rw [List.cons_append, AreLegible, AreLegible, ih, and_assoc]

section Generate

variable (trusts : String → Bool) (header : Loop) (counter : Variable)

theorem areLegible_separatorCode (buffer : Buffer) : AreLegible (separatorCode buffer header counter) := by
  unfold separatorCode
  split
  · trivial
  · split
    · trivial
    · exact ⟨⟨trivial, trivial⟩, trivial⟩

theorem areLegible_edgeCode (buffer : Buffer) (text : Option String) : AreLegible (edgeCode buffer text) := by
  cases text with
  | none => trivial
  | some text => exact ⟨trivial, trivial⟩

theorem areLegible_declareIndex (state : Generation) :
    AreLegible (state.declareIndex header counter).1 := by
  unfold Generation.declareIndex
  split
  · trivial
  · exact ⟨trivial, trivial⟩

mutual

theorem areLegible_generate (buffer : Buffer) (state : Generation) : (node : Node) →
    AreLegible (generate trusts buffer state node).1
  | .text content => by
      rw [generate]
      split
      · trivial
      · exact ⟨trivial, trivial⟩
  | .parameter name false => ⟨trivial, trivial⟩
  | .parameter name true => by
      rw [generate, spliceCode]
      dsimp only
      split <;> exact ⟨trivial, trivial⟩
  | .condition test children =>
      ⟨⟨isLegible_ofTest test, areLegible_generateAll buffer state children, trivial⟩, trivial⟩
  | .choice branches none => ⟨branchesLegible_generate buffer state branches, trivial⟩
  | .choice branches (some children) =>
      ⟨⟨branchesLegible_generate buffer state branches, areLegible_generateAll buffer _ children⟩,
        trivial⟩
  | .clause kind children => by
      have inner := areLegible_generateAll (.side (state.fresh (.clause kind)).1)
        (state.fresh (.clause kind)).2 children
      refine ⟨⟨trivial, ?_⟩, trivial⟩
      exact areLegible_append.2 ⟨inner, trivial, ⟨trivial, trivial, trivial⟩, trivial⟩
  | .loop header children => by
      have inner (entered : Generation) := areLegible_generateAll buffer entered children
      refine ⟨trivial, areLegible_append.2 ⟨areLegible_append.2 ⟨?_, ?_⟩, ?_⟩, trivial⟩
      · exact areLegible_edgeCode buffer header.opening
      · refine ⟨areLegible_append.2 ⟨areLegible_append.2 ⟨?_, ?_⟩, inner _⟩, trivial⟩
        · exact areLegible_separatorCode header _ buffer
        · exact areLegible_declareIndex header _ _
      · exact areLegible_edgeCode buffer header.closing
  | .bind name value => ⟨isLegible_ofBind value, trivial⟩
  | .reference fragment => ⟨trivial, trivial⟩
  | .mixed children => areLegible_generateAll buffer state children

theorem areLegible_generateAll (buffer : Buffer) (state : Generation) : (nodes : List Node) →
    AreLegible (generateAll trusts buffer state nodes).1
  | [] => trivial
  | node :: rest =>
      areLegible_append.2 ⟨areLegible_generate buffer state node, areLegible_generateAll buffer _ rest⟩

theorem branchesLegible_generate (buffer : Buffer) (state : Generation) :
    (branches : List (String × List Node)) →
    BranchesLegible (generateBranches trusts buffer state branches).1
  | [] => trivial
  | (test, children) :: rest =>
      ⟨isLegible_ofTest test, areLegible_generateAll buffer state children,
        branchesLegible_generate buffer _ rest⟩

end

end Generate

theorem areLegible_ofStatement (config : Config) (mapper : Mapper) (name : String)
    (statement : Statement) : AreLegible (ofStatement config mapper name statement).body :=
  areLegible_generate (config.trusts statement.id) .output {} statement.root

end Generated

end SqlMapper
