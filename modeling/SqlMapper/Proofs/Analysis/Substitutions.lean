import SqlMapper.Analysis.Substitutions
import SqlMapper.Proofs.Include.Expansion

/-!
# Includes hide no raw substitution

The analysis looks at resolved statements.  It finds what is substituted in a statement itself and in
every fragment that the statement reaches, through circles as well.
-/

namespace SqlMapper

theorem nodup_eraseDups {α : Type} [BEq α] [LawfulBEq α] (list : List α) : list.eraseDups.Nodup := by
  induction sameLength : list.length using Nat.strongRecOn generalizing list with
  | ind length ih =>
      cases list with
      | nil => exact List.nodup_nil
      | cons first rest =>
          have shorter := List.length_filter_le (fun other => !other == first) rest
          rw [List.length_cons] at sameLength
          rw [List.eraseDups_cons, List.nodup_cons]
          refine ⟨?_, ih _ (by omega) _ rfl⟩
          simp [List.mem_eraseDups]

/-- Whether a path is substituted by some raw placeholder in a tree. -/
def Node.Substitutes (root : Node) (parameter : String) : Prop :=
  ∃ name, (Node.parameter name true).OccursIn root ∧ (Path.ofPlaceholder name).toText = parameter

theorem Node.substitutes_iff {root : Node} {parameter : String} :
    root.Substitutes parameter ↔
      ∃ name, .parameter name true ∈ root.events ∧ (Path.ofPlaceholder name).toText = parameter :=
  exists_congr fun _ => and_congr_left' (Node.mem_events_iff rfl).symm

theorem Node.mem_rawPaths {root : Node} {parameter : String} :
    parameter ∈ root.rawPaths ↔ root.Substitutes parameter := by
  rw [substitutes_iff, rawPaths, List.mem_filterMap]
  constructor
  · rintro ⟨event, member, found⟩
    split at found
    · exact ⟨_, member, Option.some.inj found⟩
    · cases found
  · rintro ⟨name, member, same⟩
    exact ⟨_, member, congrArg some same⟩

namespace Mapper

variable {mapper : Mapper}

/-- Whether a path is substituted raw in a tree or in a declared fragment that the tree reaches. -/
def Substitutes (mapper : Mapper) (root : Node) (parameter : String) : Prop :=
  root.Substitutes parameter ∨
    ∃ fragment, mapper.Reaches root fragment ∧ fragment.root.Substitutes parameter

theorem mem_rawPaths_resolveNode {root : Node} {parameter : String} :
    parameter ∈ (mapper.resolveNode [] root).rawPaths ↔ mapper.Substitutes root parameter := by
  simp only [Substitutes, Node.mem_rawPaths, Node.substitutes_iff, mem_events_resolveNode]
  constructor
  · rintro ⟨name, ⟨_, member | ⟨fragment, reaches, member⟩⟩, same⟩
    · exact .inl ⟨name, member, same⟩
    · exact .inr ⟨fragment, reaches, name, member, same⟩
  · rintro (⟨name, member, same⟩ | ⟨fragment, reaches, name, member, same⟩)
    · exact ⟨name, ⟨rfl, .inl member⟩, same⟩
    · exact ⟨name, ⟨rfl, .inr ⟨fragment, reaches, member⟩⟩, same⟩

theorem mem_unsafeSubstitutions {config : Config} {nameSpace id parameter : String} :
    { nameSpace, statement := id, parameter } ∈ mapper.unsafeSubstitutions config ↔
      nameSpace = mapper.nameSpace ∧
      (∃ statement ∈ mapper.statements, statement.id = id ∧ parameter ∈ statement.root.rawPaths) ∧
      config.declaredType? id parameter ≠ some safeIdentifierType ∧
      config.isSafeConstant parameter = false := by
  simp only [unsafeSubstitutions, List.mem_eraseDups, List.mem_flatMap, List.mem_map,
    List.mem_filter, Config.trusts, Bool.and_eq_true, Bool.not_eq_true', beq_eq_false_iff_ne]
  constructor
  · rintro ⟨statement, declared, path, ⟨member, distrusted, variable_path⟩, same⟩
    cases same
    exact ⟨rfl, ⟨statement, declared, rfl, member⟩, distrusted, variable_path⟩
  · rintro ⟨rfl, ⟨statement, declared, rfl, member⟩, distrusted, variable_path⟩
    exact ⟨statement, declared, parameter, ⟨member, distrusted, variable_path⟩, rfl⟩

/-- After resolution each raw substitution of a statement, be it in the statement or in a fragment
that it reaches, is found once unless it is declared a checked identifier or a constant, and nothing
else is found.  Of several declarations with one id the first is meant. -/
theorem unsafeSubstitutions_resolved (mapper : Mapper) (config : Config) :
    (mapper.resolved.unsafeSubstitutions config).Nodup ∧
      ∀ nameSpace id parameter,
        { nameSpace, statement := id, parameter } ∈ mapper.resolved.unsafeSubstitutions config ↔
          nameSpace = mapper.nameSpace ∧
          (∃ statement ∈ mapper.statements, statement.id = id ∧
            mapper.Substitutes statement.root parameter) ∧
          config.declaredType? id parameter ≠ some safeIdentifierType ∧
          config.isSafeConstant parameter = false := by
  refine ⟨nodup_eraseDups _, ?_⟩
  intro nameSpace id parameter
  rw [mem_unsafeSubstitutions]
  have statements : (∃ statement ∈ mapper.resolved.statements,
      statement.id = id ∧ parameter ∈ statement.root.rawPaths) ↔
      ∃ statement ∈ mapper.statements,
        statement.id = id ∧ mapper.Substitutes statement.root parameter := by
    constructor
    · rintro ⟨_, member, same, substituted⟩
      rcases List.mem_map.1 member with ⟨statement, declared, rfl⟩
      exact ⟨statement, declared, same, mem_rawPaths_resolveNode.1 substituted⟩
    · rintro ⟨statement, declared, same, substituted⟩
      exact ⟨_, List.mem_map_of_mem declared, same, mem_rawPaths_resolveNode.2 substituted⟩
  rw [statements]
  rfl

end Mapper

end SqlMapper
