import Mathlib
import SqlMapper.Proofs.Mapper.Content

/-!
# A mapper is read as a tree

What the reader makes of the events of a mapper is what its tree declares, with the same findings in
the same order.  Declarations follow each other: what one of them leaves behind is the mapper read so
far and nothing else.
-/

namespace SqlMapper

namespace Mapper

/-- A mapper with the declarations of more trees. -/
def declare (mapper : Mapper) (trees : List Xml.Tree) : Mapper :=
  { mapper with
    statements := mapper.statements ++ trees.filterMap (Xml.Tree.statement? mapper.nameSpace)
    fragments := mapper.fragments ++ trees.filterMap (Xml.Tree.fragment? mapper.nameSpace) }

variable {mapper : Mapper}

theorem declare_nil (mapper : Mapper) : mapper.declare [] = mapper := by
  simp [declare]

theorem declare_declare (mapper : Mapper) (trees more : List Xml.Tree) :
    (mapper.declare trees).declare more = mapper.declare (trees ++ more) := by
  simp [declare]

/-- A tree that declares nothing makes no difference. -/
theorem declare_firsts_none {taken : List (DiagnosticKind × String)} {tree : Xml.Tree}
    (noStatement : tree.statement? mapper.nameSpace = none)
    (noFragment : tree.fragment? mapper.nameSpace = none) :
    mapper.declare (Xml.Tree.firsts taken [tree]) = mapper := by
  rw [Xml.Tree.firsts_singleton]
  split <;> simp [declare, noStatement, noFragment]

/-- Whether a list has an entry for each id that is taken in a mapper. -/
structure Records (mapper : Mapper) (taken : List (DiagnosticKind × String)) : Prop where
  statement : ∀ id, (.duplicateStatement, id) ∈ taken ↔ (mapper.statement? id).isSome
  fragment : ∀ id, (.duplicateFragment, id) ∈ taken ↔ (mapper.fragment? id).isSome

variable {taken : List (DiagnosticKind × String)} {tree : Xml.Tree}

theorem known_of_not_isFirst (other : ¬ tree.isFirst taken) :
    ∃ key, tree.declares? = some key ∧ key ∈ taken := by
  unfold Xml.Tree.isFirst at other
  cases declares : tree.declares? with
  | none => simp [declares] at other
  | some key => exact ⟨key, rfl, by simpa [declares] using other⟩

theorem declares?_eq_statement (nameSpace id : String) :
    tree.declares? = some (.duplicateStatement, id)
      ↔ (tree.statement? nameSpace).map (·.id) = some id := by
  cases tree with
  | text content => simp [Xml.Tree.declares?, Xml.Tree.statement?]
  | element tag children stop =>
    rw [Xml.Tree.declares?, Xml.Tree.statement?]
    cases Xml.Section.ofName tag.name <;> cases tag.attribute? "id" <;> simp

theorem declares?_eq_fragment (nameSpace id : String) :
    tree.declares? = some (.duplicateFragment, id)
      ↔ (tree.fragment? nameSpace).map (·.id) = some id := by
  cases tree with
  | text content => simp [Xml.Tree.declares?, Xml.Tree.fragment?]
  | element tag children stop =>
    rw [Xml.Tree.declares?, Xml.Tree.fragment?]
    cases Xml.Section.ofName tag.name <;> cases tag.attribute? "id" <;> simp

theorem statement?_declare (id : String) :
    ((mapper.declare [tree]).statement? id).isSome
      ↔ tree.declares? = some (.duplicateStatement, id) ∨ (mapper.statement? id).isSome := by
  rw [declares?_eq_statement mapper.nameSpace, or_comm]
  cases declared : tree.statement? mapper.nameSpace <;>
    simp [Mapper.statement?, declare, declared]

theorem fragment?_declare (id : String) :
    ((mapper.declare [tree]).fragment? id).isSome
      ↔ tree.declares? = some (.duplicateFragment, id) ∨ (mapper.fragment? id).isSome := by
  rw [declares?_eq_fragment mapper.nameSpace, or_comm]
  cases declared : tree.fragment? mapper.nameSpace <;>
    simp [Mapper.fragment?, declare, declared]

/-- An entry for each id that is taken remains if the next tree counts only where it is the first. -/
theorem Records.next (records : mapper.Records taken) (tree : Xml.Tree) :
    (mapper.declare (Xml.Tree.firsts taken [tree])).Records (tree.declares?.toList ++ taken) := by
  rw [Xml.Tree.firsts_singleton]
  by_cases first : tree.isFirst taken
  · rw [if_pos first]
    constructor
    · intro id
      rw [statement?_declare, ← records.statement, List.mem_append, Option.mem_toList]
    · intro id
      rw [fragment?_declare, ← records.fragment, List.mem_append, Option.mem_toList]
  · rw [if_neg first, declare_nil]
    obtain ⟨key, declares, known⟩ := known_of_not_isFirst first
    have same (other : DiagnosticKind × String) :
        other ∈ tree.declares?.toList ++ taken ↔ other ∈ taken := by
      simp only [declares, Option.toList_some, List.singleton_append, List.mem_cons,
        or_iff_right_iff_imp]
      rintro rfl
      exact known
    constructor
    · intro id
      rw [same, records.statement]
    · intro id
      rw [same, records.fragment]

end Mapper

namespace Reader

open Xml (Tag Tree Located Section)

variable {mapper : Mapper} {stack outer : List Frame} {found : List Diagnostic} {tag : Tag}
  {children : List Tree} {stop : Nat} {taken : List (DiagnosticKind × String)}

/-! ### One declaration -/

/-- The role of an element directly below the root. -/
def sectionRole (tag : Tag) : Role :=
  match Section.ofName tag.name with
  | .fragment => .fragment
  | .statement kind => .statement kind
  | .foreign | .unknown => .skipped none 0

/-- What is found wrong with the tag of an element directly below the root. -/
def openingFindings (nameSpace : String) (tag : Tag) : List Diagnostic :=
  match Section.ofName tag.name with
  | .fragment | .statement _ => tag.requiring (tag.owner nameSpace) "id"
  | .foreign => []
  | .unknown => [tag.unknown none]

theorem openDeclaration_running (unowned : ownerIn mapper stack = none) (isEmpty : Bool) :
    (running mapper stack found).openDeclaration (tag.element isEmpty)
      = running mapper (⟨tag.element isEmpty, sectionRole tag, []⟩ :: stack)
          (found ++ openingFindings mapper.nameSpace tag) := by
  unfold openDeclaration sectionRole openingFindings
  rw [Tag.name_element]
  by_cases named : tag.name = "sql"
  · have kind : Section.ofName tag.name = .fragment := by rw [Section.ofName, if_pos named]
    rw [kind, if_pos (beq_iff_eq.mpr named), push_running, require_running]
    rfl
  · rw [if_neg (mt beq_iff_eq.mp named)]
    cases tagged : StatementKind.ofTag? tag.name with
    | some kind =>
      have declares : Section.ofName tag.name = .statement kind := by
        rw [Section.ofName, if_neg named, tagged]
      rw [declares]
      exact require_running isEmpty "id"
    | none =>
      by_cases known : tag.name ∈ Role.foreignDeclarations
      · have foreign : Section.ofName tag.name = .foreign := by
          rw [Section.ofName, if_neg named, tagged]
          exact if_pos known
        simp only [foreign, if_pos known, push_running, List.append_nil]
      · have unknown : Section.ofName tag.name = .unknown := by
          rw [Section.ofName, if_neg named, tagged]
          exact if_neg known
        simp only [unknown, if_neg known, report_running, push_running, unowned]
        rfl

theorem readTimeout_running (isEmpty : Bool) :
    (running mapper stack found).readTimeout (tag.element isEmpty)
      = (tag.timeout?, running mapper stack (found ++ tag.timeoutFinding (ownerIn mapper stack))) := by
  unfold readTimeout Tag.timeoutFinding Tag.timeout?
  rw [Tag.attribute?_element]
  cases tag.attribute? "timeout" with
  | none => simp
  | some text =>
    simp only [Option.bind_eq_bind, Option.bind_some]
    cases Text.readNat? UInt32.size (Text.trim text.toList) with
    | none => rfl
    | some seconds => simp

theorem closeElement_statement (isEmpty : Bool) (kind : StatementKind) (nodes : List Node) :
    (running mapper (⟨tag.element isEmpty, .statement kind, nodes⟩ :: outer) found).closeElement stop
      = let seen := found ++ tag.timeoutFinding (tag.owner mapper.nameSpace)
        match tag.attribute? "id" with
        | none => running mapper outer seen
        | some id =>
          if (mapper.statement? id).isSome then
            running mapper outer (seen ++ [{ kind := .duplicateStatement, span := ⟨tag.start, stop⟩
                                             detail := some id, owner := some (mapper.qualify id) }])
          else
            let statement : Statement := {
              id, kind
              root := Node.sequence nodes
              result := tag.attribute? "resultMap" <|> tag.attribute? "resultType"
              parameterType := tag.attribute? "parameterType"
              timeout := tag.timeout?
              span := ⟨tag.start, stop⟩ }
            running { mapper with statements := mapper.statements ++ [statement] } outer seen := by
  change closeStatement _ outer _ kind _ stop = _
  unfold closeStatement
  rw [readTimeout_running]
  rfl

theorem closeElement_fragment (isEmpty : Bool) (nodes : List Node) :
    (running mapper (⟨tag.element isEmpty, .fragment, nodes⟩ :: outer) found).closeElement stop
      = match tag.attribute? "id" with
        | none => running mapper outer found
        | some id =>
          if (mapper.fragment? id).isSome then
            running mapper outer (found ++ [{ kind := .duplicateFragment, span := ⟨tag.start, stop⟩
                                              detail := some id, owner := some (mapper.qualify id) }])
          else
            let fragment : Fragment := { id, root := Node.sequence nodes, span := ⟨tag.start, stop⟩ }
            running { mapper with fragments := mapper.fragments ++ [fragment] } outer found := rfl

section

variable (records : mapper.Records taken) (isEmpty : Bool)

include records

theorem declares_statement {kind : StatementKind}
    (declared : Section.ofName tag.name = .statement kind) :
    (running mapper
        (⟨tag.element isEmpty, .statement kind,
          Node.joined (Tree.nodesOfAll mapper.nameSpace children)⟩ :: outer) found).closeElement stop
      = running (mapper.declare (Tree.firsts taken [.element tag children stop])) outer
          (found ++ (tag.timeoutFinding (tag.owner mapper.nameSpace)
            ++ tag.repetition mapper.nameSpace stop taken .duplicateStatement)) := by
  have noFragment : (Tree.element tag children stop).fragment? mapper.nameSpace = none := by
    rw [Tree.fragment?, declared]
  rw [closeElement_statement, Tag.repetition, Tree.firsts_singleton, Tree.isFirst, Tree.declares?,
    declared]
  cases named : tag.attribute? "id" with
  | none =>
    have noStatement : (Tree.element tag children stop).statement? mapper.nameSpace = none := by
      rw [Tree.statement?, declared, named]
      rfl
    simp [Mapper.declare, noStatement, noFragment]
  | some id =>
    by_cases known : (.duplicateStatement, id) ∈ taken
    · have present := (records.statement id).mp known
      simp [known, present, Mapper.declare_nil, Mapper.qualify]
    · have absent := mt (records.statement id).mpr known
      simp [known, absent, Mapper.declare, Tree.statement?, declared, named, noFragment]

theorem declares_fragment (declared : Section.ofName tag.name = .fragment) :
    (running mapper
        (⟨tag.element isEmpty, .fragment,
          Node.joined (Tree.nodesOfAll mapper.nameSpace children)⟩ :: outer) found).closeElement stop
      = running (mapper.declare (Tree.firsts taken [.element tag children stop])) outer
          (found ++ tag.repetition mapper.nameSpace stop taken .duplicateFragment) := by
  have noStatement : (Tree.element tag children stop).statement? mapper.nameSpace = none := by
    rw [Tree.statement?, declared]
  rw [closeElement_fragment, Tag.repetition, Tree.firsts_singleton, Tree.isFirst, Tree.declares?,
    declared]
  cases named : tag.attribute? "id" with
  | none =>
    have noFragment : (Tree.element tag children stop).fragment? mapper.nameSpace = none := by
      rw [Tree.fragment?, declared, named]
      rfl
    simp [Mapper.declare, noStatement, noFragment]
  | some id =>
    by_cases known : (.duplicateFragment, id) ∈ taken
    · have present := (records.fragment id).mp known
      simp [known, present, Mapper.declare_nil, Mapper.qualify]
    · have absent := mt (records.fragment id).mpr known
      simp [known, absent, Mapper.declare, Tree.fragment?, declared, named, noStatement]

end

/-! ### The root -/

/-- The open elements directly below a root. -/
def below (root : Xml.Element) : List Frame :=
  [⟨root, .mapper, []⟩, ⟨none, .outside, []⟩]

theorem openElement_below (root : Xml.Element) (isEmpty : Bool) :
    (running mapper (below root) found).openElement (tag.element isEmpty)
      = running mapper (⟨tag.element isEmpty, sectionRole tag, []⟩ :: below root)
          (found ++ openingFindings mapper.nameSpace tag) :=
  openDeclaration_running rfl isEmpty

theorem reads_skippedSection {findings : List Diagnostic} (root : Xml.Element)
    (skipped : sectionRole tag = .skipped none 0)
    (openings : openingFindings mapper.nameSpace tag = findings) :
    Reads (.element tag children stop) (running mapper (below root) found)
      (running mapper (below root) (found ++ findings)) := by
  subst openings
  apply reads_element (openElement_below root)
  · intro isEmpty
    rw [skipped]
    apply readsAll_skipped
  · intro isEmpty
    rfl

theorem ownerIn_section (declares : (sectionRole tag).collects) (isEmpty : Bool)
    (nodes : List Node) :
    ownerIn mapper (⟨tag.element isEmpty, sectionRole tag, nodes⟩ :: stack)
      = tag.owner mapper.nameSpace := by
  unfold sectionRole at declares ⊢
  cases section? : Section.ofName tag.name <;> simp_all [Role.collects] <;> rfl

/-- The content of a declaration belongs to it and to nothing before it. -/
theorem reads_declaration {after : Reader} (root : Xml.Element)
    (declares : (sectionRole tag).collects)
    (closes : ∀ isEmpty,
      (running mapper
        (⟨tag.element isEmpty, sectionRole tag,
          Node.joined (Tree.nodesOfAll mapper.nameSpace children)⟩ :: below root)
        (found ++ (openingFindings mapper.nameSpace tag
          ++ Tree.findingsOfAll (tag.owner mapper.nameSpace) children))).closeElement stop
      = after) :
    Reads (.element tag children stop) (running mapper (below root) found) after := by
  apply reads_element (openElement_below root)
  · intro isEmpty
    have filled := collectedAll mapper children ⟨tag.element isEmpty, sectionRole tag, []⟩
      (below root) (found ++ openingFindings mapper.nameSpace tag) declares
    rw [ownerIn_section declares, List.append_assoc] at filled
    exact filled
  · exact closes

/-- A child of the root is declared if it is the first of its id. -/
theorem reads_section (records : mapper.Records taken) (root : Xml.Element) (child : Tree) :
    Reads child (running mapper (below root) found)
      (running (mapper.declare (Tree.firsts taken [child])) (below root)
        (found ++ child.sectionFindings mapper.nameSpace taken)) := by
  cases child with
  | text content =>
    apply reads_text
    intro stop
    rw [Mapper.declare_firsts_none rfl rfl, Tree.sectionFindings, List.append_nil]
    rfl
  | element tag children stop =>
    have openings := openingFindings.eq_def mapper.nameSpace tag
    have role := sectionRole.eq_def tag
    rw [Tree.sectionFindings]
    cases declared : Section.ofName tag.name with
    | fragment =>
      rw [declared] at openings role
      apply reads_declaration root (by rw [role]; rfl)
      intro isEmpty
      rw [role, openings, declares_fragment records isEmpty declared, List.append_assoc]
    | statement kind =>
      rw [declared] at openings role
      apply reads_declaration root (by rw [role]; rfl)
      intro isEmpty
      rw [role, openings, declares_statement records isEmpty declared, List.append_assoc]
    | foreign =>
      rw [declared] at openings role
      rw [Mapper.declare_firsts_none]
      · exact reads_skippedSection root role openings
      · rw [Tree.statement?, declared]
      · rw [Tree.fragment?, declared]
    | unknown =>
      rw [declared] at openings role
      rw [Mapper.declare_firsts_none]
      · exact reads_skippedSection root role openings
      · rw [Tree.statement?, declared]
      · rw [Tree.fragment?, declared]

/-- The children of the root are declared one after the other. -/
theorem readsAll_sections (records : mapper.Records taken) (root : Xml.Element)
    (children : List Tree) :
    ReadsAll children (running mapper (below root) found)
      (running (mapper.declare (Tree.firsts taken children)) (below root)
        (found ++ Tree.rootFindings mapper.nameSpace taken children)) := by
  induction children generalizing mapper taken found with
  | nil =>
    rw [Tree.firsts, Tree.rootFindings, Mapper.declare_nil, List.append_nil]
    apply readsAll_nil
  | cons child rest ih =>
    rw [Tree.firsts_cons, Tree.rootFindings, ← Mapper.declare_declare, ← List.append_assoc]
    exact .cons (reads_section records root child) (ih (records.next child))

/-! ### The document -/

/-- What stands around the root of a mapper. -/
def around : List Frame :=
  [⟨none, .outside, []⟩]

theorem foldl_step_blank {events : List Located} (blank : events.all Located.isBlank) :
    events.foldl step (running mapper around found) = running mapper around found := by
  induction events with
  | nil => rfl
  | cons located rest ih =>
    rw [List.all_cons, Bool.and_eq_true] at blank
    rw [List.foldl_cons]
    have unchanged : (running mapper around found).step located = running mapper around found := by
      obtain ⟨event, stop⟩ := located
      cases event with
      | text content => exact if_pos blank.1
      | opening element => cases blank.1
      | closing => cases blank.1
    rw [unchanged, ih blank.2]

theorem foldl_step_stopped {reader : Reader} (stopped : reader.progress ≠ .running)
    (events : List Located) : events.foldl step reader = reader := by
  induction events with
  | nil => rfl
  | cons located rest ih =>
    rw [List.foldl_cons, step, if_pos (bne_iff_ne.mpr stopped), ih]

theorem finish_stopped {reader : Reader} (stopped : reader.progress ≠ .running)
    (ending : Xml.Ending) : reader.finish ending = reader :=
  if_pos (bne_iff_ne.mpr stopped)

theorem records_nil (nameSpace : String) : Mapper.Records { nameSpace } [] :=
  ⟨by simp [Mapper.statement?], by simp [Mapper.fragment?]⟩

theorem reads_root (named : tag.name = "mapper") :
    Reads (.element tag children stop) (running default around [])
      { stack := around
        mapper := tag.mapper children
        diagnostics := tag.mapperFindings children
        progress := .finished } := by
  have opens (isEmpty : Bool) :
      (running default around []).openElement (tag.element isEmpty)
        = running { nameSpace := tag.value "namespace" } (below (tag.element isEmpty))
            (tag.requiring none "namespace") := by
    change openRoot _ _ = _
    unfold openRoot
    rw [Tag.name_element, if_neg (by simp [named]), require_running]
    rfl
  apply reads_element opens
  · intro isEmpty
    apply readsAll_sections (records_nil _)
  · intro isEmpty
    rfl

end Reader

/-- A mapper given as a tree is read as that tree says, and so are the findings about it. -/
theorem Mapper.parse_eq_readMapper {source : String} {tag : Xml.Tag} {children : List Xml.Tree} {stop : Nat}
    (rooted : (Xml.Document.read source).HasRoot (.element tag children stop))
    (named : tag.name = "mapper") : Mapper.parse source = tag.readMapper children := by
  obtain ⟨before, events, after, same, blank, delivered⟩ := rooted
  have read : Reader.readAll .outside source
      = { stack := Reader.around
          mapper := tag.mapper children
          diagnostics := tag.mapperFindings children
          progress := .finished } := by
    change Reader.finish (List.foldl Reader.step (Reader.running default Reader.around []) _) _ = _
    have stopped : Progress.finished ≠ .running := by decide
    rw [same, List.foldl_append, List.foldl_append, Reader.foldl_step_blank blank,
      Reader.reads_root named events delivered, Reader.foldl_step_stopped stopped,
      Reader.finish_stopped stopped]
  unfold Mapper.parse Xml.Tag.readMapper Reader.succeeded
  rw [read]
  cases fatal : Diagnostic.hasFatal (tag.mapperFindings children) <;> simp [fatal]

/-- A mapper with a foreign element, an unknown one and a fragment declared twice. -/
theorem Mapper.parse_eq_readMapper_nested :
    Mapper.parse
        ("<mapper namespace=\"n\"><cache><x/></cache><sql id=\"a\">b<![CDATA[#\x7bc\x7d]]></sql>"
          ++ "<select id=\"s\">&lt;<y><include refid=\"n.a\">z</include></y></select>"
          ++ "<sql id=\"a\"/></mapper>")
      = .ok
        ({ nameSpace := "n"
           statements := [{ id := "s", root := .mixed [.text "<", .reference "a"], span := ⟨76, 143⟩ }]
           fragments := [{ id := "a", root := .mixed [.text "b", .parameter "c" false]
                           span := ⟨41, 76⟩ }] },
          [{ kind := .unknownElement, span := ⟨95, 98⟩, detail := some "y", owner := some "n.s" },
            { kind := .duplicateFragment, span := ⟨143, 156⟩, detail := some "a"
              owner := some "n.a" }]) := by
  have cache : Xml.Tree.Delivers _ _ :=
    .double ⟨"cache", [], 22, 29⟩ 41 (.cons (.single ⟨"x", [], 29, 33⟩) .nil)
  have shared : Xml.Tree.Delivers _ _ :=
    .double ⟨"sql", [("id", "a")], 41, 53⟩ 76 (.cons (.text "b" 54) (.cons (.text "#\x7bc\x7d" 70) .nil))
  have reference : Xml.Tree.Delivers _ _ :=
    .double ⟨"include", [("refid", "n.a")], 98, 119⟩ 130 (.cons (.text "z" 120) .nil)
  have statement : Xml.Tree.Delivers _ _ :=
    .double ⟨"select", [("id", "s")], 76, 91⟩ 143
      (.cons (.text "<" 95) (.cons (.double ⟨"y", [], 95, 98⟩ 134 (.cons reference .nil)) .nil))
  have again : Xml.Tree.Delivers _ _ := .single ⟨"sql", [("id", "a")], 143, 156⟩
  have root : Xml.Tree.Delivers _ _ := .double ⟨"mapper", [("namespace", "n")], 0, 22⟩ 165
    (.cons cache (.cons shared (.cons statement (.cons again .nil))))
  refine (Mapper.parse_eq_readMapper ⟨[], _, [], ?events, rfl, root⟩ rfl).trans ?result
  case events => decide +kernel
  case result =>
    simp +decide [Xml.Tag.readMapper, Xml.Tag.mapperFindings]
    cbv

end SqlMapper
