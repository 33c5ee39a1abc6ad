import SqlMapper.Proofs.Mapper.Extent

/-!
# Declarations as slices of the source

The span of a declaration cuts its element out of the source, unless a byte order mark stands in front.
Reading drops the mark and counts from behind it, so all spans lie in the source still, but those of
declarations are the mark's three bytes in front of their elements.
-/

namespace SqlMapper

/-- The bytes of a source from the start of a span up to its stop. -/
def Span.slice (span : Span) (source : String) : List UInt8 :=
  ((Text.bytes source).drop span.start).take (span.stop - span.start)

/-- Whether a span cuts an element of a tag out of a source. -/
structure Span.Slices (source : String) (span : Span) (tag : String) : Prop where
  opens : Text.bytes ("<" ++ tag) <+: span.slice source
  closes : Text.bytes ">" <:+ span.slice source

instance (source : String) (span : Span) (tag : String) : Decidable (span.Slices source tag) :=
  decidable_of_iff (Text.bytes ("<" ++ tag) <+: span.slice source ∧ Text.bytes ">" <:+ span.slice source)
    ⟨fun ⟨opens, closes⟩ => ⟨opens, closes⟩, fun ⟨opens, closes⟩ => ⟨opens, closes⟩⟩

/-- All that reading reports, whether or not something could be made of the source. -/
def ReadResult.findings {α : Type} : ReadResult α → List Diagnostic
  | .ok (_, findings) => findings
  | .error findings => findings

variable {source tag : String} {span : Span} {mapper : Mapper}

/-! ### The byte order mark -/

/-- Whether a byte order mark stands in front of a source. -/
def Xml.IsMarked (source : String) : Prop :=
  source.toList.head? = some '\ufeff'

instance (source : String) : Decidable (Xml.IsMarked source) :=
  inferInstanceAs (Decidable (_ = _))

/-- The source that reading counts its places in. -/
def Xml.unmarked (source : String) : String :=
  String.ofList (Xml.withoutMark source.toList)

theorem Xml.unmarked_eq_self (plain : ¬Xml.IsMarked source) : Xml.unmarked source = source := by
  unfold Xml.IsMarked at plain
  unfold Xml.unmarked Xml.withoutMark
  split
  · rename_i marked
    rw [marked] at plain
    exact absurd rfl plain
  · exact String.ofList_toList

theorem Xml.bytes_eq_of_isMarked (marked : Xml.IsMarked source) :
    Text.bytes source = String.utf8EncodeChar '\ufeff' ++ Text.bytes (Xml.unmarked source) := by
  obtain ⟨rest, shape⟩ := List.head?_eq_some_iff.1 marked
  rw [Text.bytes_eq_flatMap, Text.bytes_eq_flatMap, Xml.unmarked, String.toList_ofList, shape,
    List.flatMap_cons]
  rfl

theorem Xml.utf8Length_withoutMark_le (source : String) :
    Text.utf8Length (Xml.withoutMark source.toList) ≤ source.utf8ByteSize := by
  rw [← Text.utf8Length_toList]
  unfold Xml.withoutMark
  split
  · rename_i marked
    rw [marked, Text.utf8Length_cons]
    exact Nat.le_add_left _ _
  · exact le_rfl

/-! ### Slices -/

theorem bytes_opening (tag : String) :
    Text.bytes ("<" ++ tag) = ('<' :: tag.toList).flatMap String.utf8EncodeChar := by
  rw [Text.bytes_eq_flatMap, String.toList_append]
  rfl

theorem Span.IsElement.slices (isElement : span.IsElement source.toList tag) : span.Slices source tag := by
  obtain ⟨inside, occupies, ⟨rest, opens⟩, ⟨front, closes⟩⟩ := isElement
  have cut : span.slice source = inside.flatMap String.utf8EncodeChar := by
    rw [Span.slice, Text.bytes_eq_flatMap]
    exact occupies.bytes_eq
  constructor
  · rw [cut, ← opens, bytes_opening, List.flatMap_append]
    exact List.prefix_append _ _
  · rw [cut, ← closes, Text.bytes_eq_flatMap, List.flatMap_append]
    exact List.suffix_append _ _

theorem Span.IsElement.start_lt_stop {whole : List Char} (isElement : span.IsElement whole tag) :
    span.start < span.stop := by
  obtain ⟨inside, occupies, opens, -⟩ := isElement
  exact occupies.start_lt (List.ne_nil_of_mem (opens.mem List.mem_cons_self))

theorem Span.Slices.getElem?_bytes (slices : span.Slices source tag) {index : Nat} {byte : UInt8}
    (found : (Text.bytes ("<" ++ tag))[index]? = some byte) :
    (Text.bytes source)[span.start + index]? = some byte := by
  obtain ⟨rest, opens⟩ := slices.opens
  have inSlice : (span.slice source)[index]? = some byte := by
    obtain ⟨inTag, -⟩ := List.getElem?_eq_some_iff.1 found
    rwa [← opens, List.getElem?_append_left inTag]
  rw [Span.slice, List.getElem?_take] at inSlice
  split at inSlice
  · rwa [List.getElem?_drop] at inSlice
  · cases inSlice

/-- Three bytes behind the start of an element its tag goes on, and no tag begins there. -/
theorem Span.Slices.not_of_isMarked (slices : span.Slices (Xml.unmarked source) tag)
    (marked : Xml.IsMarked source) {byte : UInt8} (fourth : (Text.bytes ("<" ++ tag))[3]? = some byte)
    (goesOn : byte ≠ 60) : ¬span.Slices source tag := by
  intro shifted
  have opens : (Text.bytes ("<" ++ tag))[0]? = some 60 := by
    rw [bytes_opening]
    rfl
  have begins := slices.getElem?_bytes opens
  have continues := shifted.getElem?_bytes fourth
  rw [Xml.bytes_eq_of_isMarked marked] at continues
  have sameByte : some byte = some 60 := by
    rw [← continues, ← begins]
    exact List.getElem?_append_right (Nat.le_add_left 3 span.start)
  exact goesOn (Option.some.inj sameByte)

theorem Mapper.fourth_of_mem_extents {extent : String × Span} (member : extent ∈ mapper.extents) :
    ∃ byte, (Text.bytes ("<" ++ extent.1))[3]? = some byte ∧ byte ≠ 60 := by
  rcases List.mem_append.1 member with ofStatement | ofFragment
  · obtain ⟨⟨id, kind⟩, -, rfl⟩ := List.mem_map.1 ofStatement
    cases kind <;> exact ⟨_, rfl, by decide⟩
  · obtain ⟨fragment, -, rfl⟩ := List.mem_map.1 ofFragment
    exact ⟨_, rfl, by decide⟩

/-! ### Placement -/

theorem Mapper.findings_parse (source : String) :
    (Mapper.parse source).findings = (Reader.readAll .outside source).diagnostics := by
  unfold Mapper.parse
  dsimp only
  split <;> rfl

theorem Node.findings_parse (source : String) :
    (Node.parse source).findings = (Reader.readAll .template source).diagnostics := by
  unfold Node.parse
  dsimp only
  split <;> rfl

theorem Reader.isWithin_of_readAll {role : Role} (undeclared : role.declared? = none) (source : String) :
    ∀ finding ∈ (Reader.readAll role source).diagnostics, finding.span.IsWithin source.utf8ByteSize := by
  intro finding member
  obtain ⟨last, placed⟩ := Reader.IsPlaced.readAll role undeclared source
  obtain ⟨ordered, inUnmarked⟩ := placed.findings finding member
  exact ⟨ordered, inUnmarked.trans (Xml.utf8Length_withoutMark_le source)⟩

theorem Mapper.isPlaced_parse {findings : List Diagnostic}
    (parsed : Mapper.parse source = .ok (mapper, findings)) :
    ∃ last, mapper.IsPlaced (Xml.withoutMark source.toList) last := by
  obtain ⟨last, placed⟩ := Reader.IsPlaced.readAll .outside rfl source
  unfold Mapper.parse at parsed
  dsimp only at parsed
  split at parsed
  · cases parsed
    exact ⟨last, placed.mapper⟩
  · cases parsed

/-- Findings lie in the source.  Declarations lie in it too, follow each other and are apart.  Their spans
cut their elements out of the source without the mark, and out of the source itself exactly if it has none. -/
theorem Mapper.parse_placed (source : String) :
    (∀ finding ∈ (Mapper.parse source).findings ++ (Node.parse source).findings,
      finding.span.IsWithin source.utf8ByteSize) ∧
    ∀ mapper findings, Mapper.parse source = .ok (mapper, findings) →
      mapper.IsOrdered ∧
      ∀ extent ∈ mapper.extents,
        extent.2.start < extent.2.stop ∧ extent.2.stop ≤ source.utf8ByteSize ∧
        extent.2.Slices (Xml.unmarked source) extent.1 ∧
        (extent.2.Slices source extent.1 ↔ ¬Xml.IsMarked source) := by
  constructor
  · rw [Mapper.findings_parse, Node.findings_parse]
    exact List.forall_mem_append.2
      ⟨Reader.isWithin_of_readAll rfl source, Reader.isWithin_of_readAll rfl source⟩
  · intro mapper findings parsed
    obtain ⟨last, placed⟩ := Mapper.isPlaced_parse parsed
    refine ⟨placed.ordered, fun extent member => ?_⟩
    have isElement := placed.elements extent member
    have slices : extent.2.Slices (Xml.unmarked source) extent.1 := by
      apply Span.IsElement.slices
      rwa [Xml.unmarked, String.toList_ofList]
    have inSource := isElement.isWithin.2.trans (Xml.utf8Length_withoutMark_le source)
    refine ⟨isElement.start_lt_stop, inSource, slices, ?_, ?_⟩
    · intro shifted marked
      obtain ⟨byte, fourth, goesOn⟩ := Mapper.fourth_of_mem_extents member
      exact slices.not_of_isMarked marked fourth goesOn shifted
    · intro plain
      rwa [Xml.unmarked_eq_self plain] at slices

/-- A fragment with a character of two bytes, and an element without content that is reported. -/
theorem Mapper.parse_placed_fragment :
    let source := "<mapper namespace=\"n\"><sql id=\"c\">é</sql><select id=\"s\" timeout=\"x\"/></mapper>"
    let mapper : Mapper := {
      nameSpace := "n"
      statements := [{ id := "s", root := .text "", span := ⟨42, 70⟩ }]
      fragments := [{ id := "c", root := .text "é", span := ⟨22, 42⟩ }] }
    let finding : Diagnostic :=
      { kind := .invalidNumber, span := ⟨42, 70⟩, detail := some "x", owner := some "n.s" }
    Mapper.parse source = .ok (mapper, [finding]) ∧ finding.span.IsWithin source.utf8ByteSize ∧
      mapper.IsOrdered ∧ Span.Slices source ⟨42, 70⟩ "select" ∧ Span.Slices source ⟨22, 42⟩ "sql" := by
  intro source mapper finding
  have events : (Xml.Document.read source).events =
      [⟨.opening ⟨"mapper", [("namespace", "n")], 0, 22, false⟩, 22⟩,
        ⟨.opening ⟨"sql", [("id", "c")], 22, 34, false⟩, 34⟩, ⟨.text "é", 36⟩, ⟨.closing, 42⟩,
        ⟨.opening ⟨"select", [("id", "s"), ("timeout", "x")], 42, 70, true⟩, 70⟩,
        ⟨.closing, 79⟩] := by decide +kernel
  have accepted : Mapper.parse source = .ok (mapper, [finding]) := by
    simp only [Mapper.parse, Reader.readAll, events]
    generalize (Xml.Document.read source).ending = ending
    cbv
  have reported : finding ∈ (Mapper.parse source).findings := by
    rw [accepted]
    exact List.mem_singleton_self finding
  have plain : ¬Xml.IsMarked source := by decide +kernel
  obtain ⟨within, placed⟩ := Mapper.parse_placed source
  obtain ⟨ordered, extents⟩ := placed mapper [finding] accepted
  have slices (extent : String × Span) (member : extent ∈ mapper.extents) :=
    (extents extent member).2.2.2.2 plain
  exact ⟨accepted, within finding (List.mem_append_left _ reported), ordered,
    slices ("select", ⟨42, 70⟩) List.mem_cons_self,
    slices ("sql", ⟨22, 42⟩) (List.mem_cons_of_mem _ List.mem_cons_self)⟩

/-- A span that begins three bytes in front of its element and ends in its closing tag. -/
theorem Mapper.mark_shifts_spans :
    let source := "\ufeff<mapper namespace=\"N\"><select id=\"a\">x</select></mapper>"
    let mapper : Mapper :=
      { nameSpace := "N", statements := [{ id := "a", root := .text "x", span := ⟨22, 47⟩ }] }
    Mapper.parse source = .ok (mapper, []) ∧ mapper.extents = [("select", ⟨22, 47⟩)] ∧
      ¬Span.Slices source ⟨22, 47⟩ "select" := by
  intro source mapper
  have events : (Xml.Document.read source).events =
      [⟨.opening ⟨"mapper", [("namespace", "N")], 0, 22, false⟩, 22⟩,
        ⟨.opening ⟨"select", [("id", "a")], 22, 37, false⟩, 37⟩, ⟨.text "x", 38⟩, ⟨.closing, 47⟩,
        ⟨.closing, 56⟩] := by decide +kernel
  have accepted : Mapper.parse source = .ok (mapper, []) := by
    simp only [Mapper.parse, Reader.readAll, events]
    generalize (Xml.Document.read source).ending = ending
    cbv
  exact ⟨accepted, rfl, by decide +kernel⟩

end SqlMapper
