import SqlMapper.Proofs.Text.Stretch
import SqlMapper.Proofs.Xml.Position
import Mathlib

/-!
# Where events are read

Every event is read from a stretch of the source that begins where an earlier one ended or later.  An
element is placed on its opening tag, from the `<` in front of its name to the `>` behind it.
-/

namespace SqlMapper.Xml

open Text (Occupies EndsWith)

/-- Whether an element is placed on its tag. -/
def Element.IsPlaced (whole : List Char) (element : Element) : Prop :=
  ∃ content, element.name.toList <+: content ∧
    Occupies whole element.start element.stop ('<' :: content ++ ['>'])

/-- What is known of the places that an event was read between. -/
def Event.IsPlaced (whole : List Char) (start stop : Nat) : Event → Prop
  | .opening element => element.IsPlaced whole ∧ element.start = start ∧ element.stop = stop
  | .closing => EndsWith whole stop '>'
  | .text _ => True

/-- Whether the events that are read from a place on follow each other in the text, and their ending
them. -/
inductive Document.IsPlaced (whole : List Char) : Nat → Document → Prop where
  | complete {reached : Nat} (bound : reached ≤ Text.utf8Length whole) :
      IsPlaced whole reached ⟨[], .complete⟩
  | fault {reached start stop : Nat} (cause : Fault) (ordered : start ≤ stop)
      (bound : reached ≤ Text.utf8Length whole ∧ stop ≤ Text.utf8Length whole) :
      IsPlaced whole reached ⟨[], .fault start stop cause⟩
  | event {reached start stop : Nat} {event : Event} {document : Document} (behind : reached ≤ start)
      (ordered : start ≤ stop) (placed : event.IsPlaced whole start stop)
      (later : IsPlaced whole stop document) :
      IsPlaced whole reached (document.addFront ⟨event, stop⟩)

/-- What the text that a piece was cut from shows of it. -/
def Piece.IsCutFrom (inside : List Char) : Piece → Prop
  | .tag content => inside = '<' :: content ++ ['>']
  | .endTag _ => ['>'] <:+ inside
  | _ => True

namespace Piece

variable {c : Char} {rest after content before text : List Char} {piece : Piece} {fault unclosed : Fault}
  {cut : Option (List Char × List Char)} {interpret : List Char → Except Fault Piece}

/-! ### Pieces -/

theorem cutTag_eq_some {quote : Option Char} (cut : cutTag quote text = some (content, after)) :
    text = content ++ '>' :: after := by
  induction text generalizing quote content with
  | nil => cases cut
  | cons c rest ih =>
      unfold cutTag at cut
      split at cut
      · simp only [Option.map_eq_some_iff, Prod.exists, Prod.mk.injEq] at cut
        obtain ⟨inner, _, found, rfl, rfl⟩ := cut
        rw [ih found, List.cons_append]
      · split at cut
        · rename_i ends
          cases cut
          rw [beq_iff_eq.1 ends, List.nil_append]
        · simp only [Option.map_eq_some_iff, Prod.exists, Prod.mk.injEq] at cut
          obtain ⟨inner, _, found, rfl, rfl⟩ := cut
          rw [ih found, List.cons_append]

theorem cutWhere_eq_some {closes : List Char → Bool}
    (cut : cutWhere closes before text = some (content, after)) :
    before.reverse ++ text = content ++ '>' :: after := by
  induction text generalizing before with
  | nil => cases cut
  | cons c rest ih =>
      unfold cutWhere at cut
      split at cut
      · rename_i ends
        rw [Bool.and_eq_true, beq_iff_eq] at ends
        cases cut
        rw [ends.1]
      · rw [← ih cut, List.reverse_cons, List.append_assoc, List.singleton_append]

theorem finish_eq_ok (ok : finish cut unclosed interpret = .ok (piece, after)) :
    ∃ content, cut = some (content, after) ∧ interpret content = .ok piece := by
  unfold finish at ok
  split at ok
  · cases ok
  · split at ok
    · rename_i interpreted
      cases ok
      exact ⟨_, rfl, interpreted⟩
    · cases ok

theorem finish_eq_error (error : finish cut unclosed interpret = .error (fault, after)) :
    after = [] ∨ ∃ content, cut = some (content, after) := by
  unfold finish at error
  split at error
  · cases error
    exact .inl rfl
  · split at error
    · cases error
    · cases error
      exact .inr ⟨_, rfl⟩

/-- A piece that is neither an opening nor a closing tag. -/
theorem isCutFrom_of_interpret {inside : List Char} (ok : interpret content = .ok piece)
    (known : interpret = ofCharacterData ∨ interpret = ofComment ∨ interpret = ofDoctype ∨
      interpret = ofInstruction) : piece.IsCutFrom inside := by
  rcases known with rfl | rfl | rfl | rfl
  · unfold ofCharacterData at ok
    split at ok <;> cases ok
    trivial
  · unfold ofComment at ok
    split at ok <;> cases ok
    trivial
  · unfold ofDoctype at ok
    split at ok
    · split at ok <;> cases ok
      trivial
    · cases ok
  · unfold ofInstruction at ok
    split at ok <;> cases ok
    trivial

/-- Markup is cut off behind a `>`. -/
theorem ofMarkup_eq_ok (ok : ofMarkup text = .ok (piece, after)) :
    ∃ content, text = content ++ '>' :: after ∧ piece.IsCutFrom ('<' :: content ++ ['>']) := by
  have other {closes : List Char → Bool} {unclosed : Fault}
      {interpret : List Char → Except Fault Piece}
      (ok : finish (cutWhere closes [] text) unclosed interpret = .ok (piece, after))
      (known : interpret = ofCharacterData ∨ interpret = ofComment ∨ interpret = ofDoctype ∨
        interpret = ofInstruction) :
      ∃ content, text = content ++ '>' :: after ∧ piece.IsCutFrom ('<' :: content ++ ['>']) := by
    obtain ⟨content, cut, interpreted⟩ := finish_eq_ok ok
    exact ⟨content, cutWhere_eq_some cut, isCutFrom_of_interpret interpreted known⟩
  unfold ofMarkup at ok
  split at ok
  · cases ok
  · exact other ok (by simp)
  · exact other ok (by simp)
  · exact other ok (by simp)
  · exact other ok (by simp)
  · cases ok
  · exact other ok (by simp)
  · obtain ⟨content, cut, interpreted⟩ := finish_eq_ok ok
    cases interpreted
    exact ⟨content, cutTag_eq_some cut, List.suffix_append _ _⟩
  · obtain ⟨content, cut, interpreted⟩ := finish_eq_ok ok
    cases interpreted
    exact ⟨content, cutTag_eq_some cut, rfl⟩

theorem ofMarkup_eq_error (error : ofMarkup text = .error (fault, after)) : after <:+ text := by
  have tagged (cut : ∃ content, cutTag none text = some (content, after)) : after <:+ text := by
    obtain ⟨content, cut⟩ := cut
    rw [cutTag_eq_some cut]
    exact (List.suffix_cons '>' after).trans (List.suffix_append _ _)
  have other {closes : List Char → Bool} (cut : ∃ content, cutWhere closes [] text = some (content, after)) :
      after <:+ text := by
    obtain ⟨content, cut⟩ := cut
    have whole : text = content ++ '>' :: after := cutWhere_eq_some cut
    rw [whole]
    exact (List.suffix_cons '>' after).trans (List.suffix_append _ _)
  have empty (none : after = []) : after <:+ text := none ▸ List.nil_suffix
  unfold ofMarkup at error
  split at error
  · cases error
    exact List.suffix_rfl
  · exact (finish_eq_error error).elim empty other
  · exact (finish_eq_error error).elim empty other
  · exact (finish_eq_error error).elim empty other
  · exact (finish_eq_error error).elim empty other
  · cases error
    exact List.suffix_rfl
  · exact (finish_eq_error error).elim empty other
  · exact (finish_eq_error error).elim empty tagged
  · exact (finish_eq_error error).elim empty tagged

theorem first_eq_ok (ok : first c rest = .ok (piece, after)) :
    ∃ inside, c :: rest = inside ++ after ∧ inside ≠ [] ∧ piece.IsCutFrom inside := by
  unfold first at ok
  split at ok
  · rename_i opens
    obtain ⟨content, rfl, shape⟩ := ofMarkup_eq_ok ok
    refine ⟨'<' :: content ++ ['>'], ?_, by simp, shape⟩
    simp [beq_iff_eq.1 opens]
  · cases ok
    refine ⟨c :: rest.takeWhile (· != '<'), ?_, List.cons_ne_nil _ _, trivial⟩
    rw [List.cons_append, List.takeWhile_append_dropWhile]

theorem first_eq_error (error : first c rest = .error (fault, after)) : after <:+ c :: rest := by
  unfold first at error
  split at error
  · exact (ofMarkup_eq_error error).trans (List.suffix_cons c rest)
  · cases error

end Piece

theorem Element.ofTag_eq_ok {content : List Char} {start stop : Nat} {element : Element}
    (ok : Element.ofTag content start stop = .ok element) :
    element.start = start ∧ element.stop = stop ∧ element.name.toList <+: content := by
  unfold Element.ofTag at ok
  extract_lets isEmpty inner name at ok
  simp only [bind, Except.bind] at ok
  split at ok
  · cases ok
  · cases ok
    refine ⟨rfl, rfl, ?_⟩
    rw [String.toList_ofList]
    apply (List.takeWhile_prefix _).trans
    unfold inner
    split
    · exact List.dropLast_prefix content
    · exact List.prefix_rfl

namespace Document

variable {whole : List Char} {reached start stop : Nat} {document : Document}

theorem IsPlaced.reached_le (placed : document.IsPlaced whole reached) :
    reached ≤ Text.utf8Length whole := by
  induction placed with
  | complete bound => exact bound
  | fault _ _ bound => exact bound.1
  | event behind ordered _ _ ih => omega

theorem IsPlaced.mono {earlier : Nat} (placed : document.IsPlaced whole reached)
    (le : earlier ≤ reached) : document.IsPlaced whole earlier := by
  cases placed with
  | complete bound => exact .complete (le.trans bound)
  | fault cause ordered bound => exact .fault cause ordered ⟨le.trans bound.1, bound.2⟩
  | event behind ordered placed later => exact .event (le.trans behind) ordered placed later

theorem isPlaced_broken (cause : Fault) (ordered : start ≤ stop) (bound : stop ≤ Text.utf8Length whole) :
    (broken start stop cause).IsPlaced whole start :=
  .fault cause ordered ⟨ordered.trans bound, bound⟩

theorem isPlaced_readFrom (before text : List Char) (opened : List String) :
    (readFrom (Text.utf8Length before) opened text).IsPlaced (before ++ text) (Text.utf8Length before) := by
  induction measure : text.length using Nat.strongRecOn generalizing before text opened with
  | ind size ih =>
      cases text with
      | nil =>
          rw [readFrom]
          exact .complete (by simp)
      | cons c rest =>
          rw [readFrom]
          split
          · rename_i fault after cut
            obtain ⟨inside, joined⟩ := Piece.first_eq_error cut
            apply isPlaced_broken
            · exact Nat.le_add_right _ _
            · rw [Text.utf8Length_append]
              omega
          · rename_i piece after cut
            obtain ⟨inside, joined, nonempty, shape⟩ := Piece.first_eq_ok cut
            have shorter := Piece.first_length cut
            rw [measure] at shorter
            have place : Text.utf8Length before + (Text.utf8Length (c :: rest) - Text.utf8Length after) =
                Text.utf8Length (before ++ inside) := by
              simp [joined]
            have whole : before ++ c :: rest = before ++ inside ++ after := by
              rw [joined, List.append_assoc]
            have later (inner : List String) := ih _ shorter (before ++ inside) after inner rfl
            have occupies : Occupies (before ++ inside ++ after) (Text.utf8Length before)
                (Text.utf8Length (before ++ inside)) inside :=
              ⟨before, List.prefix_append _ _, rfl, rfl⟩
            rw [place, whole]
            generalize Text.utf8Length (before ++ inside) = stop at later occupies
            have broken (fault : Fault) := isPlaced_broken fault occupies.start_le occupies.stop_le
            cases piece with
            | silent => exact (later opened).mono occupies.start_le
            | text content =>
                dsimp only
                cases Entity.decode content with
                | error fault => exact broken fault
                | ok text => exact .event le_rfl occupies.start_le trivial (later opened)
            | characterData content => exact .event le_rfl occupies.start_le trivial (later opened)
            | endTag content =>
                dsimp only
                cases endFault? opened content with
                | some fault => exact broken fault
                | none => exact .event le_rfl occupies.start_le (occupies.endsWith shape) (later _)
            | tag content =>
                dsimp only
                cases read : Element.ofTag content (Text.utf8Length before) stop with
                | error fault => exact broken fault
                | ok element =>
                    obtain ⟨starts, stops, named⟩ := Element.ofTag_eq_ok read
                    have placed : element.IsPlaced (before ++ inside ++ after) := by
                      refine ⟨content, named, ?_⟩
                      rw [starts, stops, ← show inside = _ from shape]
                      exact occupies
                    exact .event le_rfl occupies.start_le ⟨placed, starts, stops⟩ (later _)

/-- Places are counted from behind the byte order mark. -/
theorem isPlaced_read (source : String) :
    (read source).IsPlaced (withoutMark source.toList) 0 := by
  rw [read_eq_readFrom]
  exact isPlaced_readFrom [] (withoutMark source.toList) []

end Document

end SqlMapper.Xml
