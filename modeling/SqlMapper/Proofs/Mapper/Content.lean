import SqlMapper.Proofs.Mapper.Tree

/-!
# The content of a template is read as a tree

However deep elements are nested, reading one to its end leaves what is open around it as it was, but
for the nodes of that element.
-/

namespace SqlMapper

namespace Node

/-! ### Joining texts -/

theorem appendAll_singleton (nodes : List Node) (node : Node) :
    appendAll nodes [node] = append nodes node := rfl

theorem appendAll_cons (nodes : List Node) (node : Node) (added : List Node) :
    appendAll nodes (node :: added) = appendAll (append nodes node) added := rfl

theorem appendAll_concat (nodes added more : List Node) :
    appendAll nodes (added ++ more) = appendAll (appendAll nodes added) more := by
  unfold appendAll
  apply List.foldl_append

theorem appendText_ne_nil (text : String) (nodes : List Node) : appendText text nodes ≠ [] := by
  fun_cases appendText text nodes <;> simp

theorem appendText_cons {text : String} {node : Node} {rest : List Node} (more : rest ≠ []) :
    appendText text (node :: rest) = node :: appendText text rest := by
  obtain ⟨next, others, rfl⟩ := List.exists_cons_of_ne_nil more
  cases node <;> rfl

theorem appendText_appendText (text more : String) (nodes : List Node) :
    appendText more (appendText text nodes) = appendText (text ++ more) nodes := by
  fun_induction appendText text nodes with
  | case1 => simp [appendText]
  | case2 last => simp [appendText, String.append_assoc]
  | case3 node rest other ih =>
    rw [appendText_cons (appendText_ne_nil text rest), ih, appendText.eq_3 _ _ _ other]

theorem append_append_text (nodes : List Node) (text more : String) :
    append (append nodes (.text text)) (.text more) = append nodes (.text (text ++ more)) := by
  by_cases noText : text.isEmpty <;> by_cases noMore : more.isEmpty
  · simp_all [append]
  · simp_all [append]
  · simp_all [append]
  · simp_all [append, appendText_appendText]

/-- Text put behind what is added afterwards is text behind everything. -/
theorem appendAll_appendText (text : String) (nodes added : List Node) :
    appendAll nodes (appendText text added) = append (appendAll nodes added) (.text text) := by
  fun_induction appendText text added generalizing nodes with
  | case1 => rfl
  | case2 last => simp only [appendAll_singleton, append_append_text]
  | case3 node rest other ih => rw [appendAll_cons, appendAll_cons, ih]

theorem appendAll_append (nodes added : List Node) (node : Node) :
    appendAll nodes (append added node) = append (appendAll nodes added) node := by
  cases node with
  | text content =>
    by_cases empty : content.isEmpty
    · simp [append, empty]
    · rw [← appendAll_appendText, append, if_neg empty]
  | _ => apply appendAll_concat

theorem appendAll_appendAll (nodes added more : List Node) :
    appendAll nodes (appendAll added more) = appendAll (appendAll nodes added) more := by
  induction more generalizing added with
  | nil => rfl
  | cons node rest ih => rw [appendAll_cons, ih, appendAll_append, appendAll_cons]

/-- Joining texts beforehand makes no difference where nodes are added. -/
theorem appendAll_joined (nodes added : List Node) :
    appendAll nodes (joined added) = appendAll nodes added :=
  appendAll_appendAll nodes [] added

end Node

/-- An open element with more nodes read inside it. -/
def Frame.fill (frame : Frame) (added : List Node) : Frame :=
  { frame with nodes := Node.appendAll frame.nodes added }

theorem Frame.fill_fill (frame : Frame) (added more : List Node) :
    (frame.fill added).fill more = frame.fill (added ++ more) := by
  unfold Frame.fill
  rw [Node.appendAll_concat]

theorem Frame.fill_joined (frame : Frame) (added : List Node) :
    frame.fill (Node.joined added) = frame.fill added := by
  unfold Frame.fill
  rw [Node.appendAll_joined]

namespace Reader

open Xml (Tag Tree Located Directive Alternative)

/-! ### Running readers -/

/-- A reader that has met no end. -/
def running (mapper : Mapper) (stack : List Frame) (found : List Diagnostic) : Reader :=
  { stack, mapper, diagnostics := found }

/-- The declaration that the open elements belong to. -/
def ownerIn (mapper : Mapper) (stack : List Frame) : Option String :=
  (running mapper stack []).owner?

variable {mapper : Mapper} {stack outer : List Frame} {found : List Diagnostic} {frame : Frame}
  {tag : Tag} {children : List Tree} {stop : Nat}

theorem report_running (kind : DiagnosticKind) (span : Span) (detail : Option String) :
    (running mapper stack found).report kind span detail
      = running mapper stack (found ++ [⟨kind, span, detail, ownerIn mapper stack⟩]) := rfl

theorem require_running (isEmpty : Bool) (key : String) :
    (running mapper stack found).require (tag.element isEmpty) key
      = running mapper stack (found ++ tag.requiring (ownerIn mapper stack) key) := by
  unfold require Tag.requiring
  rw [Tag.attribute?_element]
  cases tag.attribute? key with
  | none => rfl
  | some value => simp

theorem push_running (isEmpty : Bool) (role : Role) :
    (running mapper stack found).push (tag.element isEmpty) role
      = running mapper (⟨tag.element isEmpty, role, []⟩ :: stack) found := rfl

/-- The role of an element inside a template. -/
def directiveRole (nameSpace : String) (tag : Tag) : Role :=
  match Directive.ofName tag.name with
  | .condition => .condition (tag.value "test")
  | .choice => .choice [] none
  | .clause kind => .clause kind
  | .loop => .loop tag.loop
  | .bind => .skipped (some (.bind (tag.value "name") (tag.value "value"))) 0
  | .reference =>
    .skipped (some (.reference (localReference nameSpace (tag.value "refid")))) 0
  | .unknown => .inline

theorem openDirective_running (isEmpty : Bool) :
    (running mapper stack found).openDirective (tag.element isEmpty)
      = running mapper (⟨tag.element isEmpty, directiveRole mapper.nameSpace tag, []⟩ :: stack)
          (found ++ tag.directiveFindings (ownerIn mapper stack)) := by
  unfold openDirective
  extract_lets value
  split
  case h_1 named =>
    have directive : Directive.ofName tag.name = .condition := congrArg Directive.ofName named
    simp only [directiveRole, Tag.directiveFindings, directive, require_running, push_running]
    rfl
  case h_2 named =>
    have directive : Directive.ofName tag.name = .choice := congrArg Directive.ofName named
    simp only [directiveRole, Tag.directiveFindings, directive, push_running, List.append_nil]
  case h_3 named =>
    have directive : Directive.ofName tag.name = .clause .whereClause :=
      congrArg Directive.ofName named
    simp only [directiveRole, Tag.directiveFindings, directive, push_running, List.append_nil]
  case h_4 named =>
    have directive : Directive.ofName tag.name = .clause .setClause :=
      congrArg Directive.ofName named
    simp only [directiveRole, Tag.directiveFindings, directive, push_running, List.append_nil]
  case h_5 named =>
    have directive : Directive.ofName tag.name = .loop := congrArg Directive.ofName named
    simp only [directiveRole, Tag.directiveFindings, directive, require_running, push_running,
      List.append_assoc]
    rfl
  case h_6 named =>
    have directive : Directive.ofName tag.name = .bind := congrArg Directive.ofName named
    simp only [directiveRole, Tag.directiveFindings, directive, require_running, push_running,
      List.append_assoc]
    rfl
  case h_7 named =>
    have directive : Directive.ofName tag.name = .reference := congrArg Directive.ofName named
    simp only [directiveRole, Tag.directiveFindings, directive, require_running, push_running]
    rfl
  case h_8 =>
    have directive : Directive.ofName tag.name = .unknown := by grind [Directive.ofName, Tag.element]
    simp only [directiveRole, Tag.directiveFindings, directive, report_running]
    rfl

theorem openElement_collects (collects : frame.role.collects) (isEmpty : Bool) :
    (running mapper (frame :: outer) found).openElement (tag.element isEmpty)
      = running mapper
          (⟨tag.element isEmpty, directiveRole mapper.nameSpace tag, []⟩ :: frame :: outer)
          (found ++ tag.directiveFindings (ownerIn mapper (frame :: outer))) := by
  rw [← openDirective_running]
  obtain ⟨element, role, nodes⟩ := frame
  cases role <;> first | rfl | cases collects

/-! ### Reading a tree -/

/-- Whether a tree takes one reader to another, however it is written as events. -/
def Reads (tree : Tree) (before after : Reader) : Prop :=
  ∀ events, tree.Delivers events → events.foldl step before = after

/-- Whether trees one after the other take one reader to another. -/
def ReadsAll (trees : List Tree) (before after : Reader) : Prop :=
  ∀ events, Tree.DeliversAll trees events → events.foldl step before = after

theorem readsAll_nil (reader : Reader) : ReadsAll [] reader reader := by
  intro events delivered
  cases delivered
  rfl

theorem ReadsAll.cons {tree : Tree} {rest : List Tree} {before between after : Reader}
    (first : Reads tree before between) (others : ReadsAll rest between after) :
    ReadsAll (tree :: rest) before after := by
  intro events delivered
  cases delivered with
  | cons delivered later => rw [List.foldl_append, first _ delivered, others _ later]

theorem reads_text {content : String} {after : Reader}
    (adds : ∀ stop, (running mapper stack found).addText content stop = after) :
    Reads (.text content) (running mapper stack found) after := by
  intro events delivered
  cases delivered
  apply adds

theorem step_opening {between : Mapper} {opened : List Frame} {seen : List Diagnostic}
    (isEmpty : Bool) (stop : Nat)
    (opens : (running mapper stack found).openElement (tag.element isEmpty)
      = running between opened seen) :
    (running mapper stack found).step ⟨.opening (tag.element isEmpty), stop⟩
      = if isEmpty then (running between opened seen).closeElement stop
        else running between opened seen := by
  change (if isEmpty && ((running mapper stack found).openElement _).progress == _
    then ((running mapper stack found).openElement _).closeElement _ else _) = _
  rw [opens]
  cases isEmpty <;> rfl

/-- An element is opened, filled and closed, whether it has one tag or two. -/
theorem reads_element {between later : Mapper} {opened filled : Bool → List Frame}
    {seen more : List Diagnostic} {after : Reader}
    (opens : ∀ isEmpty, (running mapper stack found).openElement (tag.element isEmpty)
      = running between (opened isEmpty) seen)
    (fills : ∀ isEmpty, ReadsAll children (running between (opened isEmpty) seen)
      (running later (filled isEmpty) more))
    (closes : ∀ isEmpty, (running later (filled isEmpty) more).closeElement stop = after) :
    Reads (.element tag children stop) (running mapper stack found) after := by
  intro events delivered
  cases delivered with
  | single =>
    have unchanged : running between (opened true) seen = running later (filled true) more :=
      fills true [] .nil
    rw [List.foldl_cons, List.foldl_nil, step_opening true tag.stop (opens true), unchanged]
    exact closes true
  | double _ _ inside =>
    simp only [List.foldl_append, List.foldl_cons, List.foldl_nil]
    rw [step_opening false tag.stop (opens false), if_neg Bool.false_ne_true, fills false _ inside]
    exact closes false

/-! ### Skipped content -/

mutual

theorem reads_skipped (result : Option Node) (element : Xml.Element) (nodes : List Node)
    (depth : Nat) : (tree : Tree) →
    Reads tree (running mapper (⟨element, .skipped result depth, nodes⟩ :: outer) found)
      (running mapper (⟨element, .skipped result depth, nodes⟩ :: outer) found)
  | .text content => by
    apply reads_text
    intro stop
    rfl
  | .element _ children _ => by
    apply reads_element
    · intro isEmpty
      rfl
    · intro isEmpty
      exact readsAll_skipped result element nodes (depth + 1) children
    · intro isEmpty
      cases result <;> rfl

theorem readsAll_skipped (result : Option Node) (element : Xml.Element) (nodes : List Node)
    (depth : Nat) : (trees : List Tree) →
    ReadsAll trees (running mapper (⟨element, .skipped result depth, nodes⟩ :: outer) found)
      (running mapper (⟨element, .skipped result depth, nodes⟩ :: outer) found)
  | [] => readsAll_nil _
  | tree :: rest =>
    .cons (reads_skipped result element nodes depth tree)
      (readsAll_skipped result element nodes depth rest)

end

/-! ### Collected content -/

/-- Whether a tree inside a template is read as its nodes and its findings, wherever it stands. -/
def Collected (mapper : Mapper) (tree : Tree) : Prop :=
  ∀ frame outer found, frame.role.collects →
    Reads tree (running mapper (frame :: outer) found)
      (running mapper (frame.fill (tree.nodes mapper.nameSpace) :: outer)
        (found ++ tree.findings (ownerIn mapper (frame :: outer))))

/-- The same for trees one after the other. -/
def CollectedAll (mapper : Mapper) (trees : List Tree) : Prop :=
  ∀ frame outer found, frame.role.collects →
    ReadsAll trees (running mapper (frame :: outer) found)
      (running mapper (frame.fill (Tree.nodesOfAll mapper.nameSpace trees) :: outer)
        (found ++ Tree.findingsOfAll (ownerIn mapper (frame :: outer)) trees))

/-- Whether trees inside a choice are read as its branches and its fallback. -/
def Chosen (mapper : Mapper) (trees : List Tree) : Prop :=
  ∀ (element : Xml.Element) branches fallback outer found,
    ReadsAll trees (running mapper (⟨element, .choice branches fallback, []⟩ :: outer) found)
      (running mapper
        (⟨element, .choice (branches ++ Tree.branches mapper.nameSpace trees)
          (fallback <|> (Tree.fallbacks mapper.nameSpace trees).head?), []⟩ :: outer)
        (found ++ Tree.choiceFindings (ownerIn mapper outer) fallback.isSome trees))

theorem collected_text (content : String) : Collected mapper (.text content) := by
  intro frame outer found collects
  apply reads_text
  intro stop
  rw [Tree.findings, List.append_nil]
  obtain ⟨element, role, nodes⟩ := frame
  cases role <;> first | rfl | cases collects

theorem collectedAll_nil : CollectedAll mapper [] := by
  intro frame outer found collects
  rw [Tree.findingsOfAll, List.append_nil]
  apply readsAll_nil

theorem CollectedAll.cons {tree : Tree} {rest : List Tree} (first : Collected mapper tree)
    (others : CollectedAll mapper rest) : CollectedAll mapper (tree :: rest) := by
  intro frame outer found collects
  apply ReadsAll.cons (first frame outer found collects)
  have later := others (frame.fill (tree.nodes mapper.nameSpace)) outer
    (found ++ tree.findings (ownerIn mapper (frame :: outer))) collects
  rw [Frame.fill_fill, List.append_assoc] at later
  exact later

theorem ownerIn_directive (isEmpty : Bool) (nodes : List Node) :
    ownerIn mapper (⟨tag.element isEmpty, directiveRole mapper.nameSpace tag, nodes⟩ :: stack)
      = ownerIn mapper stack := by
  unfold directiveRole
  cases Directive.ofName tag.name <;> rfl

/-- An element whose own content is collected in turn, and put into what is around it. -/
theorem reads_collecting (put : List Node → List Node) {role : Role}
    (collects : frame.role.collects) (directive : directiveRole mapper.nameSpace tag = role)
    (within : role.collects) (inside : CollectedAll mapper children)
    (closes : ∀ (element : Xml.Element) nodes found,
      (running mapper (⟨element, role, nodes⟩ :: frame :: outer) found).closeElement stop
        = running mapper (frame.fill (put nodes) :: outer) found) :
    Reads (.element tag children stop) (running mapper (frame :: outer) found)
      (running mapper
        (frame.fill (put (Node.joined (Tree.nodesOfAll mapper.nameSpace children))) :: outer)
        (found ++ (tag.directiveFindings (ownerIn mapper (frame :: outer))
          ++ Tree.findingsOfAll (ownerIn mapper (frame :: outer)) children))) := by
  subst directive
  apply reads_element (openElement_collects collects)
  · intro isEmpty
    have filled := inside ⟨tag.element isEmpty, directiveRole mapper.nameSpace tag, []⟩
      (frame :: outer) (found ++ tag.directiveFindings (ownerIn mapper (frame :: outer))) within
    rw [ownerIn_directive, List.append_assoc] at filled
    exact filled
  · intro isEmpty
    apply closes

/-- An element whose content is skipped. -/
theorem reads_skipping {node : Node} (collects : frame.role.collects)
    (directive : directiveRole mapper.nameSpace tag = .skipped (some node) 0) :
    Reads (.element tag children stop) (running mapper (frame :: outer) found)
      (running mapper ({ frame with nodes := frame.nodes ++ [node] } :: outer)
        (found ++ tag.directiveFindings (ownerIn mapper (frame :: outer)))) := by
  apply reads_element (openElement_collects collects)
  · intro isEmpty
    rw [directive]
    apply readsAll_skipped
  · intro isEmpty
    rfl

theorem closeChoice_running (isEmpty : Bool) (branches : List (String × List Node))
    (fallback : Option (List Node)) :
    (running mapper (frame :: outer) found).closeChoice (tag.element isEmpty) branches fallback
      = running mapper (frame.fill [.choice branches fallback] :: outer)
          (found ++ if !branches.isEmpty then []
            else [⟨.emptyChoose, tag.span, none, ownerIn mapper (frame :: outer)⟩]) := by
  unfold closeChoice
  cases branches with
  | nil => rfl
  | cons branch rest =>
    simp only [List.isEmpty_cons, Bool.not_false, if_true, List.append_nil]
    rfl

theorem collected_element (inside : CollectedAll mapper children)
    (chosen : Chosen mapper children) : Collected mapper (.element tag children stop) := by
  intro frame outer found collects
  rw [Tree.findings, Tree.nodes]
  have role := directiveRole.eq_def mapper.nameSpace tag
  cases directive : Directive.ofName tag.name with
  | condition =>
    rw [directive] at role
    apply reads_collecting (fun nodes => [.condition (tag.value "test") nodes]) collects role rfl inside
    intro element nodes found
    rfl
  | clause kind =>
    rw [directive] at role
    apply reads_collecting (fun nodes => [.clause kind nodes]) collects role rfl inside
    intro element nodes found
    rfl
  | loop =>
    rw [directive] at role
    apply reads_collecting (fun nodes => [.loop tag.loop nodes]) collects role rfl inside
    intro element nodes found
    rfl
  | unknown =>
    rw [directive] at role
    dsimp only
    rw [← Frame.fill_joined]
    apply reads_collecting id collects role rfl inside
    intro element nodes found
    rfl
  | bind =>
    rw [directive] at role
    rw [List.append_nil]
    exact reads_skipping collects role
  | reference =>
    rw [directive] at role
    rw [List.append_nil]
    exact reads_skipping collects role
  | choice =>
    rw [directive] at role
    apply reads_element (openElement_collects collects)
    · intro isEmpty
      rw [role]
      apply chosen
    · intro isEmpty
      dsimp only
      rw [Tree.any_isNamed_when mapper.nameSpace, ← List.append_assoc, ← List.append_assoc]
      exact closeChoice_running isEmpty _ _

/-! ### The children of a choice -/

/-- The role of an element inside a choice. -/
def alternativeRole (tag : Tag) : Role :=
  match Alternative.ofName tag.name with
  | .branch => .branch (tag.value "test")
  | .fallback => .fallback
  | .unknown => .skipped none 0

/-- What is found wrong with the tag of an element inside a choice. -/
def alternativeFindings (owner : Option String) (tag : Tag) : List Diagnostic :=
  match Alternative.ofName tag.name with
  | .branch => tag.requiring owner "test"
  | .fallback => []
  | .unknown => [tag.unknown owner]

theorem openBranch_running (isEmpty : Bool) :
    (running mapper stack found).openBranch (tag.element isEmpty)
      = running mapper (⟨tag.element isEmpty, alternativeRole tag, []⟩ :: stack)
          (found ++ alternativeFindings (ownerIn mapper stack) tag) := by
  unfold openBranch
  split
  case h_1 named =>
    have alternative : Alternative.ofName tag.name = .branch := congrArg Alternative.ofName named
    simp only [alternativeRole, alternativeFindings, alternative, require_running]
    rfl
  case h_2 named =>
    have alternative : Alternative.ofName tag.name = .fallback := congrArg Alternative.ofName named
    simp only [alternativeRole, alternativeFindings, alternative, push_running, List.append_nil]
  case h_3 =>
    have alternative : Alternative.ofName tag.name = .unknown := by
      grind [Alternative.ofName, Tag.element]
    simp only [alternativeRole, alternativeFindings, alternative, report_running]
    rfl

theorem ownerIn_alternative (isEmpty : Bool) (nodes : List Node) :
    ownerIn mapper (⟨tag.element isEmpty, alternativeRole tag, nodes⟩ :: stack)
      = ownerIn mapper stack := by
  unfold alternativeRole
  cases Alternative.ofName tag.name <;> rfl

theorem chosen_nil : Chosen mapper [] := by
  intro element branches fallback outer found
  rw [Tree.branches, Tree.fallbacks, Tree.choiceFindings, List.append_nil, List.append_nil]
  cases fallback <;> apply readsAll_nil

theorem Chosen.cons_text {content : String} {rest : List Tree} (others : Chosen mapper rest) :
    Chosen mapper (.text content :: rest) := by
  intro element branches fallback outer found
  rw [Tree.branches, Tree.fallbacks, Tree.choiceFindings]
  apply ReadsAll.cons _ (others element branches fallback outer found)
  apply reads_text
  intro stop
  rfl

section

variable {element : Xml.Element} {branches : List (String × List Node)}
  {fallback : Option (List Node)}

theorem openElement_choice (isEmpty : Bool) :
    (running mapper (⟨element, .choice branches fallback, []⟩ :: outer) found).openElement
        (tag.element isEmpty)
      = running mapper
          (⟨tag.element isEmpty, alternativeRole tag, []⟩
            :: ⟨element, .choice branches fallback, []⟩ :: outer)
          (found ++ alternativeFindings (ownerIn mapper outer) tag) :=
  openBranch_running isEmpty

/-- A branch or a fallback is filled like any element with content. -/
theorem readsAll_alternative (isEmpty : Bool) (collects : (alternativeRole tag).collects)
    (inside : CollectedAll mapper children) :
    ReadsAll children
      (running mapper
        (⟨tag.element isEmpty, alternativeRole tag, []⟩
          :: ⟨element, .choice branches fallback, []⟩ :: outer) found)
      (running mapper
        (⟨tag.element isEmpty, alternativeRole tag,
            Node.joined (Tree.nodesOfAll mapper.nameSpace children)⟩
          :: ⟨element, .choice branches fallback, []⟩ :: outer)
        (found ++ Tree.findingsOfAll (ownerIn mapper outer) children)) := by
  have filled := inside ⟨tag.element isEmpty, alternativeRole tag, []⟩
    (⟨element, .choice branches fallback, []⟩ :: outer) found collects
  rw [ownerIn_alternative] at filled
  exact filled

theorem reads_branch (alternative : Alternative.ofName tag.name = .branch)
    (inside : CollectedAll mapper children) :
    Reads (.element tag children stop)
      (running mapper (⟨element, .choice branches fallback, []⟩ :: outer) found)
      (running mapper
        (⟨element, .choice
          (branches ++ [(tag.value "test", Node.joined (Tree.nodesOfAll mapper.nameSpace children))])
          fallback, []⟩ :: outer)
        (found ++ (tag.requiring (ownerIn mapper outer) "test"
          ++ Tree.findingsOfAll (ownerIn mapper outer) children))) := by
  have role : alternativeRole tag = .branch (tag.value "test") := by
    rw [alternativeRole, alternative]
  have findings : alternativeFindings (ownerIn mapper outer) tag
      = tag.requiring (ownerIn mapper outer) "test" := by
    rw [alternativeFindings, alternative]
  rw [← findings, ← List.append_assoc]
  apply reads_element openElement_choice
  · intro isEmpty
    apply readsAll_alternative isEmpty (by rw [role]; rfl) inside
  · intro isEmpty
    rw [role]
    rfl

theorem reads_fallback (alternative : Alternative.ofName tag.name = .fallback)
    (inside : CollectedAll mapper children) :
    Reads (.element tag children stop)
      (running mapper (⟨element, .choice branches fallback, []⟩ :: outer) found)
      (running mapper
        (⟨element, .choice branches
          (fallback <|> some (Node.joined (Tree.nodesOfAll mapper.nameSpace children))), []⟩ :: outer)
        (found ++ (Tree.findingsOfAll (ownerIn mapper outer) children
          ++ if fallback.isSome
            then [⟨.duplicateOtherwise, tag.span, none, ownerIn mapper outer⟩] else []))) := by
  have role : alternativeRole tag = .fallback := by
    rw [alternativeRole, alternative]
  have findings : alternativeFindings (ownerIn mapper outer) tag = [] := by
    rw [alternativeFindings, alternative]
  rw [← List.append_assoc]
  apply reads_element openElement_choice
  · intro isEmpty
    rw [findings, List.append_nil]
    apply readsAll_alternative isEmpty (by rw [role]; rfl) inside
  · intro isEmpty
    rw [role]
    cases fallback with
    | none =>
      rw [Option.isSome_none, if_neg Bool.false_ne_true, List.append_nil]
      rfl
    | some nodes => rfl

theorem reads_unknownAlternative (alternative : Alternative.ofName tag.name = .unknown) :
    Reads (.element tag children stop)
      (running mapper (⟨element, .choice branches fallback, []⟩ :: outer) found)
      (running mapper (⟨element, .choice branches fallback, []⟩ :: outer)
        (found ++ [tag.unknown (ownerIn mapper outer)])) := by
  have role : alternativeRole tag = .skipped none 0 := by
    rw [alternativeRole, alternative]
  have findings : alternativeFindings (ownerIn mapper outer) tag
      = [tag.unknown (ownerIn mapper outer)] := by
    rw [alternativeFindings, alternative]
  rw [← findings]
  apply reads_element openElement_choice
  · intro isEmpty
    rw [role]
    apply readsAll_skipped
  · intro isEmpty
    rfl

end

theorem Chosen.cons_element {rest : List Tree} (inside : CollectedAll mapper children)
    (others : Chosen mapper rest) : Chosen mapper (.element tag children stop :: rest) := by
  intro element branches fallback outer found
  rw [Tree.branches, Tree.fallbacks, Tree.choiceFindings]
  cases alternative : Alternative.ofName tag.name with
  | branch =>
    apply ReadsAll.cons (reads_branch alternative inside)
    have later := others element
      (branches ++ [(tag.value "test", Node.joined (Tree.nodesOfAll mapper.nameSpace children))])
      fallback outer (found ++ (tag.requiring (ownerIn mapper outer) "test"
        ++ Tree.findingsOfAll (ownerIn mapper outer) children))
    rw [List.append_assoc branches, List.singleton_append, List.append_assoc found] at later
    exact later
  | fallback =>
    apply ReadsAll.cons (reads_fallback alternative inside)
    -- From here on there is a fallback, be it this one or one before it.
    have later := others element branches
      (fallback <|> some (Node.joined (Tree.nodesOfAll mapper.nameSpace children))) outer
      (found ++ (Tree.findingsOfAll (ownerIn mapper outer) children
        ++ if fallback.isSome
          then [⟨.duplicateOtherwise, tag.span, none, ownerIn mapper outer⟩] else []))
    rw [List.append_assoc found] at later
    cases fallback <;> exact later
  | unknown =>
    apply ReadsAll.cons (reads_unknownAlternative alternative)
    have later := others element branches fallback outer
      (found ++ [tag.unknown (ownerIn mapper outer)])
    rw [List.append_assoc, List.singleton_append] at later
    exact later

/-! ### Every tree -/

mutual

/-- Every tree inside a template is read as its nodes and its findings. -/
theorem collected (mapper : Mapper) : (tree : Tree) → Collected mapper tree
  | .text content => collected_text content
  | .element _ children _ => collected_element (collectedAll mapper children) (chosen mapper children)

theorem collectedAll (mapper : Mapper) : (trees : List Tree) → CollectedAll mapper trees
  | [] => collectedAll_nil
  | tree :: rest => .cons (collected mapper tree) (collectedAll mapper rest)

theorem chosen (mapper : Mapper) : (trees : List Tree) → Chosen mapper trees
  | [] => chosen_nil
  | .text _ :: rest => .cons_text (chosen mapper rest)
  | .element _ children _ :: rest =>
    .cons_element (collectedAll mapper children) (chosen mapper rest)

end

end Reader

end SqlMapper
