import BundleMarkup.Proofs.Markup.Events

/-!
# Nesting

A document has exactly the elements that the events of its text begin, in order and as deep as they
say.  A construction is compared with the events read so far: the elements of its root and of its
stack, in preorder, are those begun.
-/

namespace BundleMarkup

namespace Element

/-- The start tag that gives an element its name, attributes and declarations. -/
def tag (element : Element) : ElementTag :=
  { name := element.name
    nameSpan := element.nameSpan
    attributes := element.attributes
    declarations := element.declarations }

/-- The tags of an element at a depth and of the elements inside it, each with its depth. -/
def preorder (depth : Nat) (element : Element) : List (Nat × ElementTag) :=
  (depth, element.tag) ::
    element.childElements.attach.flatMap fun ⟨child, _⟩ => preorder (depth + 1) child
termination_by sizeOf element
decreasing_by exact sizeOf_lt_of_mem_childElements ‹_›

theorem preorder_eq (depth : Nat) (element : Element) :
    element.preorder depth =
      (depth, element.tag) :: element.childElements.flatMap (preorder (depth + 1)) := by
  rw [preorder, List.flatMap_subtype (g := preorder (depth + 1)) fun _ _ => rfl,
    List.unattach_attach]

end Element

theorem Children.childElements_ofNodes (nodes : List Node) :
    (Children.ofNodes nodes).childElements = nodes.filterMap Node.element? := by
  have kept : (nodes.filter (!·.isBlank)).filterMap Node.element? =
      nodes.filterMap Node.element? := by
    rw [List.filterMap_filter]
    congr 1
    funext node
    cases node with
    | element child => rfl
    | text content span => simp [Node.element?]
  unfold ofNodes
  split
  · simp only []
    split
    · exact kept
    · exact kept
  · rename_i without
    have texts : nodes.filterMap Node.element? = [] := by
      rw [List.filterMap_eq_nil_iff]
      intro node among
      cases node with
      | element child => exact absurd (List.any_eq_true.mpr ⟨_, among, rfl⟩) without
      | text content span => rfl
    rw [texts]
    cases nodes <;> rfl

namespace OpenElement

/-- The tag that opened an element. -/
def opening (element : OpenElement) : Opening :=
  { tag :=
      { name := element.name
        nameSpan := element.nameSpan
        attributes := element.attributes
        declarations := element.declarations }
    start := element.start }

/-- The tags of an open element at a depth and of the elements read inside it so far. -/
def preorder (depth : Nat) (element : OpenElement) : List (Nat × ElementTag) :=
  (depth, element.opening.tag) ::
    (element.nodes.reverse.filterMap Node.element?).flatMap (Element.preorder (depth + 1))

theorem preorder_close (element : OpenElement) (origin : Origin) (stop depth : Nat) :
    (element.close origin stop).preorder depth = element.preorder depth := by
  rw [Element.preorder_eq, preorder]
  simp only [close, Element.childElements, Children.childElements_ofNodes]
  rfl

theorem preorder_push_element (element : OpenElement) (child : Element) (depth : Nat) :
    (element.push (.element child)).preorder depth =
      element.preorder depth ++ child.preorder (depth + 1) := by
  simp [preorder, push, opening, Node.element?]

theorem preorder_push_text (element : OpenElement) (content : String) (span : SourceSpan)
    (depth : Nat) :
    (element.push (.text content span)).preorder depth = element.preorder depth := by
  simp [preorder, push, opening, Node.element?]

/-- The tags of open elements, innermost first, and of the elements read inside them so far. -/
def preorderAll : List OpenElement → List (Nat × ElementTag)
  | [] => []
  | element :: outer => preorderAll outer ++ element.preorder outer.length

end OpenElement

namespace Construction

/-- The open elements of a construction by their tags, innermost first. -/
def around (state : Construction) : List Opening := state.stack.map OpenElement.opening

/-- The tags of the elements of a construction in preorder, each with its depth. -/
def preorder (state : Construction) : List (Nat × ElementTag) :=
  state.root.toList.flatMap (Element.preorder 0) ++ OpenElement.preorderAll state.stack

/-- The places of the elements of a construction that are completed outside all others. -/
def completed (state : Construction) : List SourceSpan := state.root.toList.map Element.span

/-- A construction is what another becomes by an event that begins the given elements. -/
structure Grows (origin : Origin) (state : Construction) (event : Event) (next : Construction) :
    Prop where
  /-- The open elements are those after the event. -/
  around : next.around = event.openAfter state.around
  /-- What the event begins comes last. -/
  preorder : next.preorder =
    state.preorder ++ event.opening?.toList.map fun opening => (state.around.length, opening.tag)
  /-- What the event completes comes last. -/
  completed : next.completed =
    state.completed ++ (event.completed? origin state.around).toList

theorem frames_eq (state : Construction) :
    state.frames = state.around.map (·.tag.declarations) := by
  simp [frames, around, OpenElement.opening]

/-- A complete element goes to the innermost open element, or is the root unless there is one. -/
theorem attach_eq (state : Construction) (element : Element) :
    (state.around = [] ∧ state.completed ≠ [] ∧
      state.attach element = .error (.manyRoots (some element.span))) ∨
    ∃ next, state.attach element = .ok next ∧ next.around = state.around ∧
      next.preorder = state.preorder ++ element.preorder state.around.length ∧
      next.completed = state.completed ++ if state.around = [] then [element.span] else [] := by
  obtain ⟨stack, root⟩ := state
  cases stack with
  | nil =>
      cases root with
      | some root => exact .inl ⟨rfl, by simp [completed], rfl⟩
      | none =>
          refine .inr ⟨_, rfl, rfl, ?_, rfl⟩
          simp [preorder, OpenElement.preorderAll, around]
  | cons parent outer =>
      refine .inr ⟨_, rfl, rfl, ?_, ?_⟩
      · simp [preorder, OpenElement.preorderAll, OpenElement.preorder_push_element, around]
      · simp [completed, around]

theorem grows_aside (origin : Origin) (state : Construction) :
    state.Grows origin .aside state where
  around := rfl
  preorder := (List.append_nil _).symm
  completed := (List.append_nil _).symm

theorem grows_addText (origin : Origin) (state : Construction) (content : List Char)
    (span : SourceSpan) : state.Grows origin .aside (state.addText content span) := by
  obtain ⟨stack, root⟩ := state
  cases stack with
  | nil => exact grows_aside origin _
  | cons parent outer =>
      refine ⟨rfl, ?_, (List.append_nil _).symm⟩
      simp [preorder, addText, OpenElement.preorderAll, OpenElement.preorder_push_text,
        Event.opening?]

theorem grows_opening (origin : Origin) (state : Construction) (tag : ElementTag) (start : Nat) :
    state.Grows origin (.opening ⟨tag, start⟩)
      { state with stack := .ofTag tag start :: state.stack } where
  around := rfl
  preorder := by
    simp [preorder, OpenElement.preorderAll, OpenElement.preorder, OpenElement.ofTag,
      OpenElement.opening, Event.opening?, around]
  completed := (List.append_nil _).symm

/-- An empty tag makes a construction grow by an element, or completes a second root. -/
theorem attach_single (origin : Origin) (state : Construction) (tag : ElementTag)
    (start stop : Nat) :
    let event := Event.single ⟨tag, start⟩ stop
    let attached := state.attach ((OpenElement.ofTag tag start).close origin stop)
    (∃ span, state.completed ≠ [] ∧ event.completed? origin state.around = some span ∧
      attached = .error (.manyRoots (some span))) ∨
    ∃ next, attached = .ok next ∧ state.Grows origin event next := by
  intro event attached
  obtain ⟨outside, second, refused⟩ | ⟨next, attaches, same, grown, complete⟩ :=
    state.attach_eq ((OpenElement.ofTag tag start).close origin stop)
  · exact .inl ⟨_, second, if_pos outside, refused⟩
  · refine .inr ⟨next, attaches, same, ?_, ?_⟩
    · rw [grown, OpenElement.preorder_close]
      rfl
    · rw [complete]
      simp only [event, Event.completed?]
      split <;> rfl

/-- An end tag makes a construction grow, or completes a second root. -/
theorem close_of_matching (origin : Origin) {state : Construction} {innermost : Opening}
    (matching : state.around.head? = some innermost) (start stop : Nat) :
    let event := Event.closing stop
    let closed := close origin state innermost.tag.name.written start stop
    (∃ span, state.completed ≠ [] ∧ event.completed? origin state.around = some span ∧
      closed = .error (.manyRoots (some span))) ∨
    ∃ next, closed = .ok next ∧ state.Grows origin event next := by
  intro event closed
  obtain ⟨stack, root⟩ := state
  cases stack with
  | nil => simp [around] at matching
  | cons element outer =>
      obtain rfl : element.opening = innermost := by simpa [around] using matching
      have closed_eq : closed = attach ⟨outer, root⟩ (element.close origin stop) := if_pos rfl
      have before : preorder ⟨element :: outer, root⟩ =
          preorder ⟨outer, root⟩ ++ element.preorder outer.length := by
        simp [preorder, OpenElement.preorderAll]
      obtain ⟨outside, second, refused⟩ | ⟨next, attaches, same, grown, complete⟩ :=
        attach_eq ⟨outer, root⟩ (element.close origin stop)
      · obtain rfl : outer = [] := List.map_eq_nil_iff.mp outside
        exact .inl ⟨_, second, rfl, closed_eq.trans refused⟩
      · refine .inr ⟨next, closed_eq.trans attaches, same, ?_, ?_⟩
        · rw [grown, before, OpenElement.preorder_close]
          simp [event, around, Event.opening?]
        · rw [complete]
          cases outer <;> rfl

/-- A lexeme that is an event makes a construction grow, or completes a second root. -/
theorem step_of_isEvent {origin : Origin} {state : Construction} {lexeme : Lexeme} {event : Event}
    (is : lexeme.IsEvent origin state.around event) :
    (∃ span, state.completed ≠ [] ∧ event.completed? origin state.around = some span ∧
      step origin state lexeme = .error (.manyRoots (some span))) ∨
    ∃ next, step origin state lexeme = .ok next ∧ state.Grows origin event next := by
  cases is with
  | startTag reads =>
      rw [← frames_eq] at reads
      refine .inr ⟨_, ?_, grows_opening origin state _ _⟩
      simp only [step, reads]
      rfl
  | emptyTag reads =>
      rw [← frames_eq] at reads
      simp only [step, reads]
      exact attach_single origin state _ _ _
  | endTag matching same =>
      simp only [step, same]
      exact close_of_matching origin matching _ _
  | text decodes =>
      simp only [step, decodes]
      exact .inr ⟨_, rfl, grows_addText origin state _ _⟩
  | characterData => exact .inr ⟨_, rfl, grows_addText origin state _ _⟩
  | comment => exact .inr ⟨_, rfl, grows_aside origin state⟩
  | instruction => exact .inr ⟨_, rfl, grows_aside origin state⟩
  | doctype => exact .inr ⟨_, rfl, grows_aside origin state⟩

theorem length_completed_le (state : Construction) : state.completed.length ≤ 1 := by
  obtain ⟨stack, root⟩ := state
  cases root <;> simp [completed]

/-- Over lexemes that are events a construction grows by all of them, up to a second root. -/
theorem foldlM_step_of_areEvents {origin : Origin} {around : List Opening} {lexemes : List Lexeme}
    {events : List Event} (are : Lexeme.AreEvents origin around lexemes events)
    {state : Construction} (same : state.around = around) :
    (∃ span, (state.completed ++ Event.completed origin around events)[1]? = some span ∧
      lexemes.foldlM (step origin) state = .error (.manyRoots (some span))) ∨
    ∃ last, lexemes.foldlM (step origin) state = .ok last ∧
      last.around = Event.unclosed around events ∧
      last.preorder = state.preorder ++ Event.openings around events ∧
      last.completed = state.completed ++ Event.completed origin around events := by
  induction are generalizing state with
  | nil around =>
      exact .inr ⟨state, rfl, same, (List.append_nil _).symm, (List.append_nil _).symm⟩
  | @cons around lexeme event lexemes events first later ih =>
      subst same
      rw [List.foldlM_cons]
      obtain ⟨span, second, completes, refused⟩ | ⟨next, steps, grows⟩ := step_of_isEvent first
      · refine .inl ⟨span, ?_, by rw [refused]; rfl⟩
        obtain ⟨root, only⟩ : ∃ root, state.completed = [root] := by
          have := state.length_completed_le
          have := List.length_pos_iff.mpr second
          exact List.length_eq_one_iff.mp (by omega)
        simp [only, Event.completed, completes]
      · have completed_eq : next.completed ++
            Event.completed origin (event.openAfter state.around) events =
            state.completed ++ Event.completed origin state.around (event :: events) := by
          rw [grows.completed, Event.completed, List.append_assoc]
        have preorder_eq : next.preorder ++
            Event.openings (event.openAfter state.around) events =
            state.preorder ++ Event.openings state.around (event :: events) := by
          rw [grows.preorder, Event.openings, List.append_assoc]
        rw [steps, ← completed_eq, ← preorder_eq]
        exact ih grows.around

/-- The first lexeme that cannot be read ends a construction, whatever comes after it. -/
theorem foldlM_step_of_fails {origin : Origin} {before after : List Lexeme} {events : List Event}
    {lexeme : Lexeme} {error : MarkupError} (are : Lexeme.AreEvents origin [] before events)
    (single : (Event.completed origin [] events).length ≤ 1)
    (fails : ∀ state : Construction, state.around = Event.unclosed [] events →
      step origin state lexeme = .error error) :
    (before ++ lexeme :: after).foldlM (step origin) .initial = .error error := by
  rw [List.foldlM_append]
  obtain ⟨span, second, _⟩ | ⟨last, built, around, _, _⟩ :=
    foldlM_step_of_areEvents are (show initial.around = [] from rfl)
  · obtain ⟨several, _⟩ := List.getElem?_eq_some_iff.mp second
    exact absurd single (Nat.not_le_of_lt several)
  · rw [built]
    simp only [bind, Except.bind, List.foldlM_cons, fails last around]

theorem finish_of_around {state : Construction} {innermost : Opening} {outside : List Opening}
    (opens : state.around = innermost :: outside) :
    state.finish = .error (.unfinished s!"closing tag </{innermost.tag.name.written}>"
      (some innermost.tag.nameSpan)) := by
  obtain ⟨stack, root⟩ := state
  obtain ⟨element, outer, rfl, rfl, -⟩ := List.map_eq_cons_iff.mp opens
  rfl

/-- Without open elements, a construction with elements is that of a root. -/
theorem finish_of_preorder {state : Construction} (closed : state.around = [])
    (elements : state.preorder ≠ []) :
    ∃ root, state.finish = .ok root ∧ root.preorder 0 = state.preorder := by
  obtain ⟨stack, root⟩ := state
  obtain rfl : stack = [] := List.map_eq_nil_iff.mp closed
  cases root with
  | none => exact absurd rfl elements
  | some root => exact ⟨root, rfl, by simp [preorder, OpenElement.preorderAll]⟩

theorem eq_initial_of_preorder {state : Construction} (none : state.preorder = []) :
    state = .initial := by
  obtain ⟨stack, root⟩ := state
  cases stack with
  | cons element outer => simp [preorder, OpenElement.preorderAll, OpenElement.preorder] at none
  | nil =>
      cases root with
      | none => rfl
      | some root => simp [preorder, Element.preorder_eq] at none

end Construction

namespace Document

/-- A text without a bad token is read by a construction that takes its lexemes and is finished. -/
theorem read_of_whole (file : FileId) {input : List Char}
    (whole : (Scan.ofText input).fault = none) :
    read file input = do
      let last ← (Scan.ofText input).lexemes.foldlM
        (Construction.step ⟨file, .ofText input⟩) .initial
      let root ← last.finish
      return ⟨root, (LineIndex.ofText input).span file 0 (LineIndex.ofText input).size⟩ := by
  simp only [read, rootOfScan, whole, bind_assoc]
  rfl

/--
Reading a text whose lexemes are events fails at the second element that is completed outside all
others, or else at the innermost element that is left open, or else where no element is begun, and
otherwise gives the document whose elements, in preorder, are those that the events begin.
-/
theorem read_of_areEvents (file : FileId) (input : List Char) (events : List Event)
    (whole : (Scan.ofText input).fault = none)
    (are : Lexeme.AreEvents ⟨file, .ofText input⟩ [] (Scan.ofText input).lexemes events) :
    let completed := Event.completed ⟨file, .ofText input⟩ [] events
    (∀ first second later, completed = first :: second :: later →
      read file input = .error (.manyRoots (some second))) ∧
    (∀ innermost outside, completed.length ≤ 1 →
      Event.unclosed [] events = innermost :: outside →
      read file input = .error (.unfinished s!"closing tag </{innermost.tag.name.written}>"
        (some innermost.tag.nameSpan))) ∧
    (Event.openings [] events = [] → read file input = .error .noRoot) ∧
    (completed.length ≤ 1 → Event.unclosed [] events = [] → Event.openings [] events ≠ [] →
      ∃ document, read file input = .ok document ∧
        document.root.preorder 0 = Event.openings [] events) := by
  intro completed
  obtain ⟨span, second, refused⟩ | ⟨last, built, opens, grown, complete⟩ :=
    Construction.foldlM_step_of_areEvents are (show Construction.initial.around = [] from rfl)
  · obtain ⟨several, rfl⟩ : ∃ several : 1 < completed.length, completed[1] = span :=
      List.getElem?_eq_some_iff.mp second
    refine ⟨?_, ?_, ?_, ?_⟩
    · intro first second later two
      rw [read_of_whole file whole, refused]
      simp only [two]
      rfl
    · intro _ _ few
      omega
    · intro none
      rw [show completed = [] from Event.completed_eq_nil none] at several
      exact absurd several (by decide)
    · intro few
      omega
  · have few : completed.length ≤ 1 := by
      have := last.length_completed_le
      rw [complete] at this
      exact this
    refine ⟨?_, ?_, ?_, ?_⟩
    · intro first second later two
      rw [two, List.length_cons, List.length_cons] at few
      omega
    · intro innermost outside _ unclosed
      have finishes := Construction.finish_of_around (opens.trans unclosed)
      rw [read_of_whole file whole, built]
      simp only [bind, Except.bind, finishes]
    · intro none
      obtain rfl : last = .initial := Construction.eq_initial_of_preorder (grown.trans none)
      rw [read_of_whole file whole, built]
      rfl
    · intro _ closed elements
      obtain ⟨root, finishes, preorder⟩ :=
        Construction.finish_of_preorder (opens.trans closed) (by rwa [grown])
      rw [read_of_whole file whole, built]
      simp only [bind, Except.bind, finishes]
      exact ⟨_, rfl, preorder.trans grown⟩

/-- An element with text and one without, both inside a third. -/
theorem read_of_areEvents_inside :
    let input := ['<', 'a', '>', '<', 'b', '>', 'x', '<', '/', 'b', '>', '<', 'c', '/', '>',
      '<', '/', 'a', '>']
    let origin : Origin := ⟨default, .ofText input⟩
    let tag (name : String) (start : Nat) : ElementTag :=
      ⟨⟨none, name, none⟩, origin.span (start + 1) (start + 2), [], []⟩
    let events : List Event :=
      [.opening ⟨tag "a" 0, 0⟩, .opening ⟨tag "b" 3, 3⟩, .aside, .closing 11,
        .single ⟨tag "c" 11, 11⟩ 15, .closing 19]
    (Scan.ofText input).fault = none ∧
      Lexeme.AreEvents origin [] (Scan.ofText input).lexemes events ∧
      (Event.completed origin [] events).length = 1 ∧ Event.unclosed [] events = [] ∧
      ∃ document, read default input = .ok document ∧
        document.root.preorder 0 = [(0, tag "a" 0), (1, tag "b" 3), (1, tag "c" 11)] := by
  intro input origin tag events
  have scan : Scan.ofText input =
      ⟨[⟨.startTag ['a'], 0, 3⟩, ⟨.startTag ['b'], 3, 6⟩, ⟨.text ['x'], 6, 7⟩,
        ⟨.endTag ['b'], 7, 11⟩, ⟨.emptyTag ['c'], 11, 15⟩, ⟨.endTag ['a'], 15, 19⟩], none⟩ := by
    decide +kernel
  have whole : (Scan.ofText input).fault = none := by rw [scan]
  have are : Lexeme.AreEvents origin [] (Scan.ofText input).lexemes events := by
    have reads (name : Char) (start : Nat) (outer : List (List Declaration))
        (letter : name ∈ ['a', 'b', 'c']) (unbound : Binding.declaration? outer none = none) :
        ElementTag.read origin outer start [name] =
          .ok ⟨⟨none, String.ofList [name], none⟩,
            origin.span (start + 1) (start + 1 + Text.byteLength [name]), [], []⟩ := by
      simp only [List.mem_cons, List.not_mem_nil, or_false] at letter
      obtain rfl | rfl | rfl := letter <;>
        exact ElementTag.read_bare origin start (List.all_eq_true.mp rfl) (by decide) unbound
    have decodes : Reference.decode ['x'] = .ok ['x'] := by
      rw [Reference.decode, Reference.decodeFrom, if_neg (by decide), Reference.decodeFrom]
      rfl
    rw [scan]
    exact .cons (.startTag (reads 'a' 0 [] (by decide) rfl)) <|
      .cons (.startTag (reads 'b' 3 [[]] (by decide) rfl)) <|
      .cons (.text decodes) <| .cons (.endTag rfl rfl) <|
      .cons (.emptyTag (reads 'c' 11 [[]] (by decide) rfl)) <| .cons (.endTag rfl rfl) (.nil _)
  obtain ⟨_, _, _, read_eq⟩ := read_of_areEvents default input events whole are
  exact ⟨whole, are, rfl, rfl, read_eq (Nat.le_refl 1) rfl (List.cons_ne_nil _ _)⟩

end Document
end BundleMarkup
