import BundleMarkup.Proofs.Markup.DirectText

/-!
# Forms of children

Children have one of four forms: elements alone, a mixture of elements and text, one text, or
nothing.  Which one it is depends on the single pieces that they are made of, and there is exactly
one way to put pieces together.
-/

namespace BundleMarkup

/-- Children in the form that is proper to the pieces they are made of. -/
def Children.IsFormOf (nodes : List Node) : Children → Prop
  | .elements list => list ≠ [] ∧ list.map Node.element = nodes.filter (!·.isBlank)
  | .text content span =>
      (∀ node ∈ nodes, node.isElement = false) ∧
        content = String.join (nodes.filterMap Node.text?) ∧
        ∃ first ∈ nodes.head?, ∃ last ∈ nodes.getLast?,
          span = ⟨first.span.file, first.span.extent.start, last.span.extent.stop⟩
  | .mixed list =>
      (∃ node ∈ list, node.isElement = true) ∧ (∃ node ∈ list, node.isElement = false) ∧
        (∀ node ∈ list, node.isBlank = false) ∧ list = nodes.filter (!·.isBlank)
  | .empty => nodes = []

namespace Children

variable {nodes : List Node} {children : Children}

theorem isBlank_of_isElement {node : Node} (isElement : node.isElement = true) :
    node.isBlank = false := by
  cases node with
  | element child => rfl
  | text content span => cases isElement

/-- Pieces that are elements are no more than these. -/
theorem map_element_filterMap {list : List Node}
    (elements : ∀ node ∈ list, node.isElement = true) :
    (list.filterMap Node.element?).map Node.element = list := by
  induction list with
  | nil => rfl
  | cons node rest ih =>
      have later := ih fun other among => elements other (List.mem_cons_of_mem node among)
      cases node with
      | element child => exact congrArg (Node.element child :: ·) later
      | text content span => cases elements _ List.mem_cons_self

theorem filterMap_map_element (list : List Element) :
    (list.map Node.element).filterMap Node.element? = list := by
  rw [List.filterMap_map]
  exact List.filterMap_some

/-- An element among pieces is kept whatever is left out. -/
theorem exists_isElement_mem_kept (any : nodes.any Node.isElement = true) :
    ∃ node ∈ nodes.filter (!·.isBlank), node.isElement = true := by
  obtain ⟨node, among, isElement⟩ := List.any_eq_true.mp any
  have kept : (!node.isBlank) = true := by rw [isBlank_of_isElement isElement]; rfl
  exact ⟨node, List.mem_filter.mpr ⟨among, kept⟩, isElement⟩

theorem any_of_mem_kept {node : Node} (among : node ∈ nodes.filter (!·.isBlank))
    (isElement : node.isElement = true) : nodes.any Node.isElement = true :=
  List.any_eq_true.mpr ⟨node, List.mem_of_mem_filter among, isElement⟩

theorem ofNodes_of_any (any : nodes.any Node.isElement = true) :
    ofNodes nodes =
      if (nodes.filter (!·.isBlank)).all Node.isElement then
        .elements ((nodes.filter (!·.isBlank)).filterMap Node.element?)
      else .mixed (nodes.filter (!·.isBlank)) :=
  if_pos any

theorem any_eq_false :
    nodes.any Node.isElement = false ↔ ∀ node ∈ nodes, node.isElement = false := by
  simp

/-- Text alone is joined, blank pieces too, from the start of the first to the end of the last. -/
theorem ofNodes_of_texts (texts : ∀ node ∈ nodes, node.isElement = false) {first last : Node}
    (begins : nodes.head? = some first) (ends : nodes.getLast? = some last) :
    ofNodes nodes = .text (String.join (nodes.filterMap Node.text?))
      ⟨first.span.file, first.span.extent.start, last.span.extent.stop⟩ := by
  obtain ⟨others, rfl⟩ := List.head?_eq_some_iff.mp begins
  rw [List.getLast?_cons, ← List.getLastD_eq_getLast?] at ends
  obtain rfl := Option.some.inj ends
  rw [ofNodes, if_neg (by simpa using texts)]
  rfl

theorem isFormOf_ofNodes (nodes : List Node) : (ofNodes nodes).IsFormOf nodes := by
  cases any : nodes.any Node.isElement with
  | true =>
      obtain ⟨node, among, isElement⟩ := exists_isElement_mem_kept any
      rw [ofNodes_of_any any]
      split
      · rename_i elements
        have same := map_element_filterMap (List.all_eq_true.mp elements)
        refine ⟨fun nothing => ?_, same⟩
        rw [← same, nothing] at among
        cases among
      · rename_i others
        obtain ⟨other, among', isText⟩ := List.all_eq_false.mp (Bool.eq_false_iff.mpr others)
        refine ⟨⟨node, among, isElement⟩, ⟨other, among', Bool.eq_false_iff.mpr isText⟩, ?_, rfl⟩
        intro piece kept
        simpa using (List.mem_filter.mp kept).2
  | false =>
      have texts := any_eq_false.mp any
      cases nodes with
      | nil => rfl
      | cons first others =>
          have ends := List.getLast?_cons (a := first) (l := others)
          rw [ofNodes_of_texts texts rfl ends]
          exact ⟨texts, rfl, first, rfl, _, ends, rfl⟩

/-- Pieces determine the form of children, and the children in that form. -/
theorem eq_ofNodes_of_isFormOf (form : children.IsFormOf nodes) : children = ofNodes nodes := by
  cases children with
  | elements list =>
      obtain ⟨some, kept⟩ := form
      obtain ⟨first, others, rfl⟩ := List.exists_cons_of_ne_nil some
      have among : .element first ∈ nodes.filter (!·.isBlank) := kept ▸ List.mem_cons_self
      rw [ofNodes_of_any (any_of_mem_kept among rfl), ← kept, filterMap_map_element]
      exact (if_pos (by simp [Node.isElement])).symm
  | text content span =>
      obtain ⟨texts, rfl, first, begins, last, ends, rfl⟩ := form
      exact (ofNodes_of_texts texts begins ends).symm
  | mixed list =>
      obtain ⟨⟨node, among, isElement⟩, ⟨other, among', isText⟩, _, rfl⟩ := form
      rw [ofNodes_of_any (any_of_mem_kept among isElement)]
      refine (if_neg fun elements => ?_).symm
      rw [List.all_eq_true.mp elements other among'] at isText
      cases isText
  | empty =>
      obtain rfl : nodes = [] := form
      rfl

end Children

namespace Document

/--
Single pieces make children of the form that is proper to them, and no other: elements alone, at
least one; elements and text that is not blank, at least one of each; one text if no piece is an
element; nothing if there is no piece.  All elements among the pieces are kept, in order.  Where
there are none, the text is that of all pieces, in order and joined, from the start of the first to
the end of the last.  The children of every element of a document are in the form of the pieces
directly between its tags.
-/
theorem children_isFormOf :
    (∀ nodes, (Children.ofNodes nodes).IsFormOf nodes ∧
      (∀ children : Children, children.IsFormOf nodes → children = .ofNodes nodes) ∧
      (Children.ofNodes nodes).childElements = nodes.filterMap Node.element? ∧
      ((∀ node ∈ nodes, node.isElement = false) → ∀ first ∈ nodes.head?, ∀ last ∈ nodes.getLast?,
        Children.ofNodes nodes = .text (String.join (nodes.filterMap Node.text?))
          ⟨first.span.file, first.span.extent.start, last.span.extent.stop⟩)) ∧
    ∀ file input document, read file input = .ok document →
      ∀ element, document.root.Within element →
        ∃ nodes, (Scan.ofText input).contentOf element = nodes.map Node.text? ∧
          element.children.IsFormOf nodes ∧
          element.childElements = nodes.filterMap Node.element? := by
  constructor
  · intro nodes
    refine ⟨Children.isFormOf_ofNodes nodes, fun _ => Children.eq_ofNodes_of_isFormOf,
      Children.childElements_ofNodes nodes, fun texts first begins last ends => ?_⟩
    exact Children.ofNodes_of_texts texts begins ends
  · intro file input document reads element within
    obtain ⟨nodes, children, same⟩ := exists_nodes_of_within reads within
    refine ⟨nodes, same, ?_, ?_⟩
    · rw [children]
      exact Children.isFormOf_ofNodes nodes
    · rw [Element.childElements, children, Children.childElements_ofNodes]

/-- White space in three pieces, one of them empty, and a document with blanks before a child. -/
theorem children_isFormOf_pieces :
    let pieces : List Node := [.text " " (.ofOffsets ⟨1⟩ 3 4), .text "" (.ofOffsets ⟨1⟩ 4 16),
      .text "\n" (.ofOffsets ⟨1⟩ 16 17)]
    let input := "<a> <b/>x<![CDATA[]]></a>".toList
    (∀ node ∈ pieces, node.isElement = false) ∧
    Children.ofNodes pieces = .text " \n" (.ofOffsets ⟨1⟩ 3 17) ∧
    ∃ document, read default input = .ok document ∧ document.root.Within document.root ∧
      ∃ nodes, nodes.map Node.text? = [some " ", none, some "x", some ""] ∧
        document.root.children.IsFormOf nodes ∧
        document.root.childElements = nodes.filterMap Node.element? := by
  intro pieces input
  have texts : ∀ node ∈ pieces, node.isElement = false := by decide
  obtain ⟨made, within⟩ := children_isFormOf
  obtain ⟨_, _, _, joined⟩ := made pieces
  have facts : (read default input).toOption.map
      (fun document => (Scan.ofText input).contentOf document.root) =
        some [some " ", none, some "x", some ""] := by
    decide +kernel
  obtain ⟨document, reads, content⟩ := exists_of_map_read facts
  obtain ⟨nodes, same, form, elements⟩ := within default input document reads _ .self
  exact ⟨texts, joined texts _ rfl _ rfl, document, reads, .self, nodes, same.symm.trans content,
    form, elements⟩

end Document
end BundleMarkup
