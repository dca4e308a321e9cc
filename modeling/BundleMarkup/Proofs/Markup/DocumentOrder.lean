import BundleMarkup.Proofs.Markup.Containment

/-!
# Document order

The elements of a document in the order of their start tags.  Each starts behind the one before it,
since what is inside an element starts behind its bracket and stops before the next one starts; so
elements are told apart by where they are.
-/

namespace BundleMarkup

namespace Element

/-- An element and the elements inside it, at any depth, each before those inside it. -/
def inOrder (element : Element) : List Element :=
  element :: element.childElements.attach.flatMap fun ⟨child, _⟩ => inOrder child
termination_by sizeOf element
decreasing_by exact sizeOf_lt_of_mem_childElements ‹_›

theorem inOrder_eq (element : Element) :
    element.inOrder = element :: element.childElements.flatMap inOrder := by
  rw [inOrder, List.flatMap_subtype (g := inOrder) fun _ _ => rfl, List.unattach_attach]

theorem mem_inOrder_self (element : Element) : element ∈ element.inOrder := by
  rw [inOrder_eq]
  exact List.mem_cons_self

theorem mem_inOrder_child {root parent child : Element} (inside : parent ∈ root.inOrder)
    (among : child ∈ parent.childElements) : child ∈ root.inOrder := by
  induction root using children_induction with
  | parent root ih =>
      rw [inOrder_eq] at inside ⊢
      rcases List.mem_cons.mp inside with rfl | deeper
      · exact List.mem_cons_of_mem _ (List.mem_flatMap.mpr ⟨child, among, child.mem_inOrder_self⟩)
      · obtain ⟨next, member, inside⟩ := List.mem_flatMap.mp deeper
        exact List.mem_cons_of_mem _ (List.mem_flatMap.mpr ⟨next, member, ih next member inside⟩)

theorem Within.trans {root middle inner : Element} (first : root.Within middle)
    (second : middle.Within inner) : root.Within inner := by
  induction second with
  | self => exact first
  | child _ among ih => exact .child ih among

/-- In order stand an element and all that is inside it. -/
theorem mem_inOrder {root element : Element} : element ∈ root.inOrder ↔ root.Within element := by
  constructor
  · intro among
    induction root using children_induction with
    | parent root ih =>
        rw [inOrder_eq] at among
        rcases List.mem_cons.mp among with rfl | deeper
        · exact .self
        · obtain ⟨child, member, inside⟩ := List.mem_flatMap.mp deeper
          exact Within.trans (.child .self member) (ih child member inside)
  · intro within
    induction within with
    | self => exact root.mem_inOrder_self
    | child _ among ih => exact mem_inOrder_child ih among

end Element

namespace Document

variable {file : FileId} {input : List Char} {document : Document}

/-- The elements in an element start inside it, one behind another. -/
theorem start_inOrder_of_within (reads : read file input = .ok document) {element : Element}
    (within : document.root.Within element) :
    (∀ inner ∈ element.inOrder,
      element.span.start ≤ inner.span.start ∧ inner.span.start < element.span.stop) ∧
    element.inOrder.Pairwise fun inner later => inner.span.start < later.span.start := by
  induction element using Element.children_induction with
  | parent element ih =>
      have row := areInRow_childElements_of_within reads within
      have forward := start_lt_stop_of_within reads within
      have inside (child : Element) (among : child ∈ element.childElements) :=
        ih child among (.child within among)
      have bounds (child : Element) (among : child ∈ element.childElements) :
          element.span.start < child.span.start ∧ child.span.stop ≤ element.span.stop := by
        have between := row.between _ (List.mem_map_of_mem among)
        exact ⟨between.le_start, (between.liesIn le_rfl).bound⟩
      rw [Element.inOrder_eq]
      constructor
      · intro inner among
        rcases List.mem_cons.mp among with rfl | deeper
        · exact ⟨le_rfl, forward⟩
        · obtain ⟨child, member, among⟩ := List.mem_flatMap.mp deeper
          have own := (inside child member).1 inner among
          have := bounds child member
          omega
      · refine List.pairwise_cons.mpr ⟨fun inner deeper => ?_, ?_⟩
        · obtain ⟨child, member, among⟩ := List.mem_flatMap.mp deeper
          exact (bounds child member).1.trans_le ((inside child member).1 inner among).1
        · refine List.pairwise_flatMap.mpr ⟨fun child member => (inside child member).2, ?_⟩
          refine (List.pairwise_map.mp row.apart).imp_of_mem fun member member' apart => ?_
          intro inner among later among'
          have := (inside _ member).1 inner among
          have := (inside _ member').1 later among'
          omega

/-- The elements of a document start one behind another. -/
theorem increasing_start_inOrder (reads : read file input = .ok document) :
    document.root.inOrder.Pairwise fun element later => element.span.start < later.span.start :=
  (start_inOrder_of_within reads .self).2

/-- The elements of a document are told apart by where they start, so by where they are. -/
theorem nodup_span_inOrder (reads : read file input = .ok document) :
    (document.root.inOrder.map Element.span).Nodup := by
  rw [List.nodup_iff_pairwise_ne, List.pairwise_map]
  exact (increasing_start_inOrder reads).imp fun before same =>
    before.ne (congrArg SourceSpan.start same)

/-- All places in a document lie in its text. -/
theorem liesIn_of_mem_inOrder (reads : read file input = .ok document) {span : SourceSpan}
    (among : span ∈ document.root.inOrder.map Element.span ++
      document.root.inOrder.flatMap Element.places) :
    span.LiesIn file (Text.byteLength input) := by
  rcases List.mem_append.mp among with whole | part
  · obtain ⟨element, member, rfl⟩ := List.mem_map.mp whole
    exact liesIn_of_within reads (Element.mem_inOrder.mp member) _ List.mem_cons_self
  · obtain ⟨element, member, inside⟩ := List.mem_flatMap.mp part
    exact liesIn_of_within reads (Element.mem_inOrder.mp member) span
      (List.mem_cons_of_mem _ inside)

end Document
end BundleMarkup
