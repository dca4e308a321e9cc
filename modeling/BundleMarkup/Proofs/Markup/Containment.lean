import BundleMarkup.Proofs.Markup.AttributePlaces
import BundleMarkup.Proofs.Markup.Writing
import BundleMarkup.Proofs.Source.Lines

/-!
# Containment

An element contains all that is placed inside it, and its children stand in it one behind another.
Pieces that are read one after another are placed so, blank text that is left out leaves a gap, and
text that is joined reaches from its first piece to its last.  Offsets fall short of the text by its
byte-order mark, never beyond it, so all places have rows and columns.
-/

namespace BundleMarkup

/-- A span lies in a file of a given size. -/
structure SourceSpan.LiesIn (file : FileId) (size : Nat) (span : SourceSpan) : Prop where
  file : span.file = file
  ordered : span.start ≤ span.stop
  bound : span.stop ≤ size

/-- A span of a text starts and stops between two offsets. -/
def SourceSpan.IsBetween (origin : Origin) (low high : Nat) (span : SourceSpan) : Prop :=
  ∃ start stop, span = origin.span start stop ∧ low ≤ start ∧ start ≤ stop ∧ stop ≤ high

namespace SourceSpan.IsBetween

variable {origin : Origin} {low high : Nat} {span : SourceSpan}

theorem mono (between : span.IsBetween origin low high) {low' high' : Nat} (below : low' ≤ low)
    (above : high ≤ high') : span.IsBetween origin low' high' := by
  obtain ⟨start, stop, rfl, starts, ordered, stops⟩ := between
  exact ⟨start, stop, rfl, below.trans starts, ordered, stops.trans above⟩

theorem le_start (between : span.IsBetween origin low high) : low ≤ span.start := by
  obtain ⟨start, stop, rfl, starts, _⟩ := between
  rwa [Origin.start_span]

theorem liesIn (between : span.IsBetween origin low high) {size : Nat} (bound : high ≤ size) :
    span.LiesIn origin.file size := by
  obtain ⟨start, stop, rfl, _, ordered, stops⟩ := between
  exact ⟨origin.file_span start stop, by simpa, by simpa using stops.trans bound⟩

end SourceSpan.IsBetween

/-- The places of an element's name and of the names and values of its attributes. -/
def Element.places (element : Element) : List SourceSpan :=
  element.nameSpan :: element.attributes.flatMap fun attr => [attr.nameSpan, attr.valueSpan]

/-- The attributes proper of a tag are placed inside the tag, behind the cursor. -/
theorem TagItem.isBetween_of_ofAttributes {origin : Origin} {start cursor : Nat}
    {content : List Char} {raws : List RawAttribute}
    (areFound : AttributePlace.AreFound content cursor raws) {items : List TagItem}
    (taken : ofAttributes origin start content cursor raws = .ok items) :
    let low := start + 1 + cursor
    let high := start + 1 + Text.byteLength content
    ∀ item ∈ items.filterMap attribute?,
      item.nameSpan.IsBetween origin low high ∧ item.valueSpan.IsBetween origin low high := by
  induction areFound generalizing items with
  | nil =>
      obtain rfl := Except.ok.inj taken
      exact nofun
  | cons isFound _ ih =>
      obtain ⟨value, rest, _, run, rfl⟩ := ofAttributes_cons_eq_ok.mp taken
      obtain ⟨behind, name, apart, quoted⟩ := isFound.ordered
      obtain ⟨_, _, _, sliced⟩ := isFound.value
      have inside := Text.stop_le_of_slice? sliced quoted.le
      intro low high item among
      obtain ⟨made, member, found⟩ := List.mem_filterMap.mp among
      rcases List.mem_cons.mp member with rfl | later
      · rw [eq_of_attribute?_ofPlace found]
        exact ⟨⟨_, _, rfl, by omega, by omega, by omega⟩, ⟨_, _, rfl, by omega, by omega, by omega⟩⟩
      · obtain ⟨nameBetween, valueBetween⟩ :=
          ih run item (List.mem_filterMap.mpr ⟨made, later, found⟩)
        exact ⟨nameBetween.mono (by omega) le_rfl, valueBetween.mono (by omega) le_rfl⟩

theorem Scan.byteLength_withoutMark_le (input : List Char) :
    Text.byteLength (withoutMark input) ≤ Text.byteLength input := by
  cases input with
  | nil => exact Nat.le_refl _
  | cons char rest =>
      rw [withoutMark]
      split
      · rw [Text.byteLength_cons]
        exact Nat.le_add_left ..
      · exact Nat.le_refl _

namespace Document

variable {file : FileId} {input : List Char} {document : Document}

/-- An element lies in the text, and the names and values of its tag lie in the element. -/
theorem isBetween_of_within (reads : read file input = .ok document) {element : Element}
    (within : document.root.Within element) :
    let origin : Origin := ⟨file, .ofText input⟩
    element.span.stop ≤ Text.byteLength input ∧
      ∀ span ∈ element.span :: element.places,
        span.IsBetween origin element.span.start element.span.stop := by
  intro origin
  obtain ⟨front, content, inner, back, outer, text, tag, whole⟩ :=
    exists_written_of_within reads within
  obtain ⟨items, isRead⟩ := ElementTag.exists_items_of_read tag
  have size := Scan.byteLength_withoutMark_le input
  have bracket : '<'.utf8Size = 1 := rfl
  have last : Text.byteLength ['>'] = 1 := rfl
  simp only [text, Text.byteLength_append, Text.byteLength_cons, bracket, last] at size
  rw [whole, Origin.start_span, Origin.stop_span]
  simp only [Text.byteLength_append, Text.byteLength_cons, bracket, last]
  refine ⟨by omega, fun span among => ?_⟩
  rcases List.mem_cons.mp among with rfl | among
  · exact ⟨_, _, rfl, le_rfl, by omega, le_rfl⟩
  · rcases List.mem_cons.mp among with rfl | among
    · have name : Text.byteLength (TagContent.nameOf content) ≤ Text.byteLength content := by
        have split := congrArg Text.byteLength
          (List.takeWhile_append_dropWhile (p := TagContent.isName) (l := content))
        rw [Text.byteLength_append] at split
        exact Nat.le.intro split
      exact ⟨_, _, isRead.nameSpan, by omega, by omega, by omega⟩
    · obtain ⟨attr, member, among⟩ := List.mem_flatMap.mp among
      have item : attr.unresolved ∈ items.filterMap TagItem.attribute? :=
        isRead.map_unresolved ▸ List.mem_map_of_mem member
      obtain ⟨name, value⟩ := TagItem.isBetween_of_ofAttributes
        (AttributePlace.areFound_of_faultless isRead.faultless) isRead.taken _ item
      simp only [List.mem_cons, List.not_mem_nil, or_false] at among
      rcases among with rfl | rfl
      · exact name.mono (by omega) (by omega)
      · exact value.mono (by omega) (by omega)

/-- Elements, their names and their attributes are placed in the text that they are read from. -/
theorem liesIn_of_within (reads : read file input = .ok document) {element : Element}
    (within : document.root.Within element) :
    ∀ span ∈ element.span :: element.places, span.LiesIn file (Text.byteLength input) := by
  obtain ⟨bound, between⟩ := isBetween_of_within reads within
  exact fun span among => (between span among).liesIn bound

end Document

namespace SourceSpan

/-- A span starts and stops inside another one. -/
structure Contains (outer inner : SourceSpan) : Prop where
  start : outer.start ≤ inner.start
  stop : inner.stop ≤ outer.stop

/-- A span has the rows and columns that its offsets have in an index. -/
structure IsLocated (index : LineIndex) (span : SourceSpan) : Prop where
  start : index.location? span.start = some span.extent.start
  stop : index.location? span.stop = some span.extent.stop

end SourceSpan

namespace LineIndex

/-- Offsets that have locations are the ends of a span with just these. -/
theorem span_eq_of_location? {index : LineIndex} {start stop : Nat} {first last : Location}
    (starts : index.location? start = some first) (stops : index.location? stop = some last)
    (file : FileId) : index.span file start stop = ⟨file, first, last⟩ := by
  rw [span, extent?, starts, stops]
  rfl

theorem isLocated_span {text : List Char} {start stop : Nat} (ordered : start ≤ stop)
    (inside : stop ≤ Text.byteLength text) (file : FileId) :
    ((ofText text).span file start stop).IsLocated (ofText text) := by
  have starts := location?_eq_some (ordered.trans inside)
  have stops := location?_eq_some inside
  constructor
  · rw [start_span, starts, span_eq_of_location? starts stops]
  · rw [stop_span, stops, span_eq_of_location? starts stops]

end LineIndex

namespace SourceSpan.IsBetween

variable {file : FileId} {input : List Char} {low high : Nat} {span : SourceSpan}

theorem isLocated (between : span.IsBetween ⟨file, .ofText input⟩ low high)
    (inside : high ≤ Text.byteLength input) : span.IsLocated (.ofText input) := by
  obtain ⟨start, stop, rfl, _, ordered, stops⟩ := between
  exact LineIndex.isLocated_span ordered (stops.trans inside) file

theorem contains {origin : Origin} {outer : SourceSpan}
    (between : span.IsBetween origin outer.start outer.stop) : outer.Contains span :=
  ⟨between.le_start, (between.liesIn le_rfl).bound⟩

end SourceSpan.IsBetween

/-- Spans of a text stand one behind another between two offsets. -/
structure SourceSpan.AreInRow (origin : Origin) (low high : Nat) (spans : List SourceSpan) :
    Prop where
  between : ∀ span ∈ spans, span.IsBetween origin low high
  apart : spans.Pairwise fun span later => span.stop ≤ later.start

namespace SourceSpan.AreInRow

variable {origin : Origin} {low middle high : Nat} {span : SourceSpan}
  {spans part : List SourceSpan}

theorem nil : AreInRow origin low high [] := ⟨nofun, .nil⟩

theorem cons (first : span.IsBetween origin low middle) (rest : AreInRow origin middle high spans)
    (below : low ≤ middle) (above : middle ≤ high) : AreInRow origin low high (span :: spans) := by
  constructor
  · intro other among
    rcases List.mem_cons.mp among with rfl | later
    · exact first.mono le_rfl above
    · exact (rest.between other later).mono below le_rfl
  · refine List.pairwise_cons.mpr ⟨fun other later => ?_, rest.apart⟩
    obtain ⟨_, _, rfl, _, _, stops⟩ := first
    obtain ⟨_, _, rfl, starts, _⟩ := rest.between other later
    simpa using stops.trans starts

theorem mono (row : AreInRow origin low high spans) {low' high' : Nat} (below : low' ≤ low)
    (above : high ≤ high') : AreInRow origin low' high' spans :=
  ⟨fun span among => (row.between span among).mono below above, row.apart⟩

theorem sublist (row : AreInRow origin low high spans) (kept : part.Sublist spans) :
    AreInRow origin low high part :=
  ⟨fun span among => row.between span (kept.subset among), row.apart.sublist kept⟩

end SourceSpan.AreInRow

namespace Piece

variable {origin : Origin} {outer : List (List Declaration)} {start : Nat}

/-- What is read from a piece is placed where the piece is written. -/
theorem IsRead.span_node {piece : Piece} (isRead : IsRead origin outer piece)
    (follow : Lexeme.Follow start piece.lexemes) {node : Node} (found : piece.node = some node) :
    node.span =
      origin.span start (start + Text.byteLength (Lexeme.writtenAll piece.lexemes)) := by
  cases isRead with
  | text =>
      obtain rfl := Option.some.inj found
      cases follow
      simp [Node.span, Token.size]
  | characterData =>
      obtain rfl := Option.some.inj found
      cases follow
      simp [Node.span, Token.size]
  | comment => cases found
  | instruction => cases found
  | doctype => cases found
  | emptyTag reads =>
      obtain rfl := Option.some.inj found
      obtain ⟨_, _, _, _, span⟩ := (IsRead.emptyTag reads).written follow
      exact span
  | tags reads inside same =>
      obtain rfl := Option.some.inj found
      obtain ⟨_, _, _, _, span⟩ := (IsRead.tags reads inside same).written follow
      exact span

/-- What is read from pieces that follow one another stands in a row. -/
theorem areInRow_filterMap {pieces : List Piece}
    (each : ∀ piece ∈ pieces, IsRead origin outer piece)
    (follow : Lexeme.Follow start (pieces.flatMap Piece.lexemes)) :
    SourceSpan.AreInRow origin start
      (start + Text.byteLength (Lexeme.writtenAll (pieces.flatMap Piece.lexemes)))
      ((pieces.filterMap Piece.node).map Node.span) := by
  induction pieces generalizing start with
  | nil => exact .nil
  | cons piece rest ih =>
      rw [List.flatMap_cons] at follow
      have later := ih (fun other among => each other (List.mem_cons_of_mem _ among))
        follow.of_append.2
      rw [List.flatMap_cons, Lexeme.writtenAll_append, Text.byteLength_append, ← Nat.add_assoc]
      cases found : piece.node with
      | none =>
          rw [List.filterMap_cons_none found]
          exact later.mono (Nat.le_add_right ..) le_rfl
      | some node =>
          have place := (each piece List.mem_cons_self).span_node follow.of_append.1 found
          rw [List.filterMap_cons_some found, List.map_cons]
          refine .cons ⟨_, _, place, le_rfl, ?_, le_rfl⟩ later ?_ ?_ <;> exact Nat.le_add_right ..

end Piece

namespace Children

variable {file : FileId} {input : List Char} {low high : Nat} {nodes : List Node}

/-- The places of the children. -/
def places (children : Children) : List SourceSpan := children.nodes.map Node.span

/-- The elements among children are placed where these are. -/
theorem sublist_places (children : Children) :
    (children.childElements.map Element.span).Sublist children.places := by
  rw [places, ← children.filterMap_nodes]
  induction children.nodes with
  | nil => exact .slnil
  | cons node rest ih =>
      cases node with
      | element child => exact ih.cons_cons child.span
      | text content span => exact ih.cons span

/-- Next to elements, the children are what is not blank. -/
theorem nodes_ofNodes (any : nodes.any Node.isElement = true) :
    (ofNodes nodes).nodes = nodes.filter (!·.isBlank) := by
  unfold ofNodes
  rw [if_pos any]
  simp only
  split
  · rename_i elements
    rw [Children.nodes, List.map_filterMap]
    refine (List.filterMap_congr fun node among => ?_).trans List.filterMap_some
    have element := List.all_eq_true.mp elements node among
    cases node with
    | element child => rfl
    | text content span => cases element
  · rfl

/-- The span over children in a row goes from the start of the first to the stop of the last. -/
theorem isBetween_spanOver {first : Node} {others : List Node}
    (row : SourceSpan.AreInRow ⟨file, .ofText input⟩ low high ((first :: others).map Node.span))
    (inside : high ≤ Text.byteLength input) :
    (spanOver first others).IsBetween ⟨file, .ofText input⟩ low high := by
  have last : others.getLastD first ∈ first :: others := List.getLastD_mem_cons ..
  have firstPlace := row.between _ List.mem_cons_self
  have lastPlace := row.between _ (List.mem_map_of_mem last)
  have ordered : first.span.start ≤ (others.getLastD first).span.stop := by
    have forward := (lastPlace.liesIn le_rfl).ordered
    rcases List.mem_cons.mp last with same | later
    · rwa [same] at forward ⊢
    · have apart := (List.pairwise_cons.mp row.apart).1 _ (List.mem_map_of_mem later)
      exact (firstPlace.liesIn le_rfl).ordered.trans (apart.trans forward)
  refine ⟨first.span.start, (others.getLastD first).span.stop, ?_, firstPlace.le_start, ordered,
    (lastPlace.liesIn le_rfl).bound⟩
  rw [Origin.span, LineIndex.span_eq_of_location? (firstPlace.isLocated inside).start
    (lastPlace.isLocated inside).stop, spanOver, (firstPlace.liesIn le_rfl).file]

theorem areInRow_ofNodes
    (row : SourceSpan.AreInRow ⟨file, .ofText input⟩ low high (nodes.map Node.span))
    (inside : high ≤ Text.byteLength input) :
    SourceSpan.AreInRow ⟨file, .ofText input⟩ low high (ofNodes nodes).places := by
  cases any : nodes.any Node.isElement with
  | true =>
      rw [places, nodes_ofNodes any]
      exact row.sublist (List.filter_sublist.map Node.span)
  | false =>
      cases nodes with
      | nil => exact .nil
      | cons first others =>
          unfold ofNodes
          rw [if_neg (by simp [any])]
          have whole := isBetween_spanOver row inside
          exact ⟨List.forall_mem_singleton.mpr whole, List.pairwise_singleton ..⟩

end Children

/-- The children of an element stand in a row behind its first bracket, up to its end. -/
theorem Piece.IsRead.areInRow_places {file : FileId} {input : List Char}
    {outer : List (List Declaration)} {part : List Lexeme} {element : Element} {start : Nat}
    (isRead : IsRead ⟨file, .ofText input⟩ outer ⟨part, some (.element element)⟩)
    (follow : Lexeme.Follow start part)
    (inside : start + Text.byteLength (Lexeme.writtenAll part) ≤ Text.byteLength input) :
    SourceSpan.AreInRow ⟨file, .ofText input⟩ (start + 1)
      (start + Text.byteLength (Lexeme.writtenAll part)) element.children.places := by
  cases isRead with
  | emptyTag => exact .nil
  | @tags _ content name _ middle finish stop tag pieces reads within same =>
      have bracket : 0 < (Token.startTag content).size :=
        Nat.add_pos_left (Char.utf8Size_pos '<') _
      cases follow with
      | cons later =>
          have row := areInRow_filterMap within later.of_append.1
          rw [Lexeme.writtenAll_cons, Lexeme.writtenAll_append, Text.byteLength_append,
            Text.byteLength_append] at inside ⊢
          refine Children.areInRow_ofNodes (row.mono (by omega) ?_) inside
          simp only [Token.size]
          omega

namespace Document

variable {file : FileId} {input : List Char} {document : Document} {element : Element}

theorem span_of_read (reads : read file input = .ok document) :
    document.span = Origin.span ⟨file, .ofText input⟩ 0 (Text.byteLength input) := by
  rw [read] at reads
  cases made : rootOfScan ⟨file, .ofText input⟩ (.ofText input) with
  | error error =>
      rw [made] at reads
      cases reads
  | ok root =>
      rw [made] at reads
      obtain rfl := Except.ok.inj reads
      rfl

theorem start_lt_stop_of_within (reads : read file input = .ok document)
    (within : document.root.Within element) : element.span.start < element.span.stop := by
  obtain ⟨_, _, _, _, _, _, _, span⟩ := exists_written_of_within reads within
  rw [span, Origin.start_span, Origin.stop_span, Text.byteLength_cons]
  have := Char.utf8Size_pos '<'
  omega

theorem areInRow_places_of_within (reads : read file input = .ok document)
    (within : document.root.Within element) :
    SourceSpan.AreInRow ⟨file, .ofText input⟩ (element.span.start + 1) element.span.stop
      element.children.places := by
  obtain ⟨bound, _⟩ := isBetween_of_within reads within
  obtain ⟨outer, before, part, after, lexemes, isRead⟩ := exists_stretch_of_within reads within
  obtain ⟨follow, _⟩ := Scan.follow_ofText input
  rw [lexemes] at follow
  have stretch := follow.of_append.1.of_append.2
  obtain ⟨_, _, _, _, span⟩ := isRead.written stretch
  rw [span, Origin.stop_span] at bound
  rw [span, Origin.start_span, Origin.stop_span]
  exact isRead.areInRow_places stretch bound

/-- The child elements of an element stand in a row inside it. -/
theorem areInRow_childElements_of_within (reads : read file input = .ok document)
    (within : document.root.Within element) :
    SourceSpan.AreInRow ⟨file, .ofText input⟩ (element.span.start + 1) element.span.stop
      (element.childElements.map Element.span) := by
  exact (areInRow_places_of_within reads within).sublist element.children.sublist_places

/--
A document contains its root.  Each element of it contains its name, its attributes and its
children, the children one behind another, and all these lie in the text, with the rows and columns
that its line index gives.
-/
theorem contains_of_within (reads : read file input = .ok document) :
    let index := LineIndex.ofText input
    let size := Text.byteLength input
    (document.span.LiesIn file size ∧ document.span.IsLocated index ∧
      document.span.Contains document.root.span) ∧
    ∀ element, document.root.Within element →
      (∀ span ∈ element.span :: (element.places ++ element.children.places),
        span.LiesIn file size ∧ span.IsLocated index ∧ element.span.Contains span) ∧
      element.children.places.Pairwise fun span later => span.stop ≤ later.start := by
  intro index size
  refine ⟨?_, fun element within => ?_⟩
  · have whole := span_of_read reads
    have between : document.span.IsBetween ⟨file, .ofText input⟩ 0 size :=
      ⟨0, size, whole, le_rfl, Nat.zero_le _, le_rfl⟩
    obtain ⟨bound, _⟩ := isBetween_of_within reads .self
    refine ⟨between.liesIn le_rfl, between.isLocated le_rfl, ?_, ?_⟩
    · rw [whole, Origin.start_span]
      exact Nat.zero_le _
    · rwa [whole, Origin.stop_span]
  · obtain ⟨bound, tag⟩ := isBetween_of_within reads within
    have row := areInRow_places_of_within reads within
    refine ⟨fun span among => ?_, row.apart⟩
    have between : span.IsBetween ⟨file, .ofText input⟩ element.span.start element.span.stop := by
      rw [← List.cons_append] at among
      rcases List.mem_append.mp among with own | child
      · exact tag span own
      · exact (row.between span child).mono (Nat.le_succ _) le_rfl
    exact ⟨between.liesIn bound, between.isLocated bound, between.contains⟩

/-- Blank text between elements is left out, and text on both sides of a comment is joined. -/
theorem contains_of_within_mixed :
    let input := "\ufeff<a b='ü'>ö<c/>\n<d>x<!---->y</d></a>".toList
    let index := LineIndex.ofText input
    let size := Text.byteLength input
    let offsets (places : List SourceSpan) := places.map fun span => (span.start, span.stop)
    ∃ document child, read default input = .ok document ∧ document.root.Within child ∧
      offsets document.root.children.places = [(10, 12), (12, 16), (17, 33)] ∧
      offsets child.children.places = [(20, 29)] ∧
      (document.span.LiesIn default size ∧ document.span.IsLocated index ∧
        document.span.Contains document.root.span) ∧
      document.root.children.places.Pairwise (fun span later => span.stop ≤ later.start) ∧
      ∀ span ∈ child.span :: (child.places ++ child.children.places),
        span.LiesIn default size ∧ span.IsLocated index ∧ child.span.Contains span := by
  intro input index size offsets
  have facts : (read default input).toOption.map (fun document =>
      (offsets document.root.children.places,
        document.root.childElements.map fun child => offsets child.children.places)) =
      some ([(10, 12), (12, 16), (17, 33)], [[], [(20, 29)]]) := by
    decide +kernel
  obtain ⟨document, reads, seen⟩ := exists_of_map_read facts
  obtain ⟨around, children⟩ := Prod.mk.inj seen
  obtain ⟨child, among, inside⟩ :
      ∃ child ∈ document.root.childElements, offsets child.children.places = [(20, 29)] :=
    List.mem_map.mp (by rw [children]; decide)
  have within : document.root.Within child := .child .self among
  obtain ⟨whole, each⟩ := contains_of_within reads
  exact ⟨document, child, reads, within, around, inside, whole, (each _ .self).2,
    (each child within).1⟩

end Document
end BundleMarkup
