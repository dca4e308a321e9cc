import BundleMarkup.Proofs.Markup.WrittenNames
import Mathlib.Data.List.TakeWhile

/-!
# Reading what is written

Reading a written element gives it back, up to places.  The construction that reads it is arbitrary,
and so is the text that follows: the element is attached, and reading goes on behind it.
-/

namespace BundleMarkup

namespace Node

@[simp]
theorem isElement_withoutPlaces (node : Node) : node.withoutPlaces.isElement = node.isElement := by
  cases node <;> rw [withoutPlaces] <;> rfl

@[simp]
theorem isBlank_withoutPlaces (node : Node) : node.withoutPlaces.isBlank = node.isBlank := by
  cases node <;> rw [withoutPlaces] <;> rfl

@[simp]
theorem element?_withoutPlaces (node : Node) :
    node.withoutPlaces.element? = node.element?.map Element.withoutPlaces := by
  cases node <;> rw [withoutPlaces] <;> rfl

@[simp]
theorem text?_withoutPlaces (node : Node) : node.withoutPlaces.text? = node.text? := by
  cases node <;> rw [withoutPlaces] <;> rfl

@[simp]
theorem span_withoutPlaces (node : Node) : node.withoutPlaces.span = default := by
  cases node with
  | element child =>
      cases child
      rw [withoutPlaces, Element.withoutPlaces]
      rfl
  | text content span => rw [withoutPlaces]; rfl

end Node

namespace Children

/-- Nodes without their places are grouped into the same children without theirs. -/
theorem ofNodes_map_withoutPlaces (nodes : List Node) :
    ofNodes (nodes.map Node.withoutPlaces) = (ofNodes nodes).withoutPlaces := by
  have any : (nodes.map Node.withoutPlaces).any Node.isElement = nodes.any Node.isElement := by
    simp [List.any_map, Function.comp_def]
  have kept : (nodes.map Node.withoutPlaces).filter (!·.isBlank) =
      (nodes.filter (!·.isBlank)).map Node.withoutPlaces := by
    simp [List.filter_map, Function.comp_def]
  have all (list : List Node) :
      (list.map Node.withoutPlaces).all Node.isElement = list.all Node.isElement := by
    simp [List.all_map, Function.comp_def]
  have elements (list : List Node) : (list.map Node.withoutPlaces).filterMap Node.element? =
      (list.filterMap Node.element?).map Element.withoutPlaces := by
    simp [List.filterMap_map, List.map_filterMap]
  have texts : (nodes.map Node.withoutPlaces).filterMap Node.text? =
      nodes.filterMap Node.text? := by
    simp [List.filterMap_map]
  have place (first : Node) (others : List Node) :
      spanOver first.withoutPlaces (others.map Node.withoutPlaces) = default := by
    rw [spanOver, List.getLastD_map, Node.span_withoutPlaces, Node.span_withoutPlaces]
  unfold ofNodes
  simp only [any, kept, all, elements, texts]
  split
  · split
    · rw [withoutPlaces]
    · rw [withoutPlaces]
  · cases nodes with
    | nil => rw [withoutPlaces]; rfl
    | cons first others =>
        simp only [List.map_cons, place]
        rw [withoutPlaces]

/-- Grouping takes grouped children apart and puts them together again. -/
theorem ofNodes_nodes {children : Children} (grouped : children.AreGrouped) :
    ofNodes children.nodes = children := by
  cases children with
  | elements list =>
      have any : (list.map Node.element).any Node.isElement = true := by
        obtain ⟨first, others, rfl⟩ := List.exists_cons_of_ne_nil grouped
        rfl
      simp [ofNodes, nodes, any, List.filter_map, List.filterMap_map, Function.comp_def,
        Node.isBlank, Node.isElement, Node.element?]
  | text content span =>
      simp [ofNodes, nodes, spanOver, Node.isElement, Node.text?, Node.span]
  | mixed list =>
      obtain ⟨⟨node, among, isElement⟩, ⟨other, among', isText⟩, solid, _⟩ := grouped
      have any : list.any Node.isElement = true := List.any_eq_true.mpr ⟨node, among, isElement⟩
      have kept : list.filter (!·.isBlank) = list := by
        rw [List.filter_eq_self]
        intro node among
        rw [solid node among]
        rfl
      have all : list.all Node.isElement = false := List.all_eq_false.mpr
        ⟨other, among', by rw [isText]; exact Bool.false_ne_true⟩
      unfold ofNodes
      simp only [nodes, any, kept, all, if_true, Bool.false_eq_true, if_false]
  | empty => rfl

theorem AreGrouped.content_ne {children : Children} (grouped : children.AreGrouped)
    {content : String} {span : SourceSpan} (among : .text content span ∈ children.nodes) :
    content ≠ "" := by
  cases children with
  | elements list => simp [nodes] at among
  | text own place =>
      obtain ⟨rfl, rfl⟩ := Node.text.inj (List.mem_singleton.mp among)
      exact grouped
  | mixed list =>
      rintro rfl
      exact absurd (grouped.2.2.1 _ among) (by simp [Node.isBlank, Text.allBlank])
  | empty => cases among

theorem AreGrouped.isChain_nodes {children : Children} (grouped : children.AreGrouped) :
    children.nodes.IsChain fun node next => node.isElement = true ∨ next.isElement = true := by
  cases children with
  | elements list =>
      apply List.Pairwise.isChain
      rw [nodes, List.pairwise_map]
      exact List.pairwise_of_forall fun _ _ => .inl rfl
  | text content span => exact .singleton _
  | mixed list => exact grouped.2.2.2
  | empty => exact .nil

end Children

namespace Construction

/-- Go on building a document from a text whose first byte has a given offset. -/
def resume (origin : Origin) (state : Construction) (start : Nat) (input : List Char) :
    Except MarkupError Element := do
  let scan := Scan.ofTextFrom start input
  let last ← scan.lexemes.foldlM (step origin) state
  match scan.fault with
  | some (fault, position) => .error (Malformation.token fault position).error
  | none => last.finish

theorem resume_nil (origin : Origin) (state : Construction) (start : Nat) :
    resume origin state start [] = state.finish := by
  rw [resume, Scan.ofTextFrom]
  rfl

/-- The first token makes a step of the construction. -/
theorem resume_of_next {origin : Origin} {state next : Construction} {start : Nat} {token : Token}
    {input rest : List Char} (nonempty : input ≠ []) (taken : Token.next input = .ok (token, rest))
    (steps : step origin state ⟨token, start, start + token.size⟩ = .ok next) :
    resume origin state start input = resume origin next (start + token.size) rest := by
  have scan : Scan.ofTextFrom start input =
      ⟨⟨token, start, start + token.size⟩ :: (Scan.ofTextFrom (start + token.size) rest).lexemes,
        (Scan.ofTextFrom (start + token.size) rest).fault⟩ := by
    obtain ⟨char, others, rfl⟩ := List.exists_cons_of_ne_nil nonempty
    rw [Scan.ofTextFrom]
    split
    · rename_i failed
      rw [taken] at failed
      cases failed
    · rename_i found
      rw [taken] at found
      cases found
      rfl
  rw [resume, scan]
  simp only [List.foldlM_cons, steps]
  rfl

/-- Escaped text that is not empty becomes a node of the innermost open element. -/
theorem resume_text (origin : Origin) (parent : OpenElement) (outer : List OpenElement)
    (root : Option Element) (start : Nat) {content : String} (nonempty : content ≠ "")
    (rest : List Char) :
    ∃ span stop,
      resume origin ⟨parent :: outer, root⟩ start
          (Reference.escape content.toList ++ '<' :: rest) =
        resume origin ⟨parent.push (.text content span) :: outer, root⟩ stop ('<' :: rest) := by
  have some : content.toList ≠ [] := fun none => nonempty (String.toList_eq_nil_iff.mp none)
  have taken := Token.next_text some rest
  let stop := start + (Token.text (Reference.escape content.toList)).size
  have steps : step origin ⟨parent :: outer, root⟩
      ⟨.text (Reference.escape content.toList), start, stop⟩ =
      .ok ⟨parent.push (.text content (origin.span start stop)) :: outer, root⟩ := by
    simp only [step, Reference.decode_escape, addText, String.ofList_toList]
  exact ⟨_, _, resume_of_next (by simp) taken steps⟩

end Construction

/-- Behind a written element, reading goes on with the element attached, up to places. -/
def Element.ReadsBack (origin : Origin) (element : Element) : Prop :=
  ∀ (state : Construction) (start : Nat) (rest : List Char),
    element.IsWritable (.ofFrames state.frames) →
      ∃ read stop, read.withoutPlaces = element.withoutPlaces ∧
        ∀ next, state.attach read = .ok next →
          state.resume origin start (element.write ++ rest) = next.resume origin stop rest

theorem Node.write_eq_bracket {nodes : List Node}
    (first : ∀ node, nodes.head? = some node → node.isElement = true) (rest : List Char) :
    ∃ after, nodes.flatMap Node.write ++ '<' :: rest = '<' :: after := by
  cases nodes with
  | nil => exact ⟨rest, rfl⟩
  | cons node nodes =>
      cases node with
      | element child =>
          rw [List.flatMap_cons, Node.write, Element.write_eq]
          exact ⟨_, rfl⟩
      | text content span => cases first _ rfl

namespace Construction

/-- Written nodes become nodes of the innermost open element, up to places. -/
theorem resume_nodes (origin : Origin) (outer : List OpenElement) (root : Option Element)
    {frames : List (List Declaration)} {nodes : List Node}
    (elements : ∀ child, .element child ∈ nodes →
      child.ReadsBack origin ∧ child.IsWritable (.ofFrames frames))
    (texts : ∀ content span, .text content span ∈ nodes → content ≠ "")
    (apart : nodes.IsChain fun node next => node.isElement = true ∨ next.isElement = true)
    (parent : OpenElement)
    (inside : parent.declarations :: outer.map OpenElement.declarations = frames)
    (start : Nat) (rest : List Char) :
    ∃ (read : List Node) (stop : Nat),
      read.map Node.withoutPlaces = nodes.map Node.withoutPlaces ∧
      resume origin ⟨parent :: outer, root⟩ start (nodes.flatMap Node.write ++ '<' :: rest) =
        resume origin ⟨{ parent with nodes := read.reverse ++ parent.nodes } :: outer, root⟩ stop
          ('<' :: rest) := by
  induction nodes generalizing parent start with
  | nil => exact ⟨[], start, rfl, rfl⟩
  | cons node nodes ih =>
      have later := ih (fun child among => elements child (List.mem_cons_of_mem _ among))
        (fun content span among => texts content span (List.mem_cons_of_mem _ among))
        apart.tail
      cases node with
      | element child =>
          obtain ⟨reads, writable⟩ := elements child List.mem_cons_self
          rw [← inside] at writable
          obtain ⟨first, middle, same, goes⟩ := reads ⟨parent :: outer, root⟩ start
            (nodes.flatMap Node.write ++ '<' :: rest) writable
          obtain ⟨read, stop, others, resumes⟩ :=
            later (parent.push (.element first)) inside middle
          refine ⟨.element first :: read, stop, ?_, ?_⟩
          · rw [List.map_cons, List.map_cons, others, Node.withoutPlaces, Node.withoutPlaces, same]
          · rw [List.flatMap_cons, List.append_assoc, Node.write, goes _ rfl, resumes]
            simp [OpenElement.push]
      | text content span =>
          have bracket (next : Node) (follows : nodes.head? = some next) :
              next.isElement = true := by
            cases nodes with
            | nil => cases follows
            | cons other nodes =>
                cases follows
                obtain ⟨isElement, -⟩ := List.isChain_cons_cons.mp apart
                simpa [Node.isElement] using isElement
          obtain ⟨after, written⟩ := Node.write_eq_bracket bracket rest
          obtain ⟨place, middle, goes⟩ := resume_text origin parent outer root start
            (texts content span List.mem_cons_self) after
          obtain ⟨read, stop, others, resumes⟩ :=
            later (parent.push (.text content place)) inside middle
          refine ⟨.text content place :: read, stop, ?_, ?_⟩
          · rw [List.map_cons, List.map_cons, others, Node.withoutPlaces, Node.withoutPlaces]
          · rw [List.flatMap_cons, List.append_assoc, Node.write, written, goes, ← written, resumes]
            simp [OpenElement.push]

theorem endName_of_isKey {key : List Char} (isKey : Name.IsKey key) : endName key = key := by
  have solid : ∀ char ∈ key, ¬Token.isSpace char = true := fun char among =>
    Bool.eq_false_iff.mp (isKey.isSpace among)
  obtain ⟨first, among⟩ := List.exists_mem_of_ne_nil key isKey.nonempty
  have unspaced : key.reverse.dropWhile Token.isSpace = key.reverse :=
    List.dropWhile_eq_self_iff.mpr fun positive =>
      solid _ (List.mem_reverse.mp (List.getElem_mem positive))
  rw [endName, if_neg, unspaced, List.reverse_reverse]
  exact fun all => solid first among (List.all_eq_true.mp all first among)

/-- A written start tag opens an element, up to places. -/
theorem resume_startTag (origin : Origin) (state : Construction) (start : Nat) {name : Name}
    {declarations : List Declaration} {attributes : List Attribute}
    (writable : TagContent.IsWritable (.ofFrames state.frames) name declarations attributes)
    (rest : List Char) :
    ∃ tag stop, tag.name = name ∧ tag.declarations = declarations ∧
      tag.attributes.map Attribute.withoutPlaces = attributes.map Attribute.withoutPlaces ∧
      resume origin state start
          ('<' :: (TagContent.write name declarations attributes ++ '>' :: rest)) =
        resume origin { state with stack := .ofTag tag start :: state.stack } stop rest := by
  obtain ⟨tag, reads, same⟩ := ElementTag.read_write origin start writable
  have taken : Token.next ('<' :: (TagContent.write name declarations attributes ++ '>' :: rest)) =
      .ok (.startTag (TagContent.write name declarations attributes), rest) :=
    Token.next_startTag writable.isKey_name writable.isKey_fields rest
  let token := Token.startTag (TagContent.write name declarations attributes)
  have steps : step origin state ⟨token, start, start + token.size⟩ =
      .ok { state with stack := .ofTag tag start :: state.stack } := by
    simp only [step, token, reads]
    rfl
  obtain ⟨named, declared, attributed⟩ := same
  exact ⟨tag, _, named, declared, attributed, resume_of_next (by simp) taken steps⟩

/-- A written end tag completes the innermost open element, if it has the name. -/
theorem resume_endTag (origin : Origin) {element : OpenElement} {name : Name}
    (named : element.name = name) (isKey : Name.IsKey name.written.toList)
    (outer : List OpenElement) (root : Option Element) (start : Nat) (rest : List Char) :
    ∃ stop, ∀ next, attach ⟨outer, root⟩ (element.close origin stop) = .ok next →
      resume origin ⟨element :: outer, root⟩ start
          ('<' :: '/' :: (name.written.toList ++ '>' :: rest)) =
        resume origin next stop rest := by
  subst named
  have taken := Token.next_endTag isKey rest
  refine ⟨_, fun next attaches => resume_of_next (by simp) taken ?_⟩
  simp only [step, endName_of_isKey isKey, String.ofList_toList, close, if_true]
  exact attaches

end Construction

/-- An element that is closed over the nodes of another one is that other one, up to places. -/
theorem OpenElement.withoutPlaces_close {opened : OpenElement} {element : Element}
    (grouped : element.children.AreGrouped) (name : opened.name = element.name)
    (declarations : opened.declarations = element.declarations)
    (attributes : opened.attributes.map Attribute.withoutPlaces =
      element.attributes.map Attribute.withoutPlaces)
    (nodes : opened.nodes.reverse.map Node.withoutPlaces =
      element.children.nodes.map Node.withoutPlaces) (origin : Origin) (stop : Nat) :
    (opened.close origin stop).withoutPlaces = element.withoutPlaces := by
  have children : (Children.ofNodes opened.nodes.reverse).withoutPlaces =
      element.children.withoutPlaces := by
    rw [← Children.ofNodes_map_withoutPlaces, nodes, Children.ofNodes_map_withoutPlaces,
      Children.ofNodes_nodes grouped]
  obtain ⟨_, _, _, _, _, _⟩ := element
  rw [close, Element.withoutPlaces, Element.withoutPlaces, children, name, declarations, attributes]

/-- Whatever can be written reads back. -/
theorem Element.readsBack (origin : Origin) (element : Element) : element.ReadsBack origin := by
  induction element using Element.children_induction with
  | parent element ih =>
      intro state start rest writable
      obtain ⟨tag, grouped, inside⟩ := writable
      rw [Bindings.extend_ofFrames] at inside
      let closing := '/' :: (element.name.written.toList ++ '>' :: rest)
      have written : element.write ++ rest =
          '<' :: (TagContent.write element.name element.declarations element.attributes ++ '>' ::
            (element.children.nodes.flatMap Node.write ++ '<' :: closing)) := by
        rw [Element.write_eq]
        simp [closing]
      obtain ⟨opened, middle, name, declarations, attributes, opens⟩ :=
        Construction.resume_startTag origin state start tag
          (element.children.nodes.flatMap Node.write ++ '<' :: closing)
      have elements (child : Element) (among : .element child ∈ element.children.nodes) :
          child.ReadsBack origin ∧
            child.IsWritable (.ofFrames (element.declarations :: state.frames)) := by
        have among : child ∈ element.childElements := by
          rw [Element.childElements, ← Children.filterMap_nodes]
          exact List.mem_filterMap.mpr ⟨_, among, rfl⟩
        exact ⟨ih child among, inside child among⟩
      obtain ⟨read, behind, nodes, reads⟩ := Construction.resume_nodes origin state.stack
        state.root elements (fun _ _ => grouped.content_ne) grouped.isChain_nodes
        (.ofTag opened start) (congrArg (· :: state.frames) declarations) middle closing
      let full : OpenElement :=
        { OpenElement.ofTag opened start with nodes := read.reverse ++ [] }
      have named : full.name = element.name := name
      obtain ⟨stop, closes⟩ := Construction.resume_endTag origin named tag.isKey_name state.stack
        state.root behind rest
      refine ⟨full.close origin stop, stop, ?_, ?_⟩
      · exact OpenElement.withoutPlaces_close grouped name declarations attributes
          (by simpa [full] using nodes) origin stop
      · intro next attaches
        rw [written, opens, reads, ← closes next attaches]
        rfl

/-- A remark in its own namespace, with a value of brackets and quotes. -/
def Element.remark : Element :=
  { (default : Element) with
    name := ⟨some "urn:remarks", "remark", some "r"⟩
    attributes := [⟨⟨none, "by", none⟩, default, "<\"me\">", default⟩]
    declarations := [⟨some "r", "urn:remarks"⟩] }

/-- A page with a default namespace, on which a remark stands in the text. -/
def Element.remarkedPage : Element :=
  { (default : Element) with
    name := ⟨some "urn:pages", "page", none⟩
    declarations := [⟨none, "urn:pages"⟩]
    children := .mixed [.text "now & " default, .element .remark, .text "then" default] }

namespace Document

/-- Reading undoes writing: the document of a written element has the element as its root. -/
theorem read_element_write (file : FileId) (element : Element)
    (writable : element.IsWritable .outside) :
    ∃ document, read file element.write = .ok document ∧
      document.root.withoutPlaces = element.withoutPlaces := by
  let origin : Origin := ⟨file, .ofText element.write⟩
  obtain ⟨read, stop, same, goes⟩ := element.readsBack origin .initial 0 [] writable
  have resumes := goes ⟨[], some read⟩ rfl
  rw [List.append_nil, Construction.resume_nil] at resumes
  have unmarked : Scan.withoutMark element.write = element.write := by
    rw [Element.write_eq]
    rfl
  have root : rootOfScan origin (.ofText element.write) = .ok read := by
    rw [Scan.ofText, unmarked]
    exact resumes
  refine ⟨⟨read, origin.span 0 origin.index.size⟩, ?_, same⟩
  rw [Document.read, root]
  rfl

theorem read_element_write_remarkedPage :
    Element.remarkedPage.IsWritable .outside ∧
      Element.remarkedPage.write = ("<page xmlns=\"urn:pages\">now &amp; <r:remark " ++
        "xmlns:r=\"urn:remarks\" by=\"&lt;&quot;me&quot;&gt;\"></r:remark>then</page>").toList ∧
      ∃ document, read default Element.remarkedPage.write = .ok document ∧
        document.root.withoutPlaces = Element.remarkedPage.withoutPlaces := by
  have remark : Element.remark.IsWritable
      (Bindings.outside.extend Element.remarkedPage.declarations) := by
    have name : Element.remark.name.IsWritable
        ((Bindings.outside.extend Element.remarkedPage.declarations).extend
          Element.remark.declarations) .element :=
      ⟨rfl, rfl, .bound _ (.inl rfl) rfl (by decide)⟩
    refine .intro ⟨by decide, by decide, name, ?_, by decide, by decide⟩ trivial nofun
    intro attr among
    obtain rfl := List.mem_singleton.mp among
    exact ⟨rfl, rfl, .unqualified _⟩
  have writable : Element.remarkedPage.IsWritable .outside := by
    have name : Element.remarkedPage.name.IsWritable
        (Bindings.outside.extend Element.remarkedPage.declarations) .element :=
      ⟨rfl, rfl, .bound _ (.inl rfl) rfl (by decide)⟩
    refine .intro ⟨by decide, by decide, name, nofun, nofun, .nil⟩ ?_ ?_
    · refine ⟨⟨.element .remark, by simp, rfl⟩, ⟨.text "then" default, by simp, rfl⟩, ?_, ?_⟩
      · simp [Node.isBlank]
        decide
      · simp [Node.isElement]
    · intro child among
      obtain rfl := List.mem_singleton.mp among
      exact remark
  exact ⟨writable, by decide +kernel, read_element_write default _ writable⟩

end Document
end BundleMarkup
