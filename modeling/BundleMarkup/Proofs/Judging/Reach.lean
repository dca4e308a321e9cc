import BundleMarkup.Proofs.Judging.Walk
import Mathlib.Data.List.Basic

/-!
# The reach of the walk

Where a document starts in host markup, the walk reads an element as host markup exactly if it and
all elements around it are host markup, and it hands each element of the extension that stands in
such an element to the session, once.  The root itself is not asked for its namespace.
-/

namespace BundleMarkup

/-- An element and those that it stands in, innermost first. -/
structure Position where
  element : Element
  around : List Element

/-- The positions of an element that stands in others and of all elements inside it, in order. -/
def Element.positions (around : List Element) (element : Element) : List Position :=
  ⟨element, around⟩ :: element.childElements.attach.flatMap fun ⟨child, _⟩ =>
    positions (element :: around) child
termination_by sizeOf element
decreasing_by exact sizeOf_lt_of_mem_childElements ‹_›

theorem Element.positions_eq (around : List Element) (element : Element) :
    element.positions around =
      ⟨element, around⟩ :: element.childElements.flatMap (positions (element :: around)) := by
  rw [positions, List.flatMap_subtype (g := positions (element :: around)) fun _ _ => rfl,
    List.unattach_attach]

/-- Whether elements are all host markup. -/
def Element.allHost (elements : List Element) : Bool :=
  elements.all fun element => isHostMarkup element.name.namespaceUri

@[simp]
theorem Element.allHost_cons (first : Element) (rest : List Element) :
    allHost (first :: rest) = (isHostMarkup first.name.namespaceUri && allHost rest) :=
  List.all_cons

namespace Position

/-- Whether the element and all those around are host markup. -/
def isHost (position : Position) : Bool := Element.allHost (position.element :: position.around)

/-- The part that the element is, if it belongs to the extension and stands in host markup. -/
def ownPart? (position : Position) : Option Part :=
  if position.element.name.namespaceUri = ownNamespace && Element.allHost position.around then
    position.around.head?.map (Part.ownElement · position.element)
  else
    none

end Position

namespace Part

/-- Whether a part is an element of the extension. -/
def isOwnElement : Part → Bool
  | ownElement _ _ => true
  | _ => false

theorem isOwnElement_of_mem_ofAttributes {host : Element} {part : Part}
    (among : part ∈ ofAttributes host) : part.isOwnElement = false := by
  rcases List.mem_append.mp among with foreign | own
  · obtain ⟨attr, _, made⟩ := List.mem_filterMap.mp foreign
    unfold ofAttribute? at made
    split at made
    · obtain rfl := Option.some.inj made
      rfl
    · cases made
  · unfold ofOwnAttributes at own
    split at own
    · cases own
    · obtain rfl := List.mem_singleton.mp own
      rfl

variable {around : List Element}

/-- What stands in an element that is no host markup is no part. -/
theorem filterMap_ownPart?_of_allHost {element : Element}
    (outside : Element.allHost around = false) :
    (element.positions around).filterMap Position.ownPart? = [] := by
  induction element using Element.children_induction generalizing around with
  | parent element ih =>
      have none : Position.ownPart? ⟨element, around⟩ = none := by
        simp [Position.ownPart?, outside]
      rw [Element.positions_eq, List.filterMap_cons_none none, List.filterMap_flatMap,
        List.flatMap_eq_nil_iff]
      intro child among
      exact ih child among (by rw [Element.allHost_cons, outside, Bool.and_false])

theorem filterMap_ownPart?_of_outside {element : Element}
    (outside : isHostMarkup element.name.namespaceUri = false) :
    (element.positions around).filterMap Position.ownPart? =
      (Position.ownPart? ⟨element, around⟩).toList := by
  have inside : (element.childElements.flatMap (Element.positions (element :: around))).filterMap
      Position.ownPart? = [] := by
    rw [List.filterMap_flatMap, List.flatMap_eq_nil_iff]
    intro child _
    exact filterMap_ownPart?_of_allHost (by rw [Element.allHost_cons, outside, Bool.false_and])
  rw [Element.positions_eq, List.filterMap_cons, inside]
  cases Position.ownPart? ⟨element, around⟩ <;> rfl

/-- The elements of the extension among the parts of a host element are those in host markup. -/
theorem filter_isOwnElement_ofHost {host : Element}
    (hosts : isHostMarkup host.name.namespaceUri = true)
    (inHost : Element.allHost around = true) :
    (ofHost host).filter isOwnElement =
      (host.positions around).filterMap Position.ownPart? := by
  induction host using Element.children_induction generalizing around with
  | parent host ih =>
      have none : Position.ownPart? ⟨host, around⟩ = none := by
        have other : host.name.namespaceUri ≠ ownNamespace := by
          intro own
          rw [own, not_isHostMarkup_ownNamespace] at hosts
          cases hosts
        simp [Position.ownPart?, other]
      have within : Element.allHost (host :: around) = true := by
        rw [Element.allHost_cons, hosts, inHost, Bool.and_true]
      have attributes : (ofAttributes host).filter isOwnElement = [] :=
        List.filter_eq_nil_iff.mpr fun part among => by
          simp [isOwnElement_of_mem_ofAttributes among]
      rw [ofHost_eq, List.filter_append, attributes, List.nil_append, Element.positions_eq,
        List.filterMap_cons_none none, List.filter_flatMap, List.filterMap_flatMap]
      refine List.flatMap_congr fun child among => ?_
      by_cases inner : isHostMarkup child.name.namespaceUri = true
      · rw [ofChild, if_pos inner, ih child among inner within]
      · rw [ofChild, if_neg inner, filterMap_ownPart?_of_outside (Bool.eq_false_iff.mpr inner)]
        by_cases own : child.name.namespaceUri = ownNamespace
        · simp [ofMarkup, own, isOwnElement, Position.ownPart?, hosts, inHost]
        · simp [ofMarkup, own, isOwnElement, Position.ownPart?]

end Part

theorem Element.mem_positions_self (around : List Element) (element : Element) :
    ⟨element, around⟩ ∈ element.positions around := by
  rw [positions_eq]
  exact List.mem_cons_self

/-- A child of an element that has a position has one inside it. -/
theorem Element.mem_positions_child {around : List Element} {root : Element} {position : Position}
    (among : position ∈ root.positions around) {child : Element}
    (inside : child ∈ position.element.childElements) :
    ⟨child, position.element :: position.around⟩ ∈ root.positions around := by
  induction root using Element.children_induction generalizing around with
  | parent root ih =>
      rw [positions_eq] at among ⊢
      rcases List.mem_cons.mp among with rfl | deeper
      · exact List.mem_cons_of_mem _
          (List.mem_flatMap.mpr ⟨child, inside, child.mem_positions_self _⟩)
      · obtain ⟨middle, member, found⟩ := List.mem_flatMap.mp deeper
        exact List.mem_cons_of_mem _ (List.mem_flatMap.mpr ⟨middle, member, ih middle member found⟩)

theorem Element.around_subset_of_mem_positions {around : List Element} {root : Element}
    {position : Position} (among : position ∈ root.positions around) :
    around ⊆ position.around := by
  induction root using Element.children_induction generalizing around with
  | parent root ih =>
      rw [positions_eq] at among
      rcases List.mem_cons.mp among with rfl | deeper
      · exact List.Subset.refl _
      · obtain ⟨child, member, found⟩ := List.mem_flatMap.mp deeper
        exact fun outer inside => ih child member found (List.mem_cons_of_mem _ inside)

/-- An element is visited if it and all elements around it are host markup. -/
theorem Visited.of_mem_positions {around : List Element} {root : Element} {position : Position}
    (among : position ∈ root.positions around) (hosts : position.isHost = true) :
    Visited root position.element := by
  have all := List.all_eq_true.mp hosts
  induction root using Element.children_induction generalizing around with
  | parent root ih =>
      rw [Element.positions_eq] at among
      rcases List.mem_cons.mp among with rfl | deeper
      · exact .root
      · obtain ⟨child, member, found⟩ := List.mem_flatMap.mp deeper
        refine .trans (.child .root member ?_) (ih child member found)
        rw [Element.positions_eq] at found
        rcases List.mem_cons.mp found with rfl | below
        · exact all _ List.mem_cons_self
        · obtain ⟨other, _, further⟩ := List.mem_flatMap.mp below
          exact all child (List.mem_cons_of_mem _
            (Element.around_subset_of_mem_positions further List.mem_cons_self))

/-- Under a root that is host markup every visited element is, and so are those around it. -/
theorem Visited.exists_position {root host : Element} (visited : Visited root host)
    (hosts : isHostMarkup root.name.namespaceUri = true) :
    ∃ position ∈ root.positions [], position.isHost = true ∧ position.element = host := by
  induction visited with
  | root => exact ⟨_, root.mem_positions_self [], Bool.and_eq_true_iff.mpr ⟨hosts, rfl⟩, rfl⟩
  | @child host child _ among inner ih =>
      obtain ⟨position, member, isHost, rfl⟩ := ih
      refine ⟨_, Element.mem_positions_child member among, ?_, rfl⟩
      rw [Position.isHost, Element.allHost_cons, inner, Bool.true_and]
      exact isHost

namespace Session

/--
Compiling a document whose root is host markup judges its parts in order.  The elements of the
extension among them are those that stand in host markup, each once; all parts stand on elements
that are host markup in host markup, and all that stands on such an element is a part; and an
element of the extension that is not allowed where it stands is reported.
-/
theorem compile_reaches (session : Session σ) (document : Document)
    (hosts : isHostMarkup document.root.name.namespaceUri = true) :
    let parts := Part.ofHost document.root
    session.compile document =
        (.ofOutcomes (Part.judgeAll session parts).1, (Part.judgeAll session parts).2) ∧
      parts.filter Part.isOwnElement =
        (document.root.positions []).filterMap Position.ownPart? ∧
      (∀ part, part ∈ parts ↔ ∃ position ∈ document.root.positions [],
        position.isHost = true ∧ part.IsOn position.element) ∧
      ∀ host element, ElementKind.route? host.localName element.localName = none →
        ∀ session : Session σ, (Part.ownElement host element).judge session =
          (.ofDiagnostic (Message.unexpectedElement host element), session) := by
  refine ⟨session.compile_eq document, Part.filter_isOwnElement_ofHost hosts rfl, ?_,
    fun host element unrouted session => session.judgeElement_of_route?_eq_none unrouted⟩
  intro part
  rw [Part.mem_ofHost]
  constructor
  · rintro ⟨host, visited, stands⟩
    obtain ⟨position, among, isHost, rfl⟩ := visited.exists_position hosts
    exact ⟨position, among, isHost, stands⟩
  · rintro ⟨position, among, isHost, stands⟩
    exact ⟨position.element, .of_mem_positions among isHost, stands⟩

/-- A condition is judged in the bundle, and not inside the element of another extension. -/
theorem compile_reaches_bundle :
    let session : Session Unit := .start {} .empty
    let element (uri : Option String) (localName : String) (children : List Element) : Element :=
      ⟨⟨uri, localName, none⟩, default, [], [], .elements children, default⟩
    let condition := element (some ownNamespace) "Condition" []
    let bundle := element none "Bundle" [element (some "urn:f") "a" [condition], condition]
    isHostMarkup bundle.name.namespaceUri = true ∧
      (Part.ofHost bundle).filter Part.isOwnElement = [.ownElement bundle condition] ∧
      session.compile ⟨bundle, default⟩ =
        (.ofOutcomes (Part.judgeAll session (Part.ofHost bundle)).1,
          (Part.judgeAll session (Part.ofHost bundle)).2) := by
  intro session element condition bundle
  have hosts : isHostMarkup bundle.name.namespaceUri = true := by decide
  obtain ⟨compiled, own, _, _⟩ := compile_reaches session ⟨bundle, default⟩ hosts
  refine ⟨hosts, own.trans ?_, compiled⟩
  have inside (uri : Option String) (localName : String) (children : List Element) :
      (element uri localName children).childElements = children := rfl
  simp only [bundle, condition, Element.positions_eq, inside, List.flatMap_cons, List.flatMap_nil]
  rfl

/-- The root is walked whatever its namespace. -/
theorem compile_outside :
    let session : Session Unit := .start {} .empty
    let own := ("<bal:Condition xmlns:bal='" ++ ownNamespace ++ "'/>").toList
    let foreign := ("<x:Variable xmlns:x='urn:x' xmlns:bal='" ++ ownNamespace ++
      "' Name='V' bal:Overridable='yes'/>").toList
    (∃ document, Document.read default own = .ok document ∧
      document.root.name.namespaceUri = ownNamespace ∧
      (session.compile document).1 = .empty) ∧
    ∃ document, Document.read default foreign = .ok document ∧
      isHostMarkup document.root.name.namespaceUri = false ∧
      (session.compile document).1.rows ≠ [] := by
  intro session own foreign
  constructor
  · have facts : (Document.read default own).toOption.map (fun document =>
        (document.root.name.namespaceUri, (session.compile document).1)) =
          some (ownNamespace, .empty) := by
      decide +kernel
    obtain ⟨document, reads, seen⟩ := Document.exists_of_map_read facts
    obtain ⟨root, nothing⟩ := Prod.mk.inj seen
    exact ⟨document, reads, root, nothing⟩
  · have facts : (Document.read default foreign).toOption.map (fun document =>
        (isHostMarkup document.root.name.namespaceUri,
          (session.compile document).1.rows.length)) = some (false, 1) := by
      decide +kernel
    obtain ⟨document, reads, seen⟩ := Document.exists_of_map_read facts
    obtain ⟨outside, single⟩ := Prod.mk.inj seen
    refine ⟨document, reads, outside, fun none => ?_⟩
    rw [none] at single
    cases single

end Session
end BundleMarkup
