import BundleMarkup.Proofs.Judging.HostAttributes
import BundleMarkup.Proofs.Judging.Rewriting
import Mathlib.Data.List.Find

/-!
# The empty namespace

A name in no namespace is given without a namespace or with the empty one.  Judging takes both for
the same, on every element and attribute, as long as no other extension tells them apart.  There is
one exception: the name of a host variable is looked up among the attributes without a namespace.
-/

namespace BundleMarkup

variable {σ : Type}

namespace Name

/-- A name whose namespace is absent if it is empty. -/
def canonical (name : Name) : Name :=
  { name with uri := if name.namespaceUri = "" then none else some name.namespaceUri }

variable (name : Name)

@[simp]
theorem namespaceUri_canonical : name.canonical.namespaceUri = name.namespaceUri := by
  by_cases empty : name.namespaceUri = ""
  · rw [canonical, if_pos empty, empty]
    rfl
  · rw [canonical, if_neg empty]
    rfl

@[simp]
theorem localName_canonical : name.canonical.localName = name.localName := rfl

@[simp]
theorem written_canonical : name.canonical.written = name.written := rfl

@[simp]
theorem isUnqualifiedOrIn_canonical (uri : String) :
    name.canonical.isUnqualifiedOrIn uri = name.isUnqualifiedOrIn uri := by
  rw [isUnqualifiedOrIn_eq, isUnqualifiedOrIn_eq, namespaceUri_canonical]

/-- Only a name in the empty namespace is given differently. -/
theorem canonical_of_ne {name : Name} (plain : name.uri ≠ some "") : name.canonical = name := by
  obtain ⟨uri, localName, qualifier⟩ := name
  cases uri with
  | none => rfl
  | some own =>
      have other : own ≠ "" := fun same => plain (congrArg some same)
      exact congrArg (Name.mk · localName qualifier) (if_neg other)

/-- Names come to the same if they are written alike in what is, as a text, the same namespace. -/
theorem canonical_eq_iff {left right : Name} :
    left.canonical = right.canonical ↔ left.namespaceUri = right.namespaceUri ∧
      left.localName = right.localName ∧ left.qualifier = right.qualifier := by
  constructor
  · intro same
    have uris : left.canonical.namespaceUri = right.canonical.namespaceUri := by rw [same]
    have localNames : left.canonical.localName = right.canonical.localName := by rw [same]
    have qualifiers : left.canonical.qualifier = right.canonical.qualifier := by rw [same]
    rw [namespaceUri_canonical, namespaceUri_canonical] at uris
    exact ⟨uris, localNames, qualifiers⟩
  · rintro ⟨uris, localNames, qualifiers⟩
    rw [canonical, canonical, uris, localNames, qualifiers]

end Name

/-- An attribute without the empty namespace. -/
def Attribute.canonical (attr : Attribute) : Attribute :=
  { attr with name := attr.name.canonical }

mutual

/-- An element without the empty namespace, in its own name and in all that it contains. -/
def Element.canonical : Element → Element
  | ⟨name, nameSpan, attributes, declarations, children, span⟩ =>
      ⟨name.canonical, nameSpan, attributes.map Attribute.canonical, declarations,
        children.canonical, span⟩

def Children.canonical : Children → Children
  | .elements list => .elements (list.map Element.canonical)
  | .text content span => .text content span
  | .mixed list => .mixed (list.map Node.canonical)
  | .empty => .empty

def Node.canonical : Node → Node
  | .element child => .element child.canonical
  | .text content span => .text content span

end

@[simp]
theorem Attribute.name_canonical (attr : Attribute) :
    attr.canonical.name = attr.name.canonical := rfl

theorem Node.element?_canonical (node : Node) :
    node.canonical.element? = node.element?.map Element.canonical := by
  cases node with
  | element child => rw [canonical]; rfl
  | text content span => rw [canonical]; rfl

theorem Node.text?_canonical (node : Node) : node.canonical.text? = node.text? := by
  cases node with
  | element child => rw [canonical]; rfl
  | text content span => rw [canonical]

namespace Children

variable (children : Children)

theorem childElements_canonical :
    children.canonical.childElements = children.childElements.map Element.canonical := by
  cases children with
  | elements list => rw [canonical]; rfl
  | text content span => rw [canonical]; rfl
  | mixed list =>
      rw [canonical, childElements, childElements, List.filterMap_map, List.map_filterMap]
      exact List.filterMap_congr fun node _ => node.element?_canonical
  | empty => rw [canonical]; rfl

theorem innerText_canonical : children.canonical.innerText = children.innerText := by
  cases children with
  | elements list => rw [canonical]; rfl
  | text content span => rw [canonical]
  | mixed list =>
      rw [canonical, innerText, innerText, List.filterMap_map]
      exact congrArg String.join (List.filterMap_congr fun node _ => node.text?_canonical)
  | empty => rw [canonical]

end Children

namespace Element

variable (element : Element)

@[simp]
theorem name_canonical : element.canonical.name = element.name.canonical := by
  cases element
  rw [canonical]

@[simp]
theorem localName_canonical : element.canonical.localName = element.localName := by
  rw [localName, name_canonical, Name.localName_canonical, localName]

@[simp]
theorem nameSpan_canonical : element.canonical.nameSpan = element.nameSpan := by
  cases element
  rw [canonical]

@[simp]
theorem attributes_canonical :
    element.canonical.attributes = element.attributes.map Attribute.canonical := by
  cases element
  rw [canonical]

@[simp]
theorem childElements_canonical :
    element.canonical.childElements = element.childElements.map canonical := by
  cases element
  rw [canonical]
  exact Children.childElements_canonical _

@[simp]
theorem innerText_canonical : element.canonical.innerText = element.innerText := by
  cases element
  rw [canonical]
  exact Children.innerText_canonical _

@[simp]
theorem span_canonical : element.canonical.span = element.span := by
  cases element
  rw [canonical]

/-- An element is told alike with and without the empty namespace. -/
theorem canonical_alike : element.canonical.Alike element where
  localName := element.localName_canonical
  written := by rw [name_canonical, Name.written_canonical]
  namespaceUri := by rw [name_canonical, Name.namespaceUri_canonical]
  nameSpan := element.nameSpan_canonical
  innerText := element.innerText_canonical
  span := element.span_canonical

end Element

/-- The empty namespace is taken away element by element. -/
def Rewriting.canonical : Rewriting where
  onElement := Element.canonical
  onAttribute := Attribute.canonical
  uri_onElement host := host.canonical_alike.namespaceUri
  attributes_onElement := Element.attributes_canonical
  childElements_onElement := Element.childElements_canonical
  uri_onAttribute attr := attr.name.namespaceUri_canonical
  localName_onAttribute _ := rfl
  value_onAttribute _ := rfl

/-- An extension answers alike with and without the empty namespace. -/
structure Extension.IgnoresEmptyNamespace (extension : Extension σ) : Prop where
  onAttribute (state : σ) (element : Element) (attr : Attribute) :
    extension.onAttribute state element.canonical attr.canonical =
      extension.onAttribute state element attr
  onElement (state : σ) (parent element : Element) :
    extension.onElement state parent.canonical element.canonical =
      extension.onElement state parent element

/-- All extensions of a table answer alike with and without the empty namespace. -/
def Extensions.IgnoreEmptyNamespace (extensions : Extensions σ) : Prop :=
  ∀ extension ∈ extensions.kinds, extension.IgnoresEmptyNamespace

/-- A step for markup without the empty namespace. -/
def Step.canonical : Step → Step
  | report diagnostic => report diagnostic
  | delegateAttribute bearer attr => delegateAttribute bearer.canonical attr.canonical
  | delegateElement parent element => delegateElement parent.canonical element.canonical

theorem Step.map_canonical_map_report (diagnostics : List Diagnostic) :
    (diagnostics.map report).map canonical = diagnostics.map report := by
  rw [List.map_map]
  rfl

/-- Extensions that act to the same effect answer to the same effect. -/
theorem Loaded.answer_eq_of_forall_mem {act act' : Loaded σ → Outcome × σ} {uri : String}
    {otherwise : Outcome} {list : List (Loaded σ)}
    (same : ∀ loaded ∈ list, act loaded = act' loaded) :
    answer uri act otherwise list = answer uri act' otherwise list := by
  induction list with
  | nil => rfl
  | cons first rest ih =>
      have later := ih fun loaded among => same loaded (List.mem_cons_of_mem first among)
      rw [answer, answer, same first List.mem_cons_self, later]

namespace Extensions

theorem perform_canonical {extensions : Extensions σ} (ignoring : extensions.IgnoreEmptyNamespace)
    (step : Step) : extensions.perform step.canonical = extensions.perform step := by
  have ignores (loaded : Loaded σ) (among : loaded ∈ extensions.loaded) :
      loaded.extension.IgnoresEmptyNamespace :=
    ignoring loaded.extension (List.mem_map_of_mem among)
  cases step with
  | report diagnostic => rfl
  | delegateAttribute bearer attr =>
      have unclaimed : Message.unsupportedExtensionAttribute bearer.canonical attr.canonical =
          Message.unsupportedExtensionAttribute bearer attr := by
        simp only [Message.unsupportedExtensionAttribute, bearer.canonical_alike.written,
          Attribute.name_canonical, Name.written_canonical, Name.namespaceUri_canonical]
        rfl
      simp only [Step.canonical, perform, judgeAttribute, unclaimed, Attribute.name_canonical,
        Name.namespaceUri_canonical]
      rw [Loaded.answer_eq_of_forall_mem fun loaded among =>
        (ignores loaded among).onAttribute loaded.state bearer attr]
  | delegateElement parent element =>
      have unclaimed := Message.unsupportedExtensionElement_congr element.canonical_alike
        parent.canonical_alike
      simp only [Step.canonical, perform, judgeElement, unclaimed, Element.name_canonical,
        Name.namespaceUri_canonical]
      rw [Loaded.answer_eq_of_forall_mem fun loaded among =>
        (ignores loaded among).onElement loaded.state parent element]

theorem performAll_canonical {extensions : Extensions σ}
    (ignoring : extensions.IgnoreEmptyNamespace) (steps : List Step) :
    extensions.performAll (steps.map Step.canonical) = extensions.performAll steps := by
  induction steps generalizing extensions with
  | nil => rfl
  | cons step rest ih =>
      have later : (extensions.perform step).2.IgnoreEmptyNamespace := by
        rw [IgnoreEmptyNamespace, kinds_perform]
        exact ignoring
      rw [List.map_cons, performAll_cons, performAll_cons, perform_canonical ignoring, ih later]

end Extensions

/-! ## Plans -/

theorem ValueKind.read_canonical (kind : ValueKind) (element : Element) (attr : Attribute) :
    kind.read element.canonical attr.canonical = kind.read element attr := by
  rw [kind.read_congr element.canonical_alike]
  cases kind <;> rfl

namespace ElementRule

variable (rule : ElementRule) (element : Element)

theorem valuesOf_canonical :
    rule.valuesOf element.canonical = (rule.valuesOf element).mapSource Attribute.canonical :=
  Rewriting.canonical.valuesOf_onElement rule element

/-- The same values are read with and without the empty namespace. -/
theorem get?_valuesOf_canonical :
    (rule.valuesOf element.canonical).get? = (rule.valuesOf element).get? := by
  rw [valuesOf_canonical]
  exact funext (CollectedAttributes.get?_mapSource Attribute.canonical _)

theorem conflicts_canonical :
    rule.conflicts element.canonical (rule.valuesOf element.canonical) =
      rule.conflicts element (rule.valuesOf element) := by
  rw [valuesOf_canonical]
  refine List.filterMap_congr fun group _ => ?_
  rw [conflict?, conflict?, CollectedAttributes.filterMap_source?_mapSource]
  rcases group.filterMap (rule.valuesOf element).source? with _ | ⟨first, _ | ⟨second, others⟩⟩
  · rfl
  · rfl
  · simp only [List.map_cons, Message.mutuallyExclusive, element.canonical_alike.written]
    rfl

theorem attributePlan_canonical (attr : Attribute) :
    rule.attributePlan element.canonical attr.canonical =
      (rule.attributePlan element attr).map Step.canonical := by
  rw [attributePlan, attributePlan, Attribute.name_canonical, Name.isUnqualifiedOrIn_canonical,
    Name.localName_canonical]
  split
  · split
    · rw [ValueKind.read_canonical, Step.map_canonical_map_report]
    · simp only [Message.unexpectedAttribute, element.canonical_alike.written]
      rfl
  · rfl

theorem plan_canonical :
    rule.plan element.canonical = (rule.plan element).map Step.canonical := by
  have attributes : (element.attributes.map Attribute.canonical).flatMap
        (rule.attributePlan element.canonical) =
      (element.attributes.flatMap (rule.attributePlan element)).map Step.canonical := by
    rw [List.flatMap_map, List.map_flatMap]
    exact List.flatMap_congr fun attr _ => rule.attributePlan_canonical element attr
  have missing := rule.missing_congr element.canonical_alike (rule.get?_valuesOf_canonical element)
  simp only [plan, attributes, missing, conflicts_canonical, Element.attributes_canonical,
    List.map_append, Step.map_canonical_map_report]

end ElementRule

namespace Validator

variable (kind : ElementKind) (element : Element)

theorem childStep_canonical (child : Element) :
    childStep element.canonical child.canonical = (childStep element child).canonical := by
  rw [childStep, childStep, Element.name_canonical, Name.namespaceUri_canonical]
  split
  · rw [Message.unexpectedElement_congr child.canonical_alike element.canonical_alike]
    rfl
  · rfl

theorem plan_canonical :
    kind.validator.plan element.canonical = (kind.validator.plan element).map Step.canonical := by
  have alike := element.canonical_alike
  have given := kind.validator.rule.get?_valuesOf_canonical element
  have children : (element.childElements.map Element.canonical).map
        (childStep element.canonical) =
      (element.childElements.map (childStep element)).map Step.canonical := by
    rw [List.map_map, List.map_map]
    exact List.map_congr_left fun child _ => childStep_canonical element child
  simp only [plan, beforeChildren_congr alike given, afterChildren_congr alike given,
    ElementRule.plan_canonical, Element.childElements_canonical, children, List.map_append,
    Step.map_canonical_map_report]

theorem ownRows_canonical :
    kind.validator.ownRows element.canonical = kind.validator.ownRows element :=
  rows_congr element.canonical_alike (kind.validator.rule.get?_valuesOf_canonical element) kind

end Validator

theorem Session.judgeElement_canonical (session : Session σ)
    (ignoring : session.extensions.IgnoreEmptyNamespace) (parent element : Element) :
    session.judgeElement parent.canonical element.canonical =
      session.judgeElement parent element := by
  have names : ElementKind.route? parent.canonical.localName element.canonical.localName =
      ElementKind.route? parent.localName element.localName := by
    rw [parent.canonical_alike.localName, element.canonical_alike.localName]
  cases routed : ElementKind.route? parent.localName element.localName with
  | none =>
      rw [session.judgeElement_of_route?_eq_none routed,
        session.judgeElement_of_route?_eq_none (names.trans routed),
        Message.unexpectedElement_congr element.canonical_alike parent.canonical_alike]
  | some kind =>
      have judged := session.judgeElement_of_route?_eq_some routed
      have judged' := session.judgeElement_of_route?_eq_some (names.trans routed)
      simp only [Validator.plan_canonical, Validator.ownRows_canonical,
        Extensions.performAll_canonical ignoring] at judged'
      rw [judged, judged', remember_congr _ kind element.span_canonical rfl]

namespace HostAttributes

/-- The name that a host variable declares; other host elements declare none. -/
def declaredName? (host : Element) : Option String :=
  if host.localName = "Variable" then variableName? host else none

/-- Unless a `Name` is given in the empty namespace, a host variable declares the same name. -/
theorem declaredName?_canonical {host : Element} (plain : ∀ attr ∈ host.attributes,
    attr.name.localName = "Name" → attr.name.uri ≠ some "") :
    declaredName? host.canonical = declaredName? host := by
  have accepted (attr : Attribute) (among : attr ∈ host.attributes) :
      (attr.canonical.name.uri.isNone && attr.canonical.name.localName == "Name") =
        (attr.name.uri.isNone && attr.name.localName == "Name") := by
    rw [Attribute.name_canonical, Name.localName_canonical]
    by_cases named : attr.name.localName = "Name"
    · rw [Name.canonical_of_ne (plain attr among named)]
    · rw [beq_false_of_ne named, Bool.and_false, Bool.and_false]
  have found : host.canonical.attribute? "Name" =
      (host.attribute? "Name").map Attribute.canonical := by
    rw [Element.attribute?, Element.attributes_canonical, List.find?_map, Element.attribute?]
    exact congrArg (Option.map _) (List.find?_congr accepted)
  rw [declaredName?, declaredName?, Element.localName_canonical, variableName?, variableName?,
    found, Option.map_map]
  rfl

/-- What is wrong with attributes of the extension on a host element that declares a given name. -/
def problemsUnder (name : Option String) (host : Element) (attributes : List Attribute) :
    List Diagnostic :=
  if host.localName = "Variable" then
    match name with
    | none => attributes.map fun attr => Message.expectedParentWithAttribute host attr "Name"
    | some _ => attributes.filterMap (fault? host)
  else
    attributes.map (Message.unexpectedAttribute host)

/-- The rows that attributes of the extension give on a host element that declares a given name. -/
def rowsUnder (name : Option String) (host : Element) (attributes : List Attribute) : List Row :=
  match name with
  | some name =>
      if isOverridable host attributes then [.ofTexts .overridable [name] host.span] else []
  | none => []

variable (host : Element) (attributes : List Attribute)

theorem problems_eq_problemsUnder :
    problems host attributes = problemsUnder (declaredName? host) host attributes := by
  unfold problemsUnder declaredName?
  by_cases bearer : host.localName = "Variable"
  · rw [if_pos bearer, if_pos bearer, variableName?]
    cases named : host.attribute? "Name" with
    | none => exact problems_of_nameless bearer named
    | some name => exact problems_of_name bearer named
  · rw [problems_of_ne bearer, if_neg bearer]

theorem ownRows_eq_rowsUnder :
    ownRows host attributes = rowsUnder (declaredName? host) host attributes := by
  by_cases bearer : host.localName = "Variable"
  · rw [declaredName?, if_pos bearer, ownRows, HostKind.named?_eq_hostVariable.mpr bearer]
    exact rows_eq host attributes
  · rw [declaredName?, if_neg bearer, ownRows_of_ne bearer]
    rfl

theorem fault?_canonical (attr : Attribute) :
    fault? host.canonical attr.canonical = fault? host attr := by
  simp only [fault?, Message.unexpectedAttribute, Message.illegalEmptyValue,
    Message.illegalYesNoValue, host.canonical_alike.written]
  rfl

theorem problemsUnder_canonical (name : Option String) :
    problemsUnder name host.canonical (attributes.map .canonical) =
      problemsUnder name host attributes := by
  simp only [problemsUnder, Element.localName_canonical, List.map_map, List.filterMap_map,
    Function.comp_def, fault?_canonical, Message.expectedParentWithAttribute,
    Message.unexpectedAttribute, host.canonical_alike.written]
  rfl

theorem rowsUnder_canonical (name : Option String) :
    rowsUnder name host.canonical (attributes.map .canonical) = rowsUnder name host attributes := by
  have overridable : isOverridable host.canonical (attributes.map .canonical) =
      isOverridable host attributes :=
    Rewriting.canonical.isOverridable_onElement host attributes
  simp only [rowsUnder, Element.span_canonical, overridable]

/-- Judge attributes of the extension on a host element that declares a given name. -/
def judgeUnder (policy : WarningPolicy) (name : Option String) (host : Element)
    (attributes : List Attribute) : Outcome :=
  .settle policy ((problemsUnder name host attributes).map .ofDiagnostic)
    (rowsUnder name host attributes)

/-- The declared name is all that the empty namespace has a say in. -/
theorem judge_eq_judgeUnder (policy : WarningPolicy) :
    judge policy host attributes =
      judgeUnder policy (declaredName? host) host.canonical (attributes.map .canonical) := by
  rw [judge_eq, problems_eq_problemsUnder, ownRows_eq_rowsUnder, judgeUnder,
    problemsUnder_canonical, rowsUnder_canonical]

end HostAttributes

/-! ## Parts -/

namespace Part

/-- The name that the host variable declares whose attributes are the part. -/
def declaredName? : Part → Option String
  | .ownAttributes host _ => HostAttributes.declaredName? host
  | _ => none

/-- Judge a part; if it is made of attributes, their host element declares a given name. -/
def judgeUnder (session : Session σ) (name : Option String) : Part → Outcome × Session σ
  | .ownAttributes host attributes =>
      (HostAttributes.judgeUnder session.policy name host attributes, session)
  | part => part.judge session

theorem judge_eq_judgeUnder {session : Session σ}
    (ignoring : session.extensions.IgnoreEmptyNamespace) (part : Part) :
    part.judge session = (part.rewrite .canonical).judgeUnder session part.declaredName? := by
  cases part with
  | foreignAttribute host attr =>
      have answered : session.extensions.judgeAttribute host.canonical attr.canonical =
          session.extensions.judgeAttribute host attr :=
        Extensions.perform_canonical ignoring (.delegateAttribute host attr)
      change session.delegateAttribute _ _ = session.delegateAttribute host.canonical _
      rw [Session.delegateAttribute, Session.delegateAttribute, ← answered]
      rfl
  | ownAttributes host attributes =>
      rw [judge, Session.judgeAttributes, HostAttributes.judge_eq_judgeUnder]
      rfl
  | ownElement host element => exact (session.judgeElement_canonical ignoring host element).symm
  | foreignElement host element =>
      have answered : session.extensions.judgeElement host.canonical element.canonical =
          session.extensions.judgeElement host element :=
        Extensions.perform_canonical ignoring (.delegateElement host element)
      change session.delegateElement _ _ = session.delegateElement host.canonical _
      rw [Session.delegateElement, Session.delegateElement, ← answered]
      rfl

/-- Parts come to the same if they are told apart by the empty namespace alone. -/
theorem judgeAll_eq_of_rewrite_canonical {session : Session σ}
    (ignoring : session.extensions.IgnoreEmptyNamespace) {parts parts' : List Part}
    (same : parts.map (rewrite .canonical) = parts'.map (rewrite .canonical))
    (declared : parts.map declaredName? = parts'.map declaredName?) :
    judgeAll session parts = judgeAll session parts' := by
  induction parts generalizing session parts' with
  | nil =>
      obtain rfl : parts' = [] := List.map_eq_nil_iff.mp same.symm
      rfl
  | cons part rest ih =>
      cases parts' with
      | nil => cases same
      | cons part' rest' =>
          obtain ⟨first, others⟩ := List.cons.inj same
          obtain ⟨name, names⟩ := List.cons.inj declared
          have judged : part.judge session = part'.judge session := by
            rw [judge_eq_judgeUnder ignoring, judge_eq_judgeUnder ignoring, first, name]
          have later : (part'.judge session).2.extensions.IgnoreEmptyNamespace := by
            rw [Extensions.IgnoreEmptyNamespace, kinds_judge]
            exact ignoring
          rw [judgeAll_cons, judgeAll_cons, judged, ih later others names]

end Part

theorem noteTaker_ignoresEmptyNamespace : noteTaker.IgnoresEmptyNamespace where
  onAttribute _ _ _ := rfl
  onElement state parent element := by
    simp only [noteTaker, Message.unsupportedExtensionElement_congr element.canonical_alike
      parent.canonical_alike]

namespace Session

/--
The empty namespace is no namespace, as long as no other extension tells them apart.  Elements of
the extension that differ in it alone, under parents that do, come to the same; so do the
extension's attributes on host elements that declare the same name, if any, and so do documents
whose host variables declare the same names.  Only a `Name` in the empty namespace can make the
names differ.
-/
theorem judge_ignores_emptyNamespace (session : Session σ)
    (ignoring : session.extensions.IgnoreEmptyNamespace) :
    (∀ parent parent' element element' : Element, parent.canonical = parent'.canonical →
      element.canonical = element'.canonical →
      session.judgeElement parent element = session.judgeElement parent' element') ∧
    (∀ (parent parent' : Element) (attributes attributes' : List Attribute),
      parent.canonical = parent'.canonical →
      attributes.map Attribute.canonical = attributes'.map Attribute.canonical →
      HostAttributes.declaredName? parent = HostAttributes.declaredName? parent' →
      session.judgeAttributes parent attributes = session.judgeAttributes parent' attributes') ∧
    ∀ left right : Document, left.root.canonical = right.root.canonical →
      (Part.ofHost left.root).map Part.declaredName? =
        (Part.ofHost right.root).map Part.declaredName? →
      session.compile left = session.compile right := by
  refine ⟨?_, ?_, ?_⟩
  · intro parent parent' element element' parents elements
    rw [← session.judgeElement_canonical ignoring parent, parents, elements,
      session.judgeElement_canonical ignoring]
  · intro parent parent' attributes attributes' parents same declared
    rw [judgeAttributes, judgeAttributes, HostAttributes.judge_eq_judgeUnder, parents, same,
      declared, ← HostAttributes.judge_eq_judgeUnder]
  · intro left right roots declared
    have same : (Part.ofHost left.root).map (Part.rewrite .canonical) =
        (Part.ofHost right.root).map (Part.rewrite .canonical) := by
      rw [← Part.ofHost_rewrite, ← Part.ofHost_rewrite]
      exact congrArg Part.ofHost roots
    rw [compile_eq, compile_eq, Part.judgeAll_eq_of_rewrite_canonical ignoring same declared]

/-- A bundle with a condition and a variable, in the empty namespace and in none. -/
theorem judge_ignores_emptyNamespace_bundle :
    let session := start {} ⟨[⟨noteTaker, ()⟩]⟩
    let attr (uri : Option String) (localName value : String) : Attribute :=
      ⟨⟨uri, localName, none⟩, default, value, default⟩
    let answer := attr (some ownNamespace) "Overridable" "yes"
    let condition (uri : Option String) := { bareElement ownNamespace "Condition" with
      attributes := [attr uri "Message" "m"]
      children := .text "A" default }
    let declared (uri : Option String) := { bareElement hostNamespace "Variable" with
      name := ⟨uri, "Variable", none⟩
      attributes := [attr none "Name" "V", answer, attr uri "Value" "1"] }
    let bundle (uri : Option String) := { notedBundle [condition uri, declared uri] with
      name := ⟨uri, "Bundle", none⟩ }
    session.extensions.IgnoreEmptyNamespace ∧
      (condition (some "")).canonical = (condition none).canonical ∧
      (bundle (some "")).canonical = (bundle none).canonical ∧
      (Part.ofHost (bundle (some ""))).map Part.declaredName? =
        (Part.ofHost (bundle none)).map Part.declaredName? ∧
      session.judgeElement (bundle (some "")) (condition (some "")) =
        session.judgeElement (bundle none) (condition none) ∧
      session.judgeAttributes (declared (some "")) [answer] =
        session.judgeAttributes (declared none) [answer] ∧
      (session.compile ⟨bundle (some ""), default⟩).1.rows.map Row.fields =
        [[some (.text "Owner"), some (.text "me")], [some (.text "A"), some (.text "m")],
          [some (.text "V")]] := by
  intro session attr answer condition declared bundle
  have ignoring : session.extensions.IgnoreEmptyNamespace := by
    intro extension among
    obtain rfl := List.mem_singleton.mp among
    exact noteTaker_ignoresEmptyNamespace
  have conditions : (condition (some "")).canonical = (condition none).canonical := by
    simp only [condition, bareElement, Element.canonical, Children.canonical]
    rfl
  have hosts : (declared (some "")).canonical = (declared none).canonical := by
    simp only [declared, bareElement, Element.canonical, Children.canonical]
    rfl
  have bundles : (bundle (some "")).canonical = (bundle none).canonical := by
    simp only [bundle, notedBundle, bareElement, Children.ofElements, Element.canonical,
      Children.canonical, List.map_cons, conditions, hosts]
    rfl
  have parts (uri : Option String) (empty : uri = none ∨ uri = some "") :
      Part.ofHost (bundle uri) = [.foreignAttribute (bundle uri) ownerNote,
        .ownElement (bundle uri) (condition uri), .ownAttributes (declared uri) [answer]] := by
    have inner : Part.ofHost (declared uri) = Part.ofAttributes (declared uri) ++ [] :=
      Part.ofHost_eq (declared uri)
    have listed : (bundle uri).childElements = [condition uri, declared uri] := rfl
    have own : Part.ofChild (bundle uri) (condition uri) =
        [.ownElement (bundle uri) (condition uri)] := rfl
    rw [Part.ofHost_eq, listed, List.flatMap_cons, List.flatMap_cons, own, Part.ofChild, inner]
    rcases empty with rfl | rfl
    · rfl
    · rfl
  have names : (Part.ofHost (bundle (some ""))).map Part.declaredName? =
      (Part.ofHost (bundle none)).map Part.declaredName? := by
    rw [parts _ (.inr rfl), parts _ (.inl rfl)]
    rfl
  have named (uri : Option String) (empty : uri = none ∨ uri = some "") :
      HostAttributes.declaredName? (declared uri).canonical =
        HostAttributes.declaredName? (declared uri) := by
    apply HostAttributes.declaredName?_canonical
    rcases empty with rfl | rfl
    · decide
    · decide
  obtain ⟨elements, attributes, documents⟩ := judge_ignores_emptyNamespace session ignoring
  have compiled := documents ⟨bundle (some ""), default⟩ ⟨bundle none, default⟩ bundles names
  refine ⟨ignoring, conditions, bundles, names, elements _ _ _ _ bundles conditions,
    attributes _ _ _ _ hosts rfl ?_, ?_⟩
  · rw [← named _ (.inr rfl), hosts, named _ (.inl rfl)]
  · rw [compiled, compile_eq, parts none (.inl rfl)]
    decide +kernel

/-- A host variable whose name is given in the empty namespace is taken for one without a name. -/
theorem judge_tells_emptyNamespace :
    let session : Session Unit := start {} .empty
    let attr (uri : Option String) (localName value : String) : Attribute :=
      ⟨⟨uri, localName, none⟩, default, value, default⟩
    let answer := attr (some ownNamespace) "Overridable" "yes"
    let declared (uri : Option String) := { bareElement hostNamespace "Variable" with
      attributes := [attr uri "Name" "V", answer] }
    let plain := session.judgeAttributes (declared none) [answer]
    let emptied := session.judgeAttributes (declared (some "")) [answer]
    (declared (some "")).canonical = (declared none).canonical ∧
      plain.1.diagnostics = [] ∧ plain.1.rows.map Row.fields = [[some (.text "V")]] ∧
      emptied.1.diagnostics.map Diagnostic.code = [some "B-2-3"] ∧ emptied.1.rows = [] ∧
      (session.compile ⟨declared (some ""), default⟩).1 ≠
        (session.compile ⟨declared none, default⟩).1 := by
  intro session attr answer declared plain emptied
  have hosts : (declared (some "")).canonical = (declared none).canonical := by
    simp only [declared, bareElement, Element.canonical, Children.canonical]
    rfl
  have parts (uri : Option String) (empty : uri = none ∨ uri = some "") :
      Part.ofHost (declared uri) = [.ownAttributes (declared uri) [answer]] := by
    rw [Part.ofHost_eq]
    rcases empty with rfl | rfl
    · rfl
    · rfl
  refine ⟨hosts, ?_, ?_, ?_, ?_, ?_⟩
  · decide +kernel
  · decide +kernel
  · decide +kernel
  · decide +kernel
  · rw [compile_eq, compile_eq, parts _ (.inr rfl), parts _ (.inl rfl)]
    decide +kernel

end Session
end BundleMarkup
