import BundleMarkup.Proofs.Judging.Bearer

/-!
# Rewritten markup

What is demanded of an element beyond its attributes and children, and the rows that it gives, are a
matter of the values that were read from it, of its text and of how and where its name is written.
Rewriting the names of elements and attributes one by one, within their namespaces, changes neither
the values that are read nor which parts a document has.
-/

namespace BundleMarkup

/-- Elements with the same text and names that are written alike, at the same places. -/
structure Element.Alike (left right : Element) : Prop where
  localName : left.localName = right.localName
  /-- Diagnostics tell an element by its name as written. -/
  written : left.name.written = right.name.written
  namespaceUri : left.name.namespaceUri = right.name.namespaceUri
  nameSpan : left.nameSpan = right.nameSpan
  innerText : left.innerText = right.innerText
  span : left.span = right.span

/-- Attributes are no matter of how an element is told. -/
theorem Element.alike_of_attributes (element : Element) (attributes : List Attribute) :
    ({ element with attributes } : Element).Alike element := ⟨rfl, rfl, rfl, rfl, rfl, rfl⟩

section

variable {left right : Element} (alike : left.Alike right)

include alike

theorem Message.unexpectedElement_congr {parent parent' : Element}
    (parents : parent.Alike parent') :
    unexpectedElement parent left = unexpectedElement parent' right := by
  simp only [unexpectedElement, parents.written, alike.written, alike.namespaceUri, alike.nameSpan]

theorem Message.unsupportedExtensionElement_congr {parent parent' : Element}
    (parents : parent.Alike parent') :
    unsupportedExtensionElement parent left = unsupportedExtensionElement parent' right := by
  simp only [unsupportedExtensionElement, parents.written, alike.written, alike.namespaceUri,
    alike.nameSpan]

theorem Element.Alike.expression?_eq :
    LaunchCondition.expression? left = LaunchCondition.expression? right :=
  LaunchCondition.expression?_congr (by rw [alike.innerText])

theorem ValueKind.read_congr (kind : ValueKind) (attr : Attribute) :
    kind.read left attr = kind.read right attr := by
  cases kind with
  | text => rfl
  | nonEmptyText => simp only [read, Message.illegalEmptyValue, alike.written]
  | yesNo => simp only [read, Message.illegalEmptyValue, Message.illegalYesNoValue, alike.written]

variable {values values' : CollectedAttributes} (given : values.get? = values'.get?)

include given

theorem ElementRule.missing_congr (rule : ElementRule) :
    rule.missing left values = rule.missing right values' := by
  simp only [missing, CollectedAttributes.isPresent_congr given, Message.expectedAttribute,
    alike.written, alike.nameSpan]

namespace Validator

theorem beforeChildren_congr (kind : ElementKind) :
    kind.validator.beforeChildren left values = kind.validator.beforeChildren right values' := by
  cases kind with
  | condition =>
      change LaunchCondition.missing _ _ = LaunchCondition.missing _ _
      simp only [LaunchCondition.missing, alike.expression?_eq,
        CollectedAttributes.isPresent_congr given, Message.expectedCondition,
        Message.expectedAttribute, alike.written, alike.nameSpan]
  | standardUi => rfl
  | managedHost => rfl

theorem afterChildren_congr (kind : ElementKind) :
    kind.validator.afterChildren left values = kind.validator.afterChildren right values' := by
  cases kind with
  | condition => rfl
  | standardUi =>
      change StandardUi.missingLicense _ _ = StandardUi.missingLicense _ _
      simp only [StandardUi.missingLicense, CollectedAttributes.isPresent_congr given,
        CollectedAttributes.isNullOrEmpty_congr given, Message.expectedEitherAttribute,
        alike.written, alike.nameSpan]
  | managedHost =>
      change ManagedHost.licenseProblem _ _ = ManagedHost.licenseProblem _ _
      simp only [ManagedHost.licenseProblem, CollectedAttributes.isNullOrEmpty_congr given,
        Message.expectedExactlyOne, alike.written, alike.nameSpan]

theorem fillings_congr (kind : ElementKind) :
    kind.validator.fillings left values = kind.validator.fillings right values' := by
  cases kind with
  | condition =>
      change LaunchCondition.fillings _ _ = LaunchCondition.fillings _ _
      rw [LaunchCondition.fillings, LaunchCondition.fillings, alike.expression?_eq,
        CollectedAttributes.text?_congr given]
  | standardUi =>
      change StandardUi.fillings _ = StandardUi.fillings _
      simp only [StandardUi.fillings, StandardUi.launchFillings, linkFillings,
        StandardUi.optionsFillings, CollectedAttributes.text?_congr given,
        CollectedAttributes.yesNo_congr given]
  | managedHost =>
      change linkFillings _ _ = linkFillings _ _
      rw [linkFillings, linkFillings, CollectedAttributes.text?_congr given]

theorem rows_congr (kind : ElementKind) :
    kind.validator.rows left values = kind.validator.rows right values' := by
  rw [rows, rows, fillings_congr alike given, alike.span]

end Validator
end

/-- A way to rewrite elements and attributes, each in its place and within its namespace. -/
structure Rewriting where
  onElement : Element → Element
  onAttribute : Attribute → Attribute
  /-- An element stays in its namespace. -/
  uri_onElement (host : Element) : (onElement host).name.namespaceUri = host.name.namespaceUri
  attributes_onElement (host : Element) :
    (onElement host).attributes = host.attributes.map onAttribute
  childElements_onElement (host : Element) :
    (onElement host).childElements = host.childElements.map onElement
  /-- An attribute stays in its namespace. -/
  uri_onAttribute (attr : Attribute) : (onAttribute attr).name.namespaceUri = attr.name.namespaceUri
  localName_onAttribute (attr : Attribute) : (onAttribute attr).name.localName = attr.name.localName
  value_onAttribute (attr : Attribute) : (onAttribute attr).value = attr.value

namespace CollectedAttributes

variable (rewrite : Attribute → Attribute) (values : CollectedAttributes) (name : String)

/-- The same values, read from attributes that are written differently. -/
def mapSource : CollectedAttributes :=
  ⟨values.entries.map fun entry => { entry with source := rewrite entry.source }⟩

theorem entry?_mapSource :
    entry? (values.mapSource rewrite) name =
      (values.entry? name).map fun entry => { entry with source := rewrite entry.source } := by
  unfold entry?
  rw [mapSource, List.find?_map]
  rfl

theorem get?_mapSource : (values.mapSource rewrite).get? name = values.get? name := by
  rw [get?, entry?_mapSource, Option.map_map]
  rfl

theorem source?_mapSource :
    (values.mapSource rewrite).source? name = (values.source? name).map rewrite := by
  rw [source?, entry?_mapSource, source?, Option.map_map, Option.map_map]
  rfl

theorem filterMap_source?_mapSource (group : List String) :
    group.filterMap (values.mapSource rewrite).source? =
      (group.filterMap values.source?).map rewrite := by
  rw [List.map_filterMap]
  exact List.filterMap_congr fun name _ => source?_mapSource rewrite values name

end CollectedAttributes

namespace Rewriting

variable (rewriting : Rewriting)

theorem isUnqualifiedOrIn_onAttribute (attr : Attribute) (uri : String) :
    (rewriting.onAttribute attr).name.isUnqualifiedOrIn uri = attr.name.isUnqualifiedOrIn uri := by
  rw [Name.isUnqualifiedOrIn_eq, Name.isUnqualifiedOrIn_eq, rewriting.uri_onAttribute]

theorem ownAttributes_onElement (host : Element) :
    (rewriting.onElement host).ownAttributes = host.ownAttributes.map rewriting.onAttribute := by
  rw [Element.ownAttributes, Element.ownAttributes, rewriting.attributes_onElement, List.filter_map]
  refine congrArg (List.map _) (List.filter_congr fun attr _ => ?_)
  rw [Function.comp_apply, rewriting.uri_onAttribute]

/-- The same values are read from rewritten markup. -/
theorem valuesOf_onElement (rule : ElementRule) (element : Element) :
    rule.valuesOf (rewriting.onElement element) =
      (rule.valuesOf element).mapSource rewriting.onAttribute := by
  have recorded (attr : Attribute) :
      rule.entry? (rewriting.onElement element) (rewriting.onAttribute attr) =
        (rule.entry? element attr).map fun entry =>
          { entry with source := rewriting.onAttribute entry.source } := by
    unfold ElementRule.entry?
    rw [rewriting.isUnqualifiedOrIn_onAttribute, rewriting.localName_onAttribute]
    split
    · have read (kind : ValueKind) := kind.value_read_congr (rewriting.value_onAttribute attr)
        (rewriting.onElement element) element
      simp only [read, Option.map_map]
      rfl
    · rfl
  rw [ElementRule.valuesOf, ElementRule.valuesOf, CollectedAttributes.mapSource,
    rewriting.attributes_onElement, List.filterMap_map, List.map_filterMap]
  exact congrArg _ (List.filterMap_congr fun attr _ => recorded attr)

theorem isOverridable_onElement (host : Element) (attributes : List Attribute) :
    HostAttributes.isOverridable (rewriting.onElement host) (attributes.map rewriting.onAttribute) =
      HostAttributes.isOverridable host attributes := by
  have answers : (attributes.map rewriting.onAttribute).filter (fun attr =>
        HostAttributeKind.named? attr.name.localName = some .overridable) =
      (attributes.filter fun attr =>
        HostAttributeKind.named? attr.name.localName = some .overridable).map
          rewriting.onAttribute := by
    rw [List.filter_map]
    simp only [Function.comp_def, rewriting.localName_onAttribute]
  simp only [HostAttributes.isOverridable, answers, List.getLast?_map]
  cases (attributes.filter fun attr =>
    HostAttributeKind.named? attr.name.localName = some .overridable).getLast? with
  | none => rfl
  | some attr =>
      have read := ValueKind.yesNo.value_read_congr (rewriting.value_onAttribute attr)
        (rewriting.onElement host) host
      simp only [Option.map_some, read]

end Rewriting

namespace Part

variable (rewriting : Rewriting)

/-- A part made of rewritten markup. -/
def rewrite : Part → Part
  | .foreignAttribute host attr =>
      .foreignAttribute (rewriting.onElement host) (rewriting.onAttribute attr)
  | .ownAttributes host attributes =>
      .ownAttributes (rewriting.onElement host) (attributes.map rewriting.onAttribute)
  | .ownElement host element => .ownElement (rewriting.onElement host) (rewriting.onElement element)
  | .foreignElement host element =>
      .foreignElement (rewriting.onElement host) (rewriting.onElement element)

theorem ofAttributes_rewrite (host : Element) :
    ofAttributes (rewriting.onElement host) = (ofAttributes host).map (rewrite rewriting) := by
  have foreign (attr : Attribute) :
      ofAttribute? (rewriting.onElement host) (rewriting.onAttribute attr) =
        (ofAttribute? host attr).map (rewrite rewriting) := by
    rw [ofAttribute?, ofAttribute?, rewriting.uri_onAttribute]
    split <;> rfl
  have own : ofOwnAttributes (rewriting.onElement host) =
      (ofOwnAttributes host).map (rewrite rewriting) := by
    rw [ofOwnAttributes, ofOwnAttributes, rewriting.ownAttributes_onElement, List.isEmpty_map]
    split <;> rfl
  rw [ofAttributes, ofAttributes, own, List.map_append, rewriting.attributes_onElement,
    List.filterMap_map, List.map_filterMap]
  exact congrArg (· ++ _) (List.filterMap_congr fun attr _ => foreign attr)

/-- The parts of rewritten markup are those of the markup, rewritten. -/
theorem ofHost_rewrite (host : Element) :
    ofHost (rewriting.onElement host) = (ofHost host).map (rewrite rewriting) := by
  induction host using Element.children_induction with
  | parent host ih =>
      have child (child : Element) (among : child ∈ host.childElements) :
          ofChild (rewriting.onElement host) (rewriting.onElement child) =
            (ofChild host child).map (rewrite rewriting) := by
        rw [ofChild, ofChild, ofMarkup, ofMarkup, rewriting.uri_onElement]
        split
        · exact ih child among
        · split <;> rfl
      rw [ofHost_eq, ofHost_eq, ofAttributes_rewrite, List.map_append,
        rewriting.childElements_onElement, List.flatMap_map, List.map_flatMap]
      exact congrArg (_ ++ ·) (List.flatMap_congr child)

end Part
end BundleMarkup
