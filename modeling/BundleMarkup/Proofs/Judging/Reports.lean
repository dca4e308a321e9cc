import BundleMarkup.Proofs.Judging.Plan

/-!
# Reports

Every diagnostic that a plan reports is about one element: about what it lacks, about attributes
that it has, or that it is not expected where it stands.  What holds of all these messages holds of
all that is reported.
-/

namespace BundleMarkup

/-- What may be reported of an element. -/
inductive Element.Reports (element : Element) : Diagnostic → Prop
  | unexpectedElement (parent : Element) :
      Reports element (Message.unexpectedElement parent element)
  | unexpectedAttribute {attr : Attribute} (among : attr ∈ element.attributes) :
      Reports element (Message.unexpectedAttribute element attr)
  | illegalEmptyValue {attr : Attribute} (among : attr ∈ element.attributes) :
      Reports element (Message.illegalEmptyValue element attr)
  | illegalYesNoValue {attr : Attribute} (among : attr ∈ element.attributes) :
      Reports element (Message.illegalYesNoValue element attr)
  | expectedAttribute (localName : String) :
      Reports element (Message.expectedAttribute element localName)
  | expectedEitherAttribute (first second : String) :
      Reports element (Message.expectedEitherAttribute element first second)
  | expectedCondition : Reports element (Message.expectedCondition element)
  | expectedExactlyOne (first second : String) :
      Reports element (Message.expectedExactlyOne element first second)
  | expectedParentWithAttribute {attr : Attribute} (among : attr ∈ element.attributes)
      (other : String) : Reports element (Message.expectedParentWithAttribute element attr other)
  | mutuallyExclusive {attr other : Attribute} (among : attr ∈ element.attributes)
      (beside : other ∈ element.attributes) :
      Reports element (Message.mutuallyExclusive element attr other)

/-- Where all diagnostics are errors, no error is no diagnostic. -/
theorem Diagnostic.anyError_eq_false {diagnostics : List Diagnostic}
    (errors : ∀ diagnostic ∈ diagnostics, diagnostic.isError = true) :
    anyError diagnostics = false ↔ diagnostics = [] := by
  rw [anyError, List.any_eq_false, List.eq_nil_iff_forall_not_mem]
  exact forall_congr' fun diagnostic => forall_congr' fun among => by simp [errors diagnostic among]

/-- All that is reported is an error. -/
theorem Element.Reports.isError {element : Element} {diagnostic : Diagnostic}
    (reports : element.Reports diagnostic) : diagnostic.isError = true := by
  cases reports <;> rfl

/-- What may be demanded of an element beyond what its attributes and children are. -/
inductive Element.Demands (element : Element) : Diagnostic → Prop
  | expectedAttribute (localName : String) :
      Demands element (Message.expectedAttribute element localName)
  | expectedEitherAttribute (first second : String) :
      Demands element (Message.expectedEitherAttribute element first second)
  | expectedCondition : Demands element (Message.expectedCondition element)
  | expectedExactlyOne (first second : String) :
      Demands element (Message.expectedExactlyOne element first second)

variable {element : Element} {attr : Attribute} {diagnostic : Diagnostic}

theorem Element.Demands.reports (demands : element.Demands diagnostic) :
    element.Reports diagnostic := by
  cases demands with
  | expectedAttribute localName => exact .expectedAttribute localName
  | expectedEitherAttribute first second => exact .expectedEitherAttribute first second
  | expectedCondition => exact .expectedCondition
  | expectedExactlyOne first second => exact .expectedExactlyOne first second

theorem Element.Demands.code (demands : element.Demands diagnostic) :
    diagnostic.code ∈ [some "B-2-1", some "B-2-2", some "B-2-4"] := by
  cases demands <;>
    simp [Message.expectedAttribute, Message.expectedEitherAttribute, Message.expectedCondition,
      Message.expectedExactlyOne]

theorem ValueKind.reports_of_read {kind : ValueKind} (among : attr ∈ element.attributes)
    (refuses : (kind.read element attr).2 = some diagnostic) : element.Reports diagnostic := by
  cases kind with
  | text => cases refuses
  | nonEmptyText =>
      simp only [read] at refuses
      split at refuses <;> cases refuses
      exact .illegalEmptyValue among
  | yesNo =>
      simp only [read] at refuses
      repeat' split at refuses
      all_goals cases refuses
      · exact .illegalEmptyValue among
      · exact .illegalYesNoValue among

namespace ElementRule

variable {rule : ElementRule}

theorem name_of_find? {name : String} {attrRule : AttributeRule}
    (found : rule.find? name = some attrRule) : attrRule.name = name :=
  eq_of_beq (List.find?_some (p := fun attrRule : AttributeRule => attrRule.name == name) found)

/-- What is recorded of an attribute is its local name, what is read from it and itself. -/
theorem entry?_eq_some {entry : CollectedAttribute} :
    rule.entry? element attr = some entry ↔
      attr.name.isUnqualifiedOrIn ownNamespace = true ∧
        ∃ attrRule, rule.find? attr.name.localName = some attrRule ∧
          entry = ⟨attr.name.localName, (attrRule.kind.read element attr).1, attr⟩ := by
  unfold entry?
  split
  · rename_i ruled
    rw [Option.map_eq_some_iff]
    constructor
    · rintro ⟨attrRule, found, rfl⟩
      exact ⟨ruled, attrRule, found, by rw [name_of_find? found]⟩
    · rintro ⟨_, attrRule, found, rfl⟩
      exact ⟨attrRule, found, by rw [name_of_find? found]⟩
  · rename_i unruled
    constructor
    · intro absent
      cases absent
    · rintro ⟨ruled, _⟩
      exact absurd ruled unruled

/-- What a rule records comes from different attributes, in written order. -/
theorem sublist_sources (rule : ElementRule) (element : Element) (attributes : List Attribute) :
    ((attributes.filterMap (rule.entry? element)).map CollectedAttribute.source).Sublist
      attributes := by
  induction attributes with
  | nil => exact .slnil
  | cons first rest ih =>
      rw [List.filterMap_cons]
      split
      · exact ih.cons first
      · rename_i entry recorded
        obtain ⟨_, _, _, rfl⟩ := entry?_eq_some.mp recorded
        exact ih.cons_cons first

theorem mem_attributes_of_source? {name : String}
    (found : (rule.valuesOf element).source? name = some attr) : attr ∈ element.attributes := by
  obtain ⟨entry, recorded, rfl⟩ := Option.map_eq_some_iff.mp found
  exact (rule.sublist_sources element element.attributes).subset
    (List.mem_map_of_mem (List.mem_of_find?_eq_some recorded))

theorem demands_of_mem_missing {values : CollectedAttributes}
    (among : diagnostic ∈ rule.missing element values) : element.Demands diagnostic := by
  obtain ⟨attrRule, _, rfl⟩ := List.mem_map.mp among
  exact .expectedAttribute attrRule.name

theorem reports_of_mem_conflicts
    (among : diagnostic ∈ rule.conflicts element (rule.valuesOf element)) :
    element.Reports diagnostic := by
  obtain ⟨group, _, made⟩ := List.mem_filterMap.mp among
  unfold conflict? at made
  split at made
  · rename_i first second rest present
    obtain rfl := Option.some.inj made
    have given (attr : Attribute) (inside : attr ∈ first :: second :: rest) :
        attr ∈ element.attributes := by
      rw [← present] at inside
      obtain ⟨name, _, found⟩ := List.mem_filterMap.mp inside
      exact mem_attributes_of_source? found
    exact .mutuallyExclusive (given second (by simp)) (given first (by simp))
  · cases made

/-- A rule reports of its element and hands over attributes that it is not about. -/
theorem mem_plan {step : Step} (among : step ∈ rule.plan element) :
    (∃ diagnostic, step = .report diagnostic ∧ element.Reports diagnostic) ∨
      ∃ attr ∈ element.attributes, attr.name.isUnqualifiedOrIn ownNamespace = false ∧
        step = .delegateAttribute element attr := by
  rcases List.mem_append.mp among with onAttribute | onRule
  · obtain ⟨attr, inside, made⟩ := List.mem_flatMap.mp onAttribute
    unfold attributePlan at made
    split at made
    · split at made
      · obtain ⟨refusal, member, rfl⟩ := List.mem_map.mp made
        exact .inl ⟨refusal, rfl, ValueKind.reports_of_read inside (Option.mem_toList.mp member)⟩
      · exact .inl ⟨_, List.mem_singleton.mp made, .unexpectedAttribute inside⟩
    · rename_i outside
      exact .inr ⟨attr, inside, by simpa using outside, List.mem_singleton.mp made⟩
  · obtain ⟨diagnostic, member, rfl⟩ := List.mem_map.mp onRule
    refine .inl ⟨diagnostic, rfl, ?_⟩
    rcases List.mem_append.mp member with missing | conflicts
    · exact (demands_of_mem_missing missing).reports
    · exact reports_of_mem_conflicts conflicts

end ElementRule

namespace Validator

/-- What a validator reports beside its attributes and children is a demand. -/
theorem demands_of_mem (kind : ElementKind) {values : CollectedAttributes}
    (among : diagnostic ∈ kind.validator.beforeChildren element values ∨
      diagnostic ∈ kind.validator.afterChildren element values) :
    element.Demands diagnostic := by
  cases kind with
  | condition =>
      have among : diagnostic ∈ LaunchCondition.missing element values := by
        simpa [ElementKind.validator, LaunchCondition.validator] using among
      rcases List.mem_append.mp among with expression | message
      · obtain ⟨_, expression⟩ := List.mem_ite_nil_right.mp expression
        obtain rfl := List.mem_singleton.mp expression
        exact .expectedCondition
      · obtain ⟨_, message⟩ := List.mem_ite_nil_left.mp message
        obtain rfl := List.mem_singleton.mp message
        exact .expectedAttribute "Message"
  | standardUi =>
      have among : diagnostic ∈ StandardUi.missingLicense element values := by
        simpa [ElementKind.validator, StandardUi.validator] using among
      obtain ⟨_, among⟩ := List.mem_ite_nil_right.mp among
      obtain rfl := List.mem_singleton.mp among
      exact .expectedEitherAttribute "LicenseFile" "LicenseUrl"
  | managedHost =>
      have among : diagnostic ∈ ManagedHost.licenseProblem element values := by
        simpa [ElementKind.validator, ManagedHost.validator] using among
      obtain ⟨_, among⟩ := List.mem_ite_nil_right.mp among
      obtain rfl := List.mem_singleton.mp among
      exact .expectedExactlyOne "LicenseFile" "LicenseUrl"

/-- The steps for an element report of it, hand over its other attributes or see to a child. -/
theorem mem_plan {kind : ElementKind} {step : Step} (among : step ∈ kind.validator.plan element) :
    (∃ diagnostic, step = .report diagnostic ∧ element.Reports diagnostic) ∨
      (∃ attr ∈ element.attributes, attr.name.isUnqualifiedOrIn ownNamespace = false ∧
        step = .delegateAttribute element attr) ∨
      ∃ child ∈ element.childElements, step = childStep element child := by
  simp only [plan, List.mem_append, or_assoc] at among
  obtain onRule | before | onChild | after := among
  · rcases ElementRule.mem_plan onRule with reported | handed
    · exact .inl reported
    · exact .inr (.inl handed)
  · obtain ⟨diagnostic, member, rfl⟩ := List.mem_map.mp before
    exact .inl ⟨diagnostic, rfl, (demands_of_mem kind (.inl member)).reports⟩
  · obtain ⟨child, member, rfl⟩ := List.mem_map.mp onChild
    exact .inr (.inr ⟨child, member, rfl⟩)
  · obtain ⟨diagnostic, member, rfl⟩ := List.mem_map.mp after
    exact .inl ⟨diagnostic, rfl, (demands_of_mem kind (.inr member)).reports⟩

end Validator

theorem HostAttributes.reports_of_mem_problems {attributes : List Attribute}
    (inside : attributes ⊆ element.attributes)
    (among : diagnostic ∈ problems element attributes) : element.Reports diagnostic := by
  unfold problems at among
  split at among
  · obtain ⟨attr, member, found⟩ := List.mem_filterMap.mp among
    unfold problem? at found
    split at found
    · obtain rfl := Option.some.inj found
      exact .expectedParentWithAttribute (inside member) "Name"
    · split at found
      · exact ValueKind.reports_of_read (inside member) found
      · obtain rfl := Option.some.inj found
        exact .unexpectedAttribute (inside member)
  · obtain ⟨attr, member, rfl⟩ := List.mem_map.mp among
    exact .unexpectedAttribute (inside member)

end BundleMarkup
