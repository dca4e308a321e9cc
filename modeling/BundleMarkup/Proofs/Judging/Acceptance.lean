import BundleMarkup.Proofs.Judging.Delegation
import BundleMarkup.Proofs.Judging.Lookup
import BundleMarkup.Proofs.Judging.PolicyRuns

/-!
# Acceptance

What is said about an element that is allowed comes from two sides: its validator reports what is
wrong with it, errors all of them, and other extensions answer for the foreign markup in it.  The
element is accepted if its validator has nothing to report and no answer holds an error after the
warning policy, and then it gives the rows of the answers and its own.
-/

namespace BundleMarkup

variable {σ : Type}

/-- The diagnostic that a step reports, if it reports one. -/
def Step.report? : Step → Option Diagnostic
  | report diagnostic => some diagnostic
  | delegateAttribute _ _ => none
  | delegateElement _ _ => none

/-- Whether a step hands something over. -/
def Step.delegates (step : Step) : Bool := step.report?.isNone

theorem Step.exists_report {step : Step} (kept : step.delegates = false) :
    ∃ diagnostic, step = .report diagnostic := by
  cases step with
  | report diagnostic => exact ⟨diagnostic, rfl⟩
  | delegateAttribute bearer attr => cases kept
  | delegateElement parent element => cases kept

@[simp]
theorem Step.filterMap_report?_map (diagnostics : List Diagnostic) :
    (diagnostics.map report).filterMap report? = diagnostics := by
  rw [List.filterMap_map]
  exact List.filterMap_some

@[simp]
theorem Step.filter_delegates_map (diagnostics : List Diagnostic) :
    (diagnostics.map report).filter delegates = [] := by
  rw [List.filter_eq_nil_iff]
  rintro _ among
  obtain ⟨diagnostic, _, rfl⟩ := List.mem_map.mp among
  exact Bool.false_ne_true

namespace Extensions

/-- The rows of steps come from those that hand something over. -/
theorem flatMap_rows_performAll (extensions : Extensions σ) (steps : List Step) :
    (extensions.performAll steps).1.flatMap Outcome.rows =
      (extensions.performAll (steps.filter Step.delegates)).1.flatMap Outcome.rows := by
  induction steps generalizing extensions with
  | nil => rfl
  | cons step rest ih =>
      rw [performAll_cons, List.flatMap_cons, ih]
      cases handed : step.delegates with
      | true =>
          rw [List.filter_cons_of_pos handed, performAll_cons, List.flatMap_cons]
      | false =>
          obtain ⟨diagnostic, rfl⟩ := Step.exists_report handed
          rw [List.filter_cons_of_neg Bool.false_ne_true]
          simp [perform, Outcome.ofDiagnostic, Outcome.rows_of]

/-- Extensions are left by steps as by those that hand something over. -/
theorem extensions_performAll (extensions : Extensions σ) (steps : List Step) :
    (extensions.performAll steps).2 =
      (extensions.performAll (steps.filter Step.delegates)).2 := by
  induction steps generalizing extensions with
  | nil => rfl
  | cons step rest ih =>
      rw [performAll_cons, ih]
      cases handed : step.delegates with
      | true => rw [List.filter_cons_of_pos handed, performAll_cons]
      | false =>
          obtain ⟨diagnostic, rfl⟩ := Step.exists_report handed
          rfl

/-- The diagnostics of steps are those that are reported and those that are answered. -/
theorem perm_flatMap_diagnostics_performAll (extensions : Extensions σ) (steps : List Step) :
    ((extensions.performAll steps).1.flatMap Outcome.diagnostics).Perm
      (steps.filterMap Step.report? ++
        (extensions.performAll (steps.filter Step.delegates)).1.flatMap Outcome.diagnostics) := by
  induction steps generalizing extensions with
  | nil => exact .nil
  | cons step rest ih =>
      have later := (ih (extensions.perform step).2).append_left
        (extensions.perform step).1.diagnostics
      rw [performAll_cons, List.flatMap_cons]
      cases handed : step.delegates with
      | true =>
          rw [List.filter_cons_of_pos handed, performAll_cons, List.flatMap_cons,
            List.filterMap_cons_none (Option.isNone_iff_eq_none.mp handed)]
          exact later.trans (List.perm_append_comm_assoc ..)
      | false =>
          obtain ⟨diagnostic, rfl⟩ := Step.exists_report handed
          rw [List.filter_cons_of_neg Bool.false_ne_true]
          exact later

/-- Steps come to what is reported, in order, among the answers. -/
theorem sublist_flatMap_diagnostics_performAll (extensions : Extensions σ) (steps : List Step) :
    (steps.filterMap Step.report?).Sublist
      ((extensions.performAll steps).1.flatMap Outcome.diagnostics) := by
  induction steps generalizing extensions with
  | nil => exact .slnil
  | cons step rest ih =>
      have later := ih (extensions.perform step).2
      rw [performAll_cons, List.flatMap_cons]
      cases handed : step.delegates with
      | true =>
          rw [List.filterMap_cons_none (Option.isNone_iff_eq_none.mp handed)]
          exact later.trans (List.sublist_append_right _ _)
      | false =>
          obtain ⟨diagnostic, rfl⟩ := Step.exists_report handed
          exact later.cons_cons diagnostic

end Extensions

namespace Element

/-- Children that do not belong in an element of the extension. -/
def misplacedChildren (element : Element) : List Element :=
  element.childElements.filter fun child =>
    child.name.namespaceUri ∈ ["", ownNamespace, hostNamespace]

/-- What an element of the extension hands over: attributes that no rule is about, then children. -/
def delegations (element : Element) : List Step :=
  (element.attributes.filter (!·.name.isUnqualifiedOrIn ownNamespace)).map
      (.delegateAttribute element) ++
    (element.childElements.filter fun child =>
      child.name.namespaceUri ∉ ["", ownNamespace, hostNamespace]).map (.delegateElement element)

end Element

/-- What is wrong with an attribute that a rule is about. -/
def ElementRule.fault? (rule : ElementRule) (element : Element) (attr : Attribute) :
    Option Diagnostic :=
  match rule.find? attr.name.localName with
  | some attrRule => (attrRule.kind.read element attr).2
  | none => some (Message.unexpectedAttribute element attr)

namespace Validator

variable (validator : Validator) (element : Element)

/-- What a validator itself reports of an element. -/
def reports : List Diagnostic :=
  let values := validator.rule.valuesOf element
  element.ruledAttributes.filterMap (validator.rule.fault? element) ++
    validator.rule.missing element values ++ validator.rule.conflicts element values ++
    validator.beforeChildren element values ++
    element.misplacedChildren.map (Message.unexpectedElement element) ++
    validator.afterChildren element values

end Validator

namespace ElementRule

variable (rule : ElementRule) (element : Element)

theorem attributePlan_eq (attr : Attribute) :
    rule.attributePlan element attr =
      if attr.name.isUnqualifiedOrIn ownNamespace then
        (rule.fault? element attr).toList.map .report
      else
        [.delegateAttribute element attr] := by
  unfold attributePlan fault?
  split
  · cases rule.find? attr.name.localName <;> rfl
  · rfl

theorem filterMap_report?_attributePlan (attributes : List Attribute) :
    (attributes.flatMap (rule.attributePlan element)).filterMap Step.report? =
      (attributes.filter (·.name.isUnqualifiedOrIn ownNamespace)).filterMap
        (rule.fault? element) := by
  induction attributes with
  | nil => rfl
  | cons attr rest ih =>
      rw [List.flatMap_cons, List.filterMap_append, ih, attributePlan_eq]
      cases ruled : attr.name.isUnqualifiedOrIn ownNamespace with
      | false =>
          rw [List.filter_cons_of_neg (by simp [ruled])]
          rfl
      | true =>
          rw [if_pos rfl, Step.filterMap_report?_map, List.filter_cons_of_pos (by simpa),
            List.filterMap_cons]
          cases rule.fault? element attr <;> rfl

theorem filter_delegates_attributePlan (attributes : List Attribute) :
    (attributes.flatMap (rule.attributePlan element)).filter Step.delegates =
      (attributes.filter (!·.name.isUnqualifiedOrIn ownNamespace)).map
        (.delegateAttribute element) := by
  induction attributes with
  | nil => rfl
  | cons attr rest ih =>
      rw [List.flatMap_cons, List.filter_append, ih, attributePlan_eq]
      cases ruled : attr.name.isUnqualifiedOrIn ownNamespace with
      | false =>
          rw [List.filter_cons_of_pos (by simp [ruled])]
          rfl
      | true =>
          rw [List.filter_cons_of_neg (by simp [ruled]), if_pos rfl, Step.filter_delegates_map]
          rfl

end ElementRule

namespace Validator

variable (validator : Validator) (element : Element)

theorem childStep_eq (child : Element) :
    childStep element child =
      if child.name.namespaceUri ∈ ["", ownNamespace, hostNamespace] then
        .report (Message.unexpectedElement element child)
      else
        .delegateElement element child := by
  unfold childStep
  congr 1
  simp [Session.isHostChild, or_left_comm]

theorem filterMap_report?_childStep (children : List Element) :
    (children.map (childStep element)).filterMap Step.report? =
      (children.filter fun child =>
        child.name.namespaceUri ∈ ["", ownNamespace, hostNamespace]).map
          (Message.unexpectedElement element) := by
  rw [List.filterMap_map, ← List.filterMap_eq_map, List.filterMap_filter]
  congr 1
  funext child
  rw [Function.comp_apply, childStep_eq]
  split <;> simp_all [Step.report?]

theorem filter_delegates_childStep (children : List Element) :
    (children.map (childStep element)).filter Step.delegates =
      (children.filter fun child =>
        child.name.namespaceUri ∉ ["", ownNamespace, hostNamespace]).map
          (.delegateElement element) := by
  induction children with
  | nil => rfl
  | cons child rest ih =>
      rw [List.map_cons, childStep_eq]
      split
      · rename_i misplaced
        rw [List.filter_cons_of_neg Bool.false_ne_true, ih,
          List.filter_cons_of_neg (by simp [misplaced])]
      · rename_i foreign
        rw [List.filter_cons_of_pos rfl, ih, List.filter_cons_of_pos (by simpa using foreign),
          List.map_cons]

/-- What the plan of an element reports is what its validator reports. -/
theorem filterMap_report?_plan :
    (validator.plan element).filterMap Step.report? = validator.reports element := by
  simp only [plan, ElementRule.plan, List.filterMap_append, Step.filterMap_report?_map,
    ElementRule.filterMap_report?_attributePlan, filterMap_report?_childStep, List.append_assoc]
  simp only [reports, Element.ruledAttributes, Element.misplacedChildren, List.append_assoc]

/-- What an element hands over does not depend on how it is validated. -/
theorem filter_delegates_plan :
    (validator.plan element).filter Step.delegates = element.delegations := by
  simp only [plan, ElementRule.plan, List.filter_append, Step.filter_delegates_map,
    ElementRule.filter_delegates_attributePlan, filter_delegates_childStep, List.append_nil]
  rfl

theorem isError_of_mem_reports {kind : ElementKind} {diagnostic : Diagnostic}
    (among : diagnostic ∈ kind.validator.reports element) : diagnostic.isError = true := by
  rw [← filterMap_report?_plan] at among
  obtain ⟨step, planned, reports⟩ := List.mem_filterMap.mp among
  obtain ⟨_, rfl, said⟩ | ⟨_, _, _, rfl⟩ | ⟨child, _, rfl⟩ := mem_plan planned
  · obtain rfl := Option.some.inj reports
    exact said.isError
  · cases reports
  · rw [childStep_eq] at reports
    split at reports
    · obtain rfl := Option.some.inj reports
      rfl
    · cases reports

theorem mem_reports_of_fault? {validator : Validator} {attr : Attribute} {diagnostic : Diagnostic}
    (among : attr ∈ element.ruledAttributes)
    (found : validator.rule.fault? element attr = some diagnostic) :
    diagnostic ∈ validator.reports element := by
  simp only [reports, List.append_assoc]
  exact List.mem_append_left _ (List.mem_filterMap.mpr ⟨attr, among, found⟩)

/-- No policy changes what a validator reports. -/
theorem filterMap_apply_reports {kind : ElementKind} (policy : WarningPolicy) :
    (kind.validator.reports element).filterMap policy.apply = kind.validator.reports element := by
  refine (List.filterMap_congr fun diagnostic among => ?_).trans List.filterMap_some
  exact policy.apply_of_isError (isError_of_mem_reports element among)

end Validator

namespace Session

/-- What other extensions answer to what an element hands over, in order. -/
def delegated (session : Session σ) (element : Element) : List Outcome :=
  (session.extensions.performAll element.delegations).1

variable (session : Session σ) {parent element : Element} {kind : ElementKind}
  (routed : ElementKind.route? parent.localName element.localName = some kind)

include routed

/-- An element that is allowed comes to what its validator reports and what is answered. -/
theorem perm_diagnostics_judgeElement :
    (session.judgeElement parent element).1.diagnostics.Perm
      (kind.validator.reports element ++
        ((session.delegated element).flatMap Outcome.diagnostics).filterMap
          session.policy.apply) := by
  have kept : (kind.validator.reports element).filterMap session.policy.apply = _ :=
    Validator.filterMap_apply_reports element session.policy
  have performed := session.extensions.perm_flatMap_diagnostics_performAll
    (kind.validator.plan element)
  rw [Validator.filterMap_report?_plan, Validator.filter_delegates_plan] at performed
  have applied := performed.filterMap session.policy.apply
  rw [List.filterMap_append, kept] at applied
  rw [session.judgeElement_of_route?_eq_some routed]
  exact applied

/-- What a validator reports is kept in its order. -/
theorem sublist_diagnostics_judgeElement :
    (kind.validator.reports element).Sublist
      (session.judgeElement parent element).1.diagnostics := by
  have performed := (session.extensions.sublist_flatMap_diagnostics_performAll
    (kind.validator.plan element)).filterMap session.policy.apply
  rw [Validator.filterMap_report?_plan,
    Validator.filterMap_apply_reports element session.policy] at performed
  rw [session.judgeElement_of_route?_eq_some routed]
  exact performed

theorem hasErrors_judgeElement :
    (session.judgeElement parent element).1.hasErrors = false ↔
      kind.validator.reports element = [] ∧
        ∀ result ∈ session.delegated element,
          (result.applyPolicy session.policy).hasErrors = false := by
  have reported : Diagnostic.anyError (kind.validator.reports element) = false ↔ _ :=
    Diagnostic.anyError_eq_false fun _ => Validator.isError_of_mem_reports element
  rw [Outcome.hasErrors, Diagnostic.anyError,
    (session.perm_diagnostics_judgeElement routed).any_eq, List.any_append, Bool.or_eq_false_iff,
    ← Diagnostic.anyError, reported, ← Outcome.flatMap_diagnostics_applyPolicy, List.any_flatMap,
    List.any_eq_false]
  simp [Outcome.hasErrors, Diagnostic.anyError]

theorem rows_judgeElement (errorless : (session.judgeElement parent element).1.hasErrors = false) :
    (session.judgeElement parent element).1.rows =
      (session.delegated element).flatMap Outcome.rows ++ kind.validator.ownRows element := by
  rw [session.judgeElement_of_route?_eq_some routed] at errorless ⊢
  rw [Outcome.settle, Outcome.hasErrors, Outcome.diagnostics_of] at errorless
  rw [Outcome.settle, Outcome.rows_of, errorless, if_neg Bool.false_ne_true,
    Extensions.flatMap_rows_performAll, Validator.filter_delegates_plan, delegated]

end Session

/-- What an attribute of a kind may say. -/
def ValueKind.Allows : ValueKind → String → Prop
  | text, _ => True
  | nonEmptyText, value => value ≠ ""
  | yesNo, value => value.toLower = "yes" ∨ value.toLower = "no"

theorem ValueKind.refusal_eq_none {kind : ValueKind} {element : Element} {attr : Attribute} :
    (kind.read element attr).2 = none ↔ kind.Allows attr.value := by
  cases kind with
  | text => simp [read, Allows]
  | nonEmptyText =>
      rw [read, Allows]
      split <;> simp [*]
  | yesNo =>
      rw [read, Allows]
      split
      · simp [*]
      · split
        · simp [*]
        · split <;> simp [*]

/-- An attribute says yes in any case of letters. -/
theorem ValueKind.value_yesNo {element : Element} {attr : Attribute} :
    (yesNo.read element attr).1 = .yesNo .yes ↔ attr.value.toLower = "yes" := by
  rw [read]
  by_cases yes : attr.value.toLower = "yes"
  · simp [yes]
  · by_cases no : attr.value.toLower = "no"
    · simp [no]
    · by_cases nothing : attr.value.toLower = "" <;> simp [yes, no, nothing]

/-- A rule knows an attribute of a name and lets it have a value. -/
def ElementRule.Allows (rule : ElementRule) (name value : String) : Prop :=
  ∃ attrRule, rule.find? name = some attrRule ∧ attrRule.kind.Allows value

theorem ElementRule.fault?_eq_none {rule : ElementRule} {element : Element} {attr : Attribute} :
    rule.fault? element attr = none ↔ rule.Allows attr.name.localName attr.value := by
  unfold fault? Allows
  cases rule.find? attr.name.localName with
  | none => simp
  | some attrRule => simp [ValueKind.refusal_eq_none]

/-- A validator has nothing to report if attributes, demands and children are as they should be. -/
theorem Validator.reports_eq_nil {validator : Validator} {element : Element} :
    let values := validator.rule.valuesOf element
    validator.reports element = [] ↔
      (∀ attr ∈ element.ruledAttributes,
        validator.rule.Allows attr.name.localName attr.value) ∧
      (∀ child ∈ element.childElements,
        child.name.namespaceUri ∉ ["", ownNamespace, hostNamespace]) ∧
      validator.rule.missing element values = [] ∧ validator.rule.conflicts element values = [] ∧
        validator.beforeChildren element values = [] ∧
        validator.afterChildren element values = [] := by
  intro values
  have children : element.misplacedChildren.map (Message.unexpectedElement element) = [] ↔
      ∀ child ∈ element.childElements,
        child.name.namespaceUri ∉ ["", ownNamespace, hostNamespace] := by
    rw [List.map_eq_nil_iff, Element.misplacedChildren, List.filter_eq_nil_iff]
    simp only [decide_eq_true_iff]
  simp only [reports, List.append_eq_nil_iff, children, List.filterMap_eq_nil_iff,
    ElementRule.fault?_eq_none]
  constructor
  · rintro ⟨⟨⟨⟨⟨legal, missing⟩, conflicts⟩, before⟩, placed⟩, after⟩
    exact ⟨legal, placed, missing, conflicts, before, after⟩
  · rintro ⟨legal, placed, missing, conflicts, before, after⟩
    exact ⟨⟨⟨⟨⟨legal, missing⟩, conflicts⟩, before⟩, placed⟩, after⟩

theorem ElementRule.code_of_fault? {rule : ElementRule} {element : Element} {attr : Attribute}
    {diagnostic : Diagnostic} (found : rule.fault? element attr = some diagnostic) :
    diagnostic.code = some "B-1-2" ∨ diagnostic.code = some "B-3-1" ∨
      diagnostic.code = some "B-3-2" := by
  unfold fault? at found
  split at found
  · rename_i attrRule _
    cases kind : attrRule.kind with
    | text => simp [kind, ValueKind.read] at found
    | nonEmptyText =>
        simp only [kind, ValueKind.read] at found
        split at found <;> cases found
        exact .inr (.inl rfl)
    | yesNo =>
        simp only [kind, ValueKind.read] at found
        repeat' split at found
        all_goals cases found
        · exact .inr (.inl rfl)
        · exact .inr (.inr rfl)
  · cases found
    exact .inl rfl

/-- Neither attributes nor children are reported under the codes of other demands. -/
theorem Validator.filter_code_reports (validator : Validator) (element : Element)
    (accepts : Option String → Bool)
    (apart : ∀ code ∈ ["B-1-1", "B-1-2", "B-3-1", "B-3-2"], accepts (some code) = false) :
    let values := validator.rule.valuesOf element
    (validator.reports element).filter (fun diagnostic => accepts diagnostic.code) =
      (validator.rule.missing element values ++ validator.rule.conflicts element values ++
        validator.beforeChildren element values ++
        validator.afterChildren element values).filter (fun diagnostic =>
          accepts diagnostic.code) := by
  intro values
  have attributes : (element.ruledAttributes.filterMap
      (validator.rule.fault? element)).filter (fun diagnostic => accepts diagnostic.code) = [] := by
    refine List.filter_eq_nil_iff.mpr fun diagnostic among => ?_
    obtain ⟨attr, _, found⟩ := List.mem_filterMap.mp among
    rcases ElementRule.code_of_fault? found with known | known | known <;>
      rw [known, apart _ (by decide)] <;> exact Bool.false_ne_true
  have children : (element.misplacedChildren.map (Message.unexpectedElement element)).filter
      (fun diagnostic => accepts diagnostic.code) = [] := by
    refine List.filter_eq_nil_iff.mpr fun diagnostic among => ?_
    obtain ⟨child, _, rfl⟩ := List.mem_map.mp among
    exact Bool.eq_false_iff.mp (apart "B-1-1" (by decide))
  simp only [reports, List.filter_append, attributes, children, List.nil_append, List.append_nil]
  rfl

/-- The value of the first attribute of a local name, of those that a rule is about. -/
def Element.given? (element : Element) (name : String) : Option String :=
  (element.ruledAttributes.find? (·.name.localName == name)).map Attribute.value

namespace ElementRule

variable {rule : ElementRule} (element : Element) {name : String} {attrRule : AttributeRule}

/-- Under a name that a rule knows, the first attribute of that name is recorded as it is read. -/
theorem entry?_valuesOf_of_find? (known : rule.find? name = some attrRule) :
    CollectedAttributes.entry? (rule.valuesOf element) name =
      (element.ruledAttributes.find? (·.name.localName == name)).map fun attr =>
        ⟨name, (attrRule.kind.read element attr).1, attr⟩ := by
  rw [entry?_valuesOf]
  cases found : element.ruledAttributes.find? (·.name.localName == name) with
  | none => rfl
  | some attr =>
      have ruled := (List.mem_filter.mp (List.mem_of_find?_eq_some found)).2
      obtain rfl : attr.name.localName = name := by simpa using List.find?_some found
      exact entry?_eq_some.mpr ⟨ruled, attrRule, known, rfl⟩

theorem get?_valuesOf (known : rule.find? name = some attrRule) :
    (rule.valuesOf element).get? name =
      (element.ruledAttributes.find? (·.name.localName == name)).map fun attr =>
        (attrRule.kind.read element attr).1 := by
  rw [CollectedAttributes.get?, entry?_valuesOf_of_find? element known, Option.map_map]
  rfl

theorem isPresent_valuesOf (known : rule.find? name = some attrRule) :
    (rule.valuesOf element).isPresent name = (element.given? name).isSome := by
  rw [CollectedAttributes.isPresent, get?_valuesOf element known, Element.given?, Option.isSome_map,
    Option.isSome_map]

theorem missing_eq_nil (optional : ∀ attrRule ∈ rule.attributes, attrRule.requirement = .optional)
    (values : CollectedAttributes) : rule.missing element values = [] := by
  rw [missing, List.map_eq_nil_iff, List.filter_eq_nil_iff]
  intro attrRule among
  simp [optional attrRule among]

/-- Only a text that is not empty is usable where the empty one is refused. -/
theorem isNullOrEmpty_valuesOf (known : rule.find? name = some attrRule)
    (textual : attrRule.kind = .nonEmptyText) :
    (rule.valuesOf element).isNullOrEmpty name = !(element.given? name).any (· ≠ "") := by
  rw [CollectedAttributes.isNullOrEmpty, CollectedAttributes.text?, get?_valuesOf element known,
    textual, Element.given?]
  cases element.ruledAttributes.find? (·.name.localName == name) with
  | none => rfl
  | some attr => by_cases empty : attr.value = "" <;> simp [ValueKind.read, empty]

theorem yesNo_valuesOf (known : rule.find? name = some attrRule)
    (answers : attrRule.kind = .yesNo) :
    (rule.valuesOf element).yesNo name = .yes ↔
      (element.given? name).any (·.toLower = "yes") = true := by
  rw [CollectedAttributes.yesNo, get?_valuesOf element known, answers, Element.given?]
  cases element.ruledAttributes.find? (·.name.localName == name) with
  | none => simp
  | some attr =>
      have answer : (ValueKind.yesNo.read element attr).1 = .yesNo .yes ↔ _ := ValueKind.value_yesNo
      simp only [Option.map_some, Option.any_some, decide_eq_true_eq]
      rw [← answer]
      cases (ValueKind.yesNo.read element attr).1 <;> simp

variable {element}
  (legal : ∀ attr ∈ element.ruledAttributes, rule.Allows attr.name.localName attr.value)

include legal

theorem allows_given? {value : String} (given : element.given? name = some value) :
    rule.Allows name value := by
  obtain ⟨attr, found, rfl⟩ := Option.map_eq_some_iff.mp given
  obtain rfl : attr.name.localName = name := by simpa using List.find?_some found
  exact legal attr (List.mem_of_find?_eq_some found)

/-- Where the empty text is refused, what is legal and given is not empty. -/
theorem any_given? (known : rule.find? name = some attrRule)
    (textual : attrRule.kind = .nonEmptyText) :
    (element.given? name).any (· ≠ "") = (element.given? name).isSome := by
  cases given : element.given? name with
  | none => rfl
  | some value =>
      obtain ⟨other, same, allowed⟩ := allows_given? legal given
      obtain rfl := Option.some.inj (known.symm.trans same)
      rw [textual] at allowed
      exact decide_eq_true allowed

/-- A legal text is read as it is given. -/
theorem text?_valuesOf (known : rule.find? name = some attrRule)
    (textual : attrRule.kind ≠ .yesNo) :
    (rule.valuesOf element).text? name = element.given? name := by
  rw [CollectedAttributes.text?, get?_valuesOf element known]
  cases given : element.given? name with
  | none =>
      rw [Option.map_eq_none_iff.mp given]
      rfl
  | some value =>
      obtain ⟨other, same, allowed⟩ := allows_given? legal given
      obtain rfl := Option.some.inj (known.symm.trans same)
      obtain ⟨attr, found, rfl⟩ := Option.map_eq_some_iff.mp given
      rw [found]
      cases kind : attrRule.kind with
      | text => rfl
      | nonEmptyText =>
          rw [kind] at allowed
          simp [ValueKind.read, show attr.value ≠ "" from allowed]
      | yesNo => exact absurd kind textual

/-- Legal texts become variables of the linker as they are given. -/
theorem rows_linkFillings_valuesOf {names : List (String × String)}
    (textual : names.all (fun entry => (rule.find? entry.1).any (·.kind ≠ .yesNo)) = true)
    (source : SourceSpan) :
    Filling.rows (Validator.linkFillings names (rule.valuesOf element)) source =
      names.filterMap fun (name, id) =>
        (element.given? name).map fun value => .linkVariable id value source := by
  rw [Validator.rows_linkFillings]
  refine List.filterMap_congr fun (name, id) among => ?_
  have text := List.all_eq_true.mp textual _ among
  cases known : rule.find? name with
  | none => simp [known] at text
  | some attrRule =>
      simp only
      rw [text?_valuesOf legal known (by simpa [known] using text)]

end ElementRule
end BundleMarkup
