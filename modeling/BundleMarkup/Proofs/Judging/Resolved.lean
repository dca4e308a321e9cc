import BundleMarkup.Proofs.Judging.Bare
import BundleMarkup.Proofs.Judging.Isolation
import BundleMarkup.Proofs.Judging.Rewriting

/-!
# Resolved markup

How names are qualified, where namespaces are declared and where markup is written says nothing
about a bundle.  Documents that resolve to the same names, values and texts compile to rows with the
same columns and to diagnostics of the same kinds, as long as no other extension has a say.
-/

namespace BundleMarkup

variable {σ : Type}

/-- A name without its qualifier. -/
def Name.resolved (name : Name) : Name := { name with qualifier := none }

/-- An attribute without its qualifier and places. -/
def Attribute.resolved (attr : Attribute) : Attribute :=
  { name := attr.name.resolved, nameSpan := default, value := attr.value, valueSpan := default }

mutual

/-- An element without qualifiers, declarations and places. -/
def Element.resolved : Element → Element
  | ⟨name, _, attributes, _, children, _⟩ =>
      ⟨name.resolved, default, attributes.map Attribute.resolved, [], children.resolved, default⟩

def Children.resolved : Children → Children
  | .elements list => .elements (list.map Element.resolved)
  | .text content _ => .text content default
  | .mixed list => .mixed (list.map Node.resolved)
  | .empty => .empty

def Node.resolved : Node → Node
  | .element child => .element child.resolved
  | .text content _ => .text content default

end

/-- What a row says, apart from where it comes from. -/
def Row.content (row : Row) : Table × List (Option FieldValue) := (row.table, row.fields)

/-- Columns can be set no matter where a row comes from. -/
theorem Row.content_setAll? (row : Row) (source : SourceSpan) (columns : List (Nat × FieldValue)) :
    (setAll? { row with source } columns).map content = (row.setAll? columns).map content := by
  induction columns generalizing row with
  | nil => rfl
  | cons entry rest ih =>
      rw [setAll?, setAll?, set?, set?]
      split
      · exact ih { row with fields := row.fields.set entry.1 (some entry.2) }
      · rfl

/-- The same is filled wherever it comes from. -/
theorem Filling.content_rows (fillings : List Filling) (source source' : SourceSpan) :
    (rows fillings source).map Row.content = (rows fillings source').map Row.content := by
  rw [rows, rows, List.map_filterMap, List.map_filterMap]
  refine List.filterMap_congr fun filling _ => ?_
  exact (Row.blank filling.table source').content_setAll? source filling.columns

/-- A diagnostic without what it says about names, values and places. -/
def Diagnostic.gist (diagnostic : Diagnostic) : Diagnostic :=
  { severity := diagnostic.severity, title := diagnostic.title, code := diagnostic.code }

@[simp]
theorem Name.namespaceUri_resolved (name : Name) :
    name.resolved.namespaceUri = name.namespaceUri := rfl

@[simp]
theorem Name.isUnqualifiedOrIn_resolved (name : Name) (uri : String) :
    name.resolved.isUnqualifiedOrIn uri = name.isUnqualifiedOrIn uri := rfl

@[simp]
theorem Name.localName_resolved (name : Name) : name.resolved.localName = name.localName := rfl

@[simp]
theorem Attribute.name_resolved (attr : Attribute) : attr.resolved.name = attr.name.resolved := rfl

@[simp]
theorem Attribute.value_resolved (attr : Attribute) : attr.resolved.value = attr.value := rfl

namespace Node

theorem element?_resolved (node : Node) :
    node.resolved.element? = node.element?.map Element.resolved := by
  cases node <;> rw [resolved] <;> rfl

theorem text?_resolved (node : Node) : node.resolved.text? = node.text? := by
  cases node <;> rw [resolved] <;> rfl

end Node

namespace Children

theorem childElements_resolved (children : Children) :
    children.resolved.childElements = children.childElements.map Element.resolved := by
  cases children with
  | elements list => rw [resolved]; rfl
  | text content span => rw [resolved]; rfl
  | mixed list =>
      rw [resolved, childElements, childElements, List.filterMap_map, List.map_filterMap]
      exact List.filterMap_congr fun node _ => node.element?_resolved
  | empty => rw [resolved]; rfl

theorem innerText_resolved (children : Children) :
    children.resolved.innerText = children.innerText := by
  cases children with
  | elements list => rw [resolved]; rfl
  | text content span => rw [resolved]; rfl
  | mixed list =>
      rw [resolved, innerText, innerText, List.filterMap_map]
      exact congrArg String.join (List.filterMap_congr fun node _ => node.text?_resolved)
  | empty => rw [resolved]

end Children

namespace Element

variable (element : Element)

@[simp]
theorem name_resolved : element.resolved.name = element.name.resolved := by
  cases element
  rw [resolved]

@[simp]
theorem localName_resolved : element.resolved.localName = element.localName := by
  rw [localName, name_resolved]
  rfl

@[simp]
theorem attributes_resolved :
    element.resolved.attributes = element.attributes.map Attribute.resolved := by
  cases element
  rw [resolved]

@[simp]
theorem childElements_resolved :
    element.resolved.childElements = element.childElements.map resolved := by
  cases element
  rw [resolved]
  exact Children.childElements_resolved _

@[simp]
theorem innerText_resolved : element.resolved.innerText = element.innerText := by
  cases element
  rw [resolved]
  exact Children.innerText_resolved _

@[simp]
theorem attribute?_resolved (localName : String) :
    element.resolved.attribute? localName =
      (element.attribute? localName).map Attribute.resolved := by
  rw [attribute?, attributes_resolved, List.find?_map]
  rfl

end Element

/-- Markup is resolved element by element. -/
def Rewriting.resolved : Rewriting where
  onElement := Element.resolved
  onAttribute := Attribute.resolved
  uri_onElement host := by rw [Element.name_resolved, Name.namespaceUri_resolved]
  attributes_onElement := Element.attributes_resolved
  childElements_onElement := Element.childElements_resolved
  uri_onAttribute _ := rfl
  localName_onAttribute _ := rfl
  value_onAttribute _ := rfl

namespace Part

def resolved : Part → Part
  | .foreignAttribute host attr => .foreignAttribute host.resolved attr.resolved
  | .ownAttributes host attributes => .ownAttributes host.resolved (attributes.map .resolved)
  | .ownElement host element => .ownElement host.resolved element.resolved
  | .foreignElement host element => .foreignElement host.resolved element.resolved

/-- The parts of resolved markup are those of the markup, resolved. -/
theorem ofHost_resolved (host : Element) :
    ofHost host.resolved = (ofHost host).map resolved := by
  have same : rewrite .resolved = resolved := by
    funext part
    cases part <;> rfl
  rw [← same]
  exact ofHost_rewrite .resolved host

end Part

/-- Equal values are refused for the same reason, if they are. -/
theorem ValueKind.gist_read_congr (kind : ValueKind) {attr attr' : Attribute}
    (same : attr.value = attr'.value) (left right : Element) :
    (kind.read left attr).2.map Diagnostic.gist =
      (kind.read right attr').2.map Diagnostic.gist := by
  obtain ⟨name, nameSpan, value, valueSpan⟩ := attr
  obtain rfl : value = attr'.value := same
  cases kind with
  | text => rfl
  | nonEmptyText =>
      simp only [read]
      split <;> rfl
  | yesNo =>
      simp only [read]
      repeat' split
      all_goals rfl

def CollectedAttribute.resolved (entry : CollectedAttribute) : CollectedAttribute :=
  { entry with source := entry.source.resolved }

namespace CollectedAttributes

variable (values : CollectedAttributes) (name : String)

def resolved : CollectedAttributes := ⟨values.entries.map CollectedAttribute.resolved⟩

@[simp]
theorem get?_resolved : values.resolved.get? name = values.get? name :=
  values.get?_mapSource Attribute.resolved name

@[simp]
theorem isPresent_resolved : values.resolved.isPresent name = values.isPresent name :=
  congrFun (isPresent_congr (funext values.get?_resolved)) name

@[simp]
theorem text?_resolved : values.resolved.text? name = values.text? name :=
  congrFun (text?_congr (funext values.get?_resolved)) name

@[simp]
theorem isNullOrEmpty_resolved :
    values.resolved.isNullOrEmpty name = values.isNullOrEmpty name :=
  congrFun (isNullOrEmpty_congr (funext values.get?_resolved)) name

@[simp]
theorem yesNo_resolved : values.resolved.yesNo name = values.yesNo name :=
  congrFun (yesNo_congr (funext values.get?_resolved)) name

end CollectedAttributes

namespace ElementRule

variable (rule : ElementRule) (element : Element)

/-- The same values are read from resolved markup. -/
@[simp]
theorem valuesOf_resolved : rule.valuesOf element.resolved = (rule.valuesOf element).resolved :=
  Rewriting.resolved.valuesOf_onElement rule element

theorem gist_missing_resolved (values : CollectedAttributes) :
    (rule.missing element.resolved values.resolved).map Diagnostic.gist =
      (rule.missing element values).map Diagnostic.gist := by
  simp only [missing, CollectedAttributes.isPresent_resolved, List.map_map]
  rfl

theorem gist_conflicts_resolved (values : CollectedAttributes) :
    (rule.conflicts element.resolved values.resolved).map Diagnostic.gist =
      (rule.conflicts element values).map Diagnostic.gist := by
  rw [conflicts, conflicts, List.map_filterMap, List.map_filterMap]
  refine List.filterMap_congr fun group _ => ?_
  have sources : group.filterMap values.resolved.source? =
      (group.filterMap values.source?).map Attribute.resolved :=
    values.filterMap_source?_mapSource Attribute.resolved group
  unfold conflict?
  rw [sources]
  rcases group.filterMap values.source? with _ | ⟨first, _ | ⟨second, others⟩⟩
  · rfl
  · rfl
  · rfl

end ElementRule

def Step.gist (step : Step) : Diagnostic := step.diagnostic.gist

theorem Step.map_gist_map_report (diagnostics : List Diagnostic) :
    (diagnostics.map report).map gist = diagnostics.map Diagnostic.gist := by
  rw [List.map_map]
  rfl

theorem ElementRule.gist_attributePlan_resolved (rule : ElementRule) (element : Element)
    (attr : Attribute) :
    (rule.attributePlan element.resolved attr.resolved).map Step.gist =
      (rule.attributePlan element attr).map Step.gist := by
  unfold attributePlan
  rw [Attribute.name_resolved, Name.isUnqualifiedOrIn_resolved, Name.localName_resolved]
  split
  · cases rule.find? attr.name.localName with
    | none => rfl
    | some attrRule =>
        have refusal := attrRule.kind.gist_read_congr attr.value_resolved element.resolved element
        have reported := congrArg Option.toList refusal
        simpa only [Step.map_gist_map_report, Option.toList_map] using reported
  · rfl

theorem ElementRule.gist_plan_resolved (rule : ElementRule) (element : Element) :
    (rule.plan element.resolved).map Step.gist = (rule.plan element).map Step.gist := by
  simp only [plan, valuesOf_resolved, List.map_append, Step.map_gist_map_report,
    gist_missing_resolved, gist_conflicts_resolved, Element.attributes_resolved,
    List.flatMap_map, List.map_flatMap, gist_attributePlan_resolved]

namespace LaunchCondition

@[simp]
theorem expression?_resolved (element : Element) :
    expression? element.resolved = expression? element :=
  expression?_congr (by rw [element.innerText_resolved])

theorem gist_missing_resolved (element : Element) (values : CollectedAttributes) :
    (missing element.resolved values.resolved).map Diagnostic.gist =
      (missing element values).map Diagnostic.gist := by
  simp only [missing, expression?_resolved, CollectedAttributes.isPresent_resolved,
    List.map_append]
  congr 1 <;> split <;> rfl

end LaunchCondition

namespace Validator

theorem gist_childStep_resolved (parent child : Element) :
    (childStep parent.resolved child.resolved).gist = (childStep parent child).gist := by
  unfold childStep
  rw [Element.name_resolved, Name.namespaceUri_resolved]
  split <;> rfl

end Validator

namespace ElementKind

variable (kind : ElementKind) (element : Element) (values : CollectedAttributes)

theorem gist_beforeChildren_resolved :
    (kind.validator.beforeChildren element.resolved values.resolved).map Diagnostic.gist =
      (kind.validator.beforeChildren element values).map Diagnostic.gist := by
  cases kind with
  | condition => exact LaunchCondition.gist_missing_resolved element values
  | standardUi => rfl
  | managedHost => rfl

theorem gist_afterChildren_resolved :
    (kind.validator.afterChildren element.resolved values.resolved).map Diagnostic.gist =
      (kind.validator.afterChildren element values).map Diagnostic.gist := by
  cases kind with
  | condition => rfl
  | standardUi =>
      simp only [validator, StandardUi.validator, StandardUi.missingLicense,
        CollectedAttributes.isNullOrEmpty_resolved, CollectedAttributes.isPresent_resolved]
      split <;> rfl
  | managedHost =>
      simp only [validator, ManagedHost.validator, ManagedHost.licenseProblem,
        CollectedAttributes.isNullOrEmpty_resolved]
      split <;> rfl

theorem fillings_resolved :
    kind.validator.fillings element.resolved values.resolved =
      kind.validator.fillings element values := by
  cases kind with
  | condition =>
      simp only [validator, LaunchCondition.validator, LaunchCondition.fillings,
        LaunchCondition.expression?_resolved, CollectedAttributes.text?_resolved]
  | standardUi =>
      simp only [validator, StandardUi.validator, StandardUi.fillings, StandardUi.launchFillings,
        Validator.linkFillings, StandardUi.optionsFillings, CollectedAttributes.text?_resolved,
        CollectedAttributes.yesNo_resolved]
  | managedHost =>
      simp only [validator, ManagedHost.validator, Validator.linkFillings,
        CollectedAttributes.text?_resolved]

theorem content_rows_resolved :
    (kind.validator.rows element.resolved values.resolved).map Row.content =
      (kind.validator.rows element values).map Row.content := by
  rw [Validator.rows, Validator.rows, kind.fillings_resolved]
  exact Filling.content_rows _ _ _

theorem gist_plan_resolved :
    (kind.validator.plan element.resolved).map Step.gist =
      (kind.validator.plan element).map Step.gist := by
  have children : (element.childElements.map Element.resolved).map
      (Step.gist ∘ Validator.childStep element.resolved) =
        element.childElements.map (Step.gist ∘ Validator.childStep element) := by
    rw [List.map_map]
    exact List.map_congr_left fun child _ => Validator.gist_childStep_resolved element child
  simp only [Validator.plan, ElementRule.valuesOf_resolved, List.map_append,
    ElementRule.gist_plan_resolved, Step.map_gist_map_report, gist_beforeChildren_resolved,
    gist_afterChildren_resolved, Element.childElements_resolved]
  rw [List.map_map, children, List.map_map]

end ElementKind

namespace HostAttributes

variable (parent : Element)

theorem variableName?_resolved : variableName? parent.resolved = variableName? parent := by
  rw [variableName?, Element.attribute?_resolved, Option.map_map, variableName?]
  rfl

theorem gist_problem?_resolved (attr : Attribute) :
    (problem? parent.resolved attr.resolved).map Diagnostic.gist =
      (problem? parent attr).map Diagnostic.gist := by
  unfold problem?
  rw [variableName?_resolved, Attribute.name_resolved, Name.localName_resolved]
  split
  · rfl
  · split
    · exact ValueKind.yesNo.gist_read_congr attr.value_resolved parent.resolved parent
    · rfl

theorem gist_problems_resolved (attributes : List Attribute) :
    (problems parent.resolved (attributes.map .resolved)).map Diagnostic.gist =
      (problems parent attributes).map Diagnostic.gist := by
  unfold problems
  rw [Element.localName_resolved]
  split
  · rw [List.filterMap_map, List.map_filterMap, List.map_filterMap]
    exact List.filterMap_congr fun attr _ => gist_problem?_resolved parent attr
  · simp only [List.map_map]
    rfl

theorem isOverridable_resolved (attributes : List Attribute) :
    isOverridable parent.resolved (attributes.map .resolved) = isOverridable parent attributes :=
  Rewriting.resolved.isOverridable_onElement parent attributes

theorem content_ownRows_resolved (attributes : List Attribute) :
    (ownRows parent.resolved (attributes.map .resolved)).map Row.content =
      (ownRows parent attributes).map Row.content := by
  simp only [ownRows, rows_eq, Element.localName_resolved, variableName?_resolved,
    isOverridable_resolved]
  repeat' split
  all_goals rfl

end HostAttributes

namespace Part

theorem gist_plan_resolved (part : Part) :
    part.resolved.plan.map Step.gist = part.plan.map Step.gist := by
  cases part with
  | foreignAttribute host attr => rfl
  | ownAttributes host attributes =>
      simp only [resolved, plan, Step.map_gist_map_report]
      exact HostAttributes.gist_problems_resolved host attributes
  | ownElement host element =>
      simp only [resolved, plan, Element.localName_resolved]
      split
      · exact ElementKind.gist_plan_resolved _ element
      · rfl
  | foreignElement host element => rfl

theorem content_ownRows_resolved (part : Part) :
    part.resolved.ownRows.map Row.content = part.ownRows.map Row.content := by
  cases part with
  | foreignAttribute host attr => rfl
  | ownAttributes host attributes => exact HostAttributes.content_ownRows_resolved host attributes
  | ownElement host element =>
      simp only [resolved, ownRows, Element.localName_resolved]
      split
      · rw [Validator.ownRows, ElementRule.valuesOf_resolved]
        exact ElementKind.content_rows_resolved _ element _
      · rfl
  | foreignElement host element => rfl

end Part

theorem Diagnostic.anyError_map_gist (diagnostics : List Diagnostic) :
    anyError (diagnostics.map gist) = anyError diagnostics := by
  rw [anyError, List.any_map]
  rfl

theorem WarningPolicy.apply_gist (policy : WarningPolicy) (diagnostic : Diagnostic) :
    policy.apply diagnostic.gist = (policy.apply diagnostic).map Diagnostic.gist := by
  by_cases warns : diagnostic.severity = .warning
  · have dropped : policy.drops diagnostic.gist.code = policy.drops diagnostic.code := rfl
    rw [apply, apply, if_pos warns, if_pos (show diagnostic.gist.severity = .warning from warns),
      dropped]
    repeat' split
    all_goals rfl
  · rw [apply, apply, if_neg warns, if_neg (show diagnostic.gist.severity ≠ .warning from warns)]
    rfl

theorem WarningPolicy.map_gist_filterMap_apply (policy : WarningPolicy)
    (diagnostics : List Diagnostic) :
    (diagnostics.filterMap policy.apply).map Diagnostic.gist =
      (diagnostics.map Diagnostic.gist).filterMap policy.apply := by
  rw [List.map_filterMap, List.filterMap_map]
  exact List.filterMap_congr fun diagnostic _ => (policy.apply_gist diagnostic).symm

/-- A resolved part comes to an outcome of the same content. -/
theorem Part.outcome_resolved (policy : WarningPolicy) (part : Part) :
    (part.resolved.outcome policy).diagnostics.map Diagnostic.gist =
        (part.outcome policy).diagnostics.map Diagnostic.gist ∧
      (part.resolved.outcome policy).rows.map Row.content =
        (part.outcome policy).rows.map Row.content := by
  have diagnostics : (part.resolved.outcome policy).diagnostics.map Diagnostic.gist =
      (part.outcome policy).diagnostics.map Diagnostic.gist := by
    have gists : (part.resolved.plan.map Step.diagnostic).map Diagnostic.gist =
        (part.plan.map Step.diagnostic).map Diagnostic.gist := by
      rw [List.map_map, List.map_map]
      exact part.gist_plan_resolved
    rw [outcome, outcome, Outcome.diagnostics_of, Outcome.diagnostics_of,
      policy.map_gist_filterMap_apply, policy.map_gist_filterMap_apply, gists]
  have errors := congrArg Diagnostic.anyError diagnostics
  rw [Diagnostic.anyError_map_gist, Diagnostic.anyError_map_gist] at errors
  refine ⟨diagnostics, ?_⟩
  simp only [outcome, Outcome.diagnostics_of] at errors
  simp only [outcome, Outcome.rows_of, errors]
  split
  · rfl
  · exact part.content_ownRows_resolved

namespace Session

/-- Without other extensions a resolved document compiles to the same content. -/
theorem compile_content_resolved {session : Session σ} (bare : session.extensions = .empty)
    (document : Document) :
    let output := (session.compile document).1
    let resolved := (session.compile ⟨document.root.resolved, default⟩).1
    resolved.rows.map Row.content = output.rows.map Row.content ∧
      resolved.diagnostics.map Diagnostic.gist = output.diagnostics.map Diagnostic.gist := by
  simp only [compile_eq, Part.judgeAll_empty bare, Output.ofOutcomes, Part.ofHost_resolved,
    List.map_flatMap, List.flatMap_map]
  constructor
  · exact List.flatMap_congr fun part _ => (part.outcome_resolved session.policy).2
  · exact List.flatMap_congr fun part _ => (part.outcome_resolved session.policy).1

/--
Documents that resolve to the same markup compile to rows of the same tables with the same columns
and to diagnostics of the same severities, titles and codes, in the same order, whatever the policy.
-/
theorem compile_content (session : Session σ) (bare : session.extensions = .empty)
    (left right : Document) (same : left.root.resolved = right.root.resolved) :
    let first := (session.compile left).1
    let second := (session.compile right).1
    first.rows.map Row.content = second.rows.map Row.content ∧
      first.diagnostics.map Diagnostic.gist = second.diagnostics.map Diagnostic.gist := by
  obtain ⟨leftRows, leftDiagnostics⟩ := compile_content_resolved bare left
  obtain ⟨rightRows, rightDiagnostics⟩ := compile_content_resolved bare right
  rw [same] at leftRows leftDiagnostics
  exact ⟨leftRows.symm.trans rightRows, leftDiagnostics.symm.trans rightDiagnostics⟩

/-- A bundle with a condition and a note, and the same one with qualifiers at another place. -/
theorem compile_content_qualified :
    let session : Session Unit := start {} .empty
    let elsewhere : SourceSpan := .ofOffsets ⟨1⟩ 7 9
    let message : Attribute := ⟨⟨none, "Message", none⟩, default, "m", default⟩
    let condition := { bareElement ownNamespace "Condition" with
      attributes := [message]
      children := .text "A" default }
    let plain := notedBundle [condition]
    let qualified := { plain with
      name := ⟨some hostNamespace, "Bundle", some "w"⟩
      declarations := [⟨some "w", hostNamespace⟩, ⟨some "b", ownNamespace⟩]
      children := .elements [{ condition with
        name := ⟨some ownNamespace, "Condition", some "b"⟩
        nameSpan := elsewhere
        attributes := [{ message with valueSpan := elsewhere }]
        children := .text "A" elsewhere }]
      span := elsewhere }
    let output := (session.compile ⟨qualified, elsewhere⟩).1
    session.extensions = .empty ∧ plain.resolved = qualified.resolved ∧
      output.rows.map Row.content = [(.condition, [some (.text "A"), some (.text "m")])] ∧
      output.diagnostics.map Diagnostic.gist =
        [{ severity := .warning, title := "Unsupported extension attribute",
           code := some "B-5-1" }] := by
  intro session elsewhere message condition plain qualified output
  have same : plain.resolved = qualified.resolved := by
    simp only [plain, qualified, notedBundle, bareElement, condition, Children.ofElements,
      Element.resolved, Children.resolved, List.map_cons, List.map_nil]
    rfl
  obtain ⟨rows, diagnostics⟩ :=
    compile_content session rfl ⟨plain, default⟩ ⟨qualified, elsewhere⟩ same
  have parts : Part.ofHost plain =
      [.foreignAttribute plain ownerNote, .ownElement plain condition] := by
    rw [Part.ofHost_eq]
    rfl
  refine ⟨rfl, same, ?_, ?_⟩
  · rw [← rows, compile_eq, parts]
    decide +kernel
  · rw [← diagnostics, compile_eq, parts]
    decide +kernel

end Session
end BundleMarkup
