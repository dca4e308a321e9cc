import BundleMarkup.Bundle.Part

/-!
# Plans

What judging a part of a document does can be told without judging it: which diagnostics are
reported, which markup is handed to other extensions, and in which order.  The plan of a part lists
these steps.  Neither the warning policy nor what other extensions answer has a say in it.
-/

namespace BundleMarkup

/-- A single thing that is done while a part is judged. -/
inductive Step
  | report (diagnostic : Diagnostic)
  /-- An attribute on an element is handed to the extension of its namespace. -/
  | delegateAttribute (bearer : Element) (attr : Attribute)
  /-- A child of an element is handed to the extension of its namespace. -/
  | delegateElement (parent element : Element)

namespace Extensions

variable {σ : Type}

/-- Do a step; a report is an outcome of its own. -/
def perform (extensions : Extensions σ) : Step → Outcome × Extensions σ
  | .report diagnostic => (.ofDiagnostic diagnostic, extensions)
  | .delegateAttribute bearer attr => extensions.judgeAttribute bearer attr
  | .delegateElement parent element => extensions.judgeElement parent element

/-- Do steps one after another. -/
def performAll (extensions : Extensions σ) : List Step → List Outcome × Extensions σ
  | [] => ([], extensions)
  | step :: rest =>
      let (outcome, extensions) := extensions.perform step
      let (later, extensions) := performAll extensions rest
      (outcome :: later, extensions)

@[simp]
theorem performAll_nil (extensions : Extensions σ) : extensions.performAll [] = ([], extensions) :=
  rfl

theorem performAll_cons (extensions : Extensions σ) (step : Step) (rest : List Step) :
    extensions.performAll (step :: rest) =
      ((extensions.perform step).1 :: ((extensions.perform step).2.performAll rest).1,
        ((extensions.perform step).2.performAll rest).2) := rfl

theorem performAll_append (extensions : Extensions σ) (front back : List Step) :
    extensions.performAll (front ++ back) =
      ((extensions.performAll front).1 ++ ((extensions.performAll front).2.performAll back).1,
        ((extensions.performAll front).2.performAll back).2) := by
  induction front generalizing extensions with
  | nil => rfl
  | cons step rest ih => simp [performAll_cons, ih]

/-- Reports concern no other extension. -/
theorem performAll_report (extensions : Extensions σ) (diagnostics : List Diagnostic) :
    extensions.performAll (diagnostics.map .report) =
      (diagnostics.map .ofDiagnostic, extensions) := by
  induction diagnostics with
  | nil => rfl
  | cons first rest ih => simp [performAll_cons, perform, ih]

end Extensions

namespace ElementRule

/-- What is recorded of an attribute under a rule, if it is one of the rule's. -/
def entry? (rule : ElementRule) (element : Element) (attr : Attribute) :
    Option CollectedAttribute :=
  if attr.name.isUnqualifiedOrIn ownNamespace then
    (rule.find? attr.name.localName).map fun attrRule =>
      ⟨attrRule.name, (attrRule.kind.read element attr).1, attr⟩
  else
    none

/-- The attributes that an element has under a rule. -/
def valuesOf (rule : ElementRule) (element : Element) : CollectedAttributes :=
  ⟨element.attributes.filterMap (rule.entry? element)⟩

/-- The steps for one attribute of an element under a rule. -/
def attributePlan (rule : ElementRule) (element : Element) (attr : Attribute) : List Step :=
  if attr.name.isUnqualifiedOrIn ownNamespace then
    match rule.find? attr.name.localName with
    | some attrRule => (attrRule.kind.read element attr).2.toList.map .report
    | none => [.report (Message.unexpectedAttribute element attr)]
  else
    [.delegateAttribute element attr]

/-- The steps for the attributes of an element under a rule. -/
def plan (rule : ElementRule) (element : Element) : List Step :=
  element.attributes.flatMap (rule.attributePlan element) ++
    (rule.missing element (rule.valuesOf element) ++
      rule.conflicts element (rule.valuesOf element)).map .report

end ElementRule

namespace Validator

/-- The step for a child of an element of the extension. -/
def childStep (parent child : Element) : Step :=
  if child.name.namespaceUri = ownNamespace || Session.isHostChild child.name.namespaceUri then
    .report (Message.unexpectedElement parent child)
  else
    .delegateElement parent child

/-- The steps for an element that a validator judges. -/
def plan (validator : Validator) (element : Element) : List Step :=
  let values := validator.rule.valuesOf element
  validator.rule.plan element ++ (validator.beforeChildren element values).map .report ++
    element.childElements.map (childStep element) ++
    (validator.afterChildren element values).map .report

/-- The rows that an element gives a validator if there is no error. -/
def ownRows (validator : Validator) (element : Element) : List Row :=
  validator.rows element (validator.rule.valuesOf element)

end Validator

namespace HostAttributes

/-- What is wrong with the extension's attributes on a host element. -/
def problems (parent : Element) (attributes : List Attribute) : List Diagnostic :=
  match HostKind.named? parent.localName with
  | some .hostVariable => attributes.filterMap (problem? parent)
  | _ => attributes.map (Message.unexpectedAttribute parent)

/-- The rows that the extension's attributes on a host element give if there is no error. -/
def ownRows (parent : Element) (attributes : List Attribute) : List Row :=
  match HostKind.named? parent.localName with
  | some .hostVariable => rows parent attributes
  | _ => []

end HostAttributes

namespace Part

/-- The steps of judging a part. -/
def plan : Part → List Step
  | .foreignAttribute host attr => [.delegateAttribute host attr]
  | .ownAttributes host attributes => (HostAttributes.problems host attributes).map .report
  | .ownElement host element =>
      match ElementKind.route? host.localName element.localName with
      | some kind => kind.validator.plan element
      | none => [.report (Message.unexpectedElement host element)]
  | .foreignElement host element => [.delegateElement host element]

/-- The rows that a part adds to those of other extensions if there is no error. -/
def ownRows : Part → List Row
  | .foreignAttribute _ _ => []
  | .ownAttributes host attributes => HostAttributes.ownRows host attributes
  | .ownElement host element =>
      match ElementKind.route? host.localName element.localName with
      | some kind => kind.validator.ownRows element
      | none => []
  | .foreignElement _ _ => []

end Part
end BundleMarkup
