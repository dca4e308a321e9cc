import BundleMarkup.Proofs.Judging.Fillings
import BundleMarkup.Proofs.Judging.Walk
import Mathlib.Data.List.Forall2

/-!
# Bearers

A part stands on a host element, and that element is handed to extensions along with it.  Two
elements are the same bearer if they differ in their parts only.  If no extension looks at more of a
bearer than that, a part comes to the same outcome on both.
-/

namespace BundleMarkup

variable {σ : Type}

/-- The attributes of a host element that are the host language's own. -/
def Element.hostAttributes (host : Element) : List Attribute :=
  host.attributes.filter fun attr => isHostMarkup attr.name.namespaceUri

/-- The same element as far as it is no part of a document. -/
structure Element.SameBearer (left right : Element) : Prop where
  name : left.name = right.name
  nameSpan : left.nameSpan = right.nameSpan
  hostAttributes : left.hostAttributes = right.hostAttributes
  declarations : left.declarations = right.declarations
  span : left.span = right.span

theorem Element.SameBearer.refl (element : Element) : element.SameBearer element :=
  ⟨rfl, rfl, rfl, rfl, rfl⟩

theorem Element.SameBearer.symm {left right : Element} (bearers : left.SameBearer right) :
    right.SameBearer left :=
  ⟨bearers.name.symm, bearers.nameSpan.symm, bearers.hostAttributes.symm,
    bearers.declarations.symm, bearers.span.symm⟩

theorem Element.SameBearer.trans {left middle right : Element} (first : left.SameBearer middle)
    (second : middle.SameBearer right) : left.SameBearer right :=
  ⟨first.name.trans second.name, first.nameSpan.trans second.nameSpan,
    first.hostAttributes.trans second.hostAttributes,
    first.declarations.trans second.declarations, first.span.trans second.span⟩

/-- The answers of an extension depend neither on its state nor on what bearers differ in. -/
structure Extension.Respects (same : Element → Element → Prop) (extension : Extension σ) :
    Prop where
  /-- An attribute gets the same answer on the same bearer. -/
  onAttribute {left right : Element} (bearers : same left right) (before after : σ)
      (attr : Attribute) :
    (extension.onAttribute before left attr).1 = (extension.onAttribute after right attr).1
  /-- A child gets the same answer under the same bearer. -/
  onElement {left right : Element} (bearers : same left right) (before after : σ)
      (element : Element) :
    (extension.onElement before left element).1 = (extension.onElement after right element).1

/-- A step done for the same bearer. -/
inductive Step.Same (same : Element → Element → Prop) : Step → Step → Prop
  | report (diagnostic : Diagnostic) : Same same (.report diagnostic) (.report diagnostic)
  | delegateAttribute {left right : Element} (bearers : same left right) (attr : Attribute) :
      Same same (.delegateAttribute left attr) (.delegateAttribute right attr)
  | delegateElement {left right : Element} (bearers : same left right) (element : Element) :
      Same same (.delegateElement left element) (.delegateElement right element)

theorem Step.forall₂_same_refl {same : Element → Element → Prop}
    (refl : ∀ element, same element element) (steps : List Step) :
    List.Forall₂ (Step.Same same) steps steps := by
  apply List.forall₂_same.mpr
  intro step _
  cases step with
  | report diagnostic => exact .report diagnostic
  | delegateAttribute bearer attr => exact .delegateAttribute (refl bearer) attr
  | delegateElement parent element => exact .delegateElement (refl parent) element

namespace Loaded

variable {act act' : Loaded σ → Outcome × σ} {uri : String} {otherwise otherwise' : Outcome}

/-- An answer changes states only. -/
theorem map_extension_answer (list : List (Loaded σ)) :
    (answer uri act otherwise list).2.map extension = list.map extension := by
  induction list with
  | nil => rfl
  | cons first rest ih =>
      rw [answer]
      split
      · rfl
      · simp [ih]

/-- Extensions that act alike answer alike. -/
theorem answer_congr {list list' : List (Loaded σ)}
    (same : list.map extension = list'.map extension)
    (alike : ∀ loaded ∈ list, ∀ loaded' : Loaded σ,
      loaded.extension = loaded'.extension → (act loaded).1 = (act' loaded').1)
    (unclaimed : otherwise = otherwise') :
    (answer uri act otherwise list).1 = (answer uri act' otherwise' list').1 := by
  induction list generalizing list' with
  | nil =>
      obtain rfl : list' = [] := by simpa using same.symm
      exact unclaimed
  | cons first rest ih =>
      cases list' with
      | nil => cases same
      | cons first' rest' =>
          obtain ⟨head, tail⟩ := List.cons.inj same
          have uris : first.namespaceUri = first'.namespaceUri :=
            congrArg Extension.namespaceUri head
          rw [answer, answer, uris]
          split
          · exact alike first List.mem_cons_self first' head
          · exact ih tail fun loaded among => alike loaded (List.mem_cons_of_mem first among)

end Loaded

namespace Extensions

/-- The extensions of a table without their states. -/
def kinds (extensions : Extensions σ) : List (Extension σ) :=
  extensions.loaded.map Loaded.extension

/-- All extensions of a table answer independently of states and of what bearers differ in. -/
def Respects (same : Element → Element → Prop) (extensions : Extensions σ) : Prop :=
  ∀ loaded ∈ extensions.loaded, loaded.extension.Respects same

theorem kinds_perform (extensions : Extensions σ) (step : Step) :
    (extensions.perform step).2.kinds = extensions.kinds := by
  cases step with
  | report diagnostic => rfl
  | delegateAttribute bearer attr => exact Loaded.map_extension_answer extensions.loaded
  | delegateElement parent element => exact Loaded.map_extension_answer extensions.loaded

theorem kinds_performAll (extensions : Extensions σ) (steps : List Step) :
    (extensions.performAll steps).2.kinds = extensions.kinds := by
  induction steps generalizing extensions with
  | nil => rfl
  | cons step rest ih => rw [performAll_cons, ih, kinds_perform]

/-- What extensions respect is a matter of the extensions alone. -/
theorem respects_of_kinds {same : Element → Element → Prop} {left right : Extensions σ}
    (kinds : left.kinds = right.kinds) (respects : left.Respects same) : right.Respects same := by
  intro loaded among
  have listed : loaded.extension ∈ right.kinds := List.mem_map_of_mem among
  rw [← kinds] at listed
  obtain ⟨other, member, equal⟩ := List.mem_map.mp listed
  exact equal ▸ respects other member

variable {same : Element → Element → Prop}
  (named : ∀ {left right : Element}, same left right → left.name = right.name)

include named

/-- A step has the same outcome for the same bearer. -/
theorem perform_congr {left right : Extensions σ} (respects : left.Respects same)
    (kinds : left.kinds = right.kinds) {step step' : Step} (steps : step.Same same step') :
    (left.perform step).1 = (right.perform step').1 := by
  cases steps with
  | report diagnostic => rfl
  | delegateAttribute bearers attr =>
      apply Loaded.answer_congr kinds
      · intro loaded among loaded' equal
        rw [← equal]
        exact (respects loaded among).onAttribute bearers _ _ attr
      · simp only [Message.unsupportedExtensionAttribute, named bearers]
  | delegateElement bearers element =>
      apply Loaded.answer_congr kinds
      · intro loaded among loaded' equal
        rw [← equal]
        exact (respects loaded among).onElement bearers _ _ element
      · simp only [Message.unsupportedExtensionElement, named bearers]

theorem performAll_congr {left right : Extensions σ} (respects : left.Respects same)
    (kinds : left.kinds = right.kinds) {steps steps' : List Step}
    (alike : List.Forall₂ (Step.Same same) steps steps') :
    (left.performAll steps).1 = (right.performAll steps').1 := by
  induction alike generalizing left right with
  | nil => rfl
  | @cons step step' rest rest' first _ ih =>
      have left_kinds := left.kinds_perform step
      have right_kinds := right.kinds_perform step'
      have later := ih (respects_of_kinds left_kinds.symm respects)
        (left_kinds.trans (kinds.trans right_kinds.symm))
      simp only [performAll_cons]
      rw [perform_congr named respects kinds first, later]

end Extensions

/-- What is read from an attribute is a matter of its value, not of the element that has it. -/
theorem ValueKind.value_read_congr (kind : ValueKind) {attr attr' : Attribute}
    (same : attr.value = attr'.value) (left right : Element) :
    (kind.read left attr).1 = (kind.read right attr').1 := by
  obtain ⟨name, nameSpan, value, valueSpan⟩ := attr
  obtain rfl : value = attr'.value := same
  cases kind with
  | text => rfl
  | nonEmptyText =>
      simp only [read]
      split <;> rfl
  | yesNo =>
      simp only [read]
      repeat' split
      all_goals rfl

namespace HostAttributes

/-- The name of a host variable is no matter of the parts that stand on it. -/
theorem variableName?_congr {left right : Element} (bearers : left.SameBearer right) :
    variableName? left = variableName? right := by
  have found (host : Element) : host.attribute? "Name" = host.hostAttributes.find? fun attr =>
      attr.name.uri.isNone && attr.name.localName == "Name" := by
    rw [Element.attribute?, Element.hostAttributes, List.find?_filter]
    congr 1
    funext attr
    cases uri : attr.name.uri with
    | none => simp [Name.namespaceUri, uri, isHostMarkup, beq_eq_decide]
    | some other => simp
  rw [variableName?, variableName?, found, found, bearers.hostAttributes]

theorem problems_congr {left right : Element} (bearers : left.SameBearer right)
    (attributes : List Attribute) : problems left attributes = problems right attributes := by
  have problem (attr : Attribute) : problem? left attr = problem? right attr := by
    simp only [problem?, variableName?_congr bearers, Message.expectedParentWithAttribute,
      Message.unexpectedAttribute, ValueKind.read, Message.illegalEmptyValue,
      Message.illegalYesNoValue, bearers.name]
  have unexpected : Message.unexpectedAttribute left = Message.unexpectedAttribute right := by
    funext attr
    simp only [Message.unexpectedAttribute, bearers.name]
  simp only [problems, Element.localName, bearers.name, funext problem, unexpected]

theorem ownRows_congr {left right : Element} (bearers : left.SameBearer right)
    (attributes : List Attribute) : ownRows left attributes = ownRows right attributes := by
  have read (attr : Attribute) := ValueKind.yesNo.value_read_congr (Eq.refl attr.value) left right
  have overridable : isOverridable left attributes = isOverridable right attributes := by
    simp only [isOverridable, read]
  simp only [ownRows, rows_eq, Element.localName, bearers.name, bearers.span, overridable,
    variableName?_congr bearers]

end HostAttributes

namespace Part

/-- The same part on the same bearer. -/
inductive SameAs : Part → Part → Prop
  | foreignAttribute {left right : Element} (bearers : left.SameBearer right) (attr : Attribute) :
      SameAs (.foreignAttribute left attr) (.foreignAttribute right attr)
  | ownAttributes {left right : Element} (bearers : left.SameBearer right)
      (attributes : List Attribute) :
      SameAs (.ownAttributes left attributes) (.ownAttributes right attributes)
  | ownElement {left right : Element} (bearers : left.SameBearer right) (element : Element) :
      SameAs (.ownElement left element) (.ownElement right element)
  | foreignElement {left right : Element} (bearers : left.SameBearer right) (element : Element) :
      SameAs (.foreignElement left element) (.foreignElement right element)

theorem plan_congr {part part' : Part} (same : SameAs part part') :
    List.Forall₂ (Step.Same Element.SameBearer) part.plan part'.plan := by
  cases same with
  | foreignAttribute bearers attr => exact .cons (.delegateAttribute bearers attr) .nil
  | foreignElement bearers element => exact .cons (.delegateElement bearers element) .nil
  | ownAttributes bearers attributes =>
      simp only [plan, HostAttributes.problems_congr bearers]
      exact Step.forall₂_same_refl .refl _
  | ownElement bearers element =>
      simp only [plan, Element.localName, bearers.name, Message.unexpectedElement]
      exact Step.forall₂_same_refl .refl _

theorem ownRows_congr {part part' : Part} (same : SameAs part part') :
    part.ownRows = part'.ownRows := by
  cases same with
  | foreignAttribute bearers attr => rfl
  | foreignElement bearers element => rfl
  | ownAttributes bearers attributes => exact HostAttributes.ownRows_congr bearers attributes
  | ownElement bearers element => simp only [ownRows, Element.localName, bearers.name]

end Part
end BundleMarkup
