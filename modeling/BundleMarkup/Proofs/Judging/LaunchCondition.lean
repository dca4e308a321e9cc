import BundleMarkup.Proofs.Judging.Acceptance
import BundleMarkup.Proofs.Judging.Expression

/-!
# Launch conditions

A launch condition is accepted if its text is more than white space, if it has a message that is not
empty and no other attribute, and if nothing but foreign markup is inside it and that is answered
without an error.  It then gives one row beside those of the answers.  The lack of an expression and
the lack of a message are two matters, and an empty message is not a lack of one.
-/

namespace BundleMarkup
namespace LaunchCondition

variable {element : Element}

theorem isNone_expression? :
    (expression? element).isNone = Text.allBlank element.innerText.toList := by
  rw [Bool.eq_iff_iff, Option.isNone_iff_eq_none, expression?_eq_none]

theorem find?_rule : rule.find? "Message" = some { name := "Message", kind := .nonEmptyText } := rfl

theorem allows_iff {name value : String} :
    rule.Allows name value ↔ name = "Message" ∧ value ≠ "" := by
  constructor
  · rintro ⟨attrRule, known, allowed⟩
    obtain rfl := ElementRule.name_of_find? known
    obtain rfl := List.mem_singleton.mp (List.mem_of_find?_eq_some known)
    exact ⟨rfl, allowed⟩
  · rintro ⟨rfl, filled⟩
    exact ⟨_, find?_rule, filled⟩

/-- What is reported of a condition's expression and of its message, in this order. -/
theorem missing_valuesOf :
    missing element (rule.valuesOf element) =
      (if Text.allBlank element.innerText.toList then [Message.expectedCondition element]
        else []) ++
      if (element.given? "Message").isSome then []
        else [Message.expectedAttribute element "Message"] := by
  have message := ElementRule.isPresent_valuesOf element find?_rule
  rw [missing, message, isNone_expression?]

/-- Under the codes of the two demands nothing else is reported. -/
theorem filter_code_reports :
    (validator.reports element).filter (·.code ∈ [some "B-2-1", some "B-2-2"]) =
      (if Text.allBlank element.innerText.toList then [Message.expectedCondition element]
        else []) ++
      if (element.given? "Message").isSome then []
        else [Message.expectedAttribute element "Message"] := by
  have demands := Validator.filter_code_reports validator element
    (fun code => code ∈ [some "B-2-1", some "B-2-2"]) (by decide)
  rw [demands]
  show (rule.missing element (rule.valuesOf element) ++ [] ++
    missing element (rule.valuesOf element) ++ []).filter _ = _
  rw [ElementRule.missing_eq_nil element (by decide), missing_valuesOf]
  split <;> split <;> rfl

/-- An empty message is refused as one. -/
theorem illegalEmptyValue_mem_reports {attr : Attribute} (among : attr ∈ element.ruledAttributes)
    (named : attr.name.localName = "Message") (empty : attr.value = "") :
    Message.illegalEmptyValue element attr ∈ validator.reports element := by
  refine Validator.mem_reports_of_fault? element among ?_
  show rule.fault? element attr = _
  rw [ElementRule.fault?, named, find?_rule]
  exact congrArg Prod.snd (if_pos empty)

theorem reports_eq_nil :
    validator.reports element = [] ↔
      (∀ attr ∈ element.ruledAttributes, attr.name.localName = "Message" ∧ attr.value ≠ "") ∧
      (∀ child ∈ element.childElements,
        child.name.namespaceUri ∉ ["", ownNamespace, hostNamespace]) ∧
      Text.allBlank element.innerText.toList = false ∧
      (element.given? "Message").isSome = true := by
  simp only [← allows_iff]
  refine Validator.reports_eq_nil.trans (and_congr_right fun _ => and_congr_right fun _ => ?_)
  show rule.missing element (rule.valuesOf element) = [] ∧ [] = [] ∧
    missing element (rule.valuesOf element) = [] ∧ [] = [] ↔ _
  rw [ElementRule.missing_eq_nil element (by decide), missing_valuesOf]
  cases Text.allBlank element.innerText.toList <;> cases element.given? "Message" <;> simp

/-- The row of a condition that lacks nothing. -/
theorem rows_valuesOf
    (legal : ∀ attr ∈ element.ruledAttributes, attr.name.localName = "Message" ∧ attr.value ≠ "")
    {expression message : String} (found : expression? element = some expression)
    (given : element.given? "Message" = some message) :
    validator.rows element (rule.valuesOf element) =
      [.ofTexts .condition [expression, message] element.span] := by
  simp only [← allows_iff] at legal
  have text := ElementRule.text?_valuesOf legal find?_rule nofun
  change Filling.rows (fillings element (rule.valuesOf element)) element.span = _
  rw [rows_fillings, found, text, given]

end LaunchCondition

namespace Session

variable {σ : Type} (session : Session σ) {parent element : Element}

/-- What other extensions answer to the attributes that an element hands over. -/
def attributeAnswers (element : Element) : List Outcome × Extensions σ :=
  session.extensions.performAll <|
    (element.attributes.filter (!·.name.isUnqualifiedOrIn ownNamespace)).map
      (.delegateAttribute element)

/-- What they answer after that to the children that it hands over. -/
def childAnswers (element : Element) : List Outcome × Extensions σ :=
  (session.attributeAnswers element).2.performAll <|
    (element.childElements.filter fun child =>
      child.name.namespaceUri ∉ ["", ownNamespace, hostNamespace]).map (.delegateElement element)

theorem delegated_eq (element : Element) :
    session.delegated element =
      (session.attributeAnswers element).1 ++ (session.childAnswers element).1 := by
  rw [delegated, Element.delegations, Extensions.performAll_append]
  rfl

/--
However a launch condition is judged, its validator reports the lack of an expression and the lack
of a message, each once and in this order, and nothing else under their codes; an empty message is
not missing but refused.  The condition comes to no error exactly if it lacks neither, has no
attribute that its rule is about but messages that are not empty, no child is the extension's or the
host's, and nothing that is handed over is answered with an error after the policy.  Its rows are
then those of the answers, to attributes and then to children, and one row with its expression and
its message.
-/
theorem judgeElement_condition
    (host : parent.localName = "Bundle" ∨ parent.localName = "Fragment")
    (named : element.localName = "Condition") :
    let outcome := (session.judgeElement parent element).1
    let answered := ((session.delegated element).flatMap Outcome.diagnostics).filterMap
      session.policy.apply
    (∃ own, own.Sublist outcome.diagnostics ∧ outcome.diagnostics.Perm (own ++ answered) ∧
      own.filter (·.code ∈ [some "B-2-1", some "B-2-2"]) =
        (if Text.allBlank element.innerText.toList then [Message.expectedCondition element]
          else []) ++
        (if (element.given? "Message").isSome then []
          else [Message.expectedAttribute element "Message"]) ∧
      ∀ attr ∈ element.ruledAttributes, attr.name.localName = "Message" → attr.value = "" →
        Message.illegalEmptyValue element attr ∈ own) ∧
    (outcome.hasErrors = false ↔
      Text.allBlank element.innerText.toList = false ∧
      (element.given? "Message").isSome = true ∧
      (∀ attr ∈ element.ruledAttributes, attr.name.localName = "Message" ∧ attr.value ≠ "") ∧
      (∀ child ∈ element.childElements,
        child.name.namespaceUri ∉ ["", ownNamespace, hostNamespace]) ∧
      ∀ result ∈ session.delegated element,
        (result.applyPolicy session.policy).hasErrors = false) ∧
    (outcome.hasErrors = false → ∃ expression message,
      LaunchCondition.expression? element = some expression ∧
      element.given? "Message" = some message ∧
      outcome.rows =
        (session.attributeAnswers element).1.flatMap Outcome.rows ++
          (session.childAnswers element).1.flatMap Outcome.rows ++
          [.ofTexts .condition [expression, message] element.span]) := by
  intro outcome answered
  have routed : ElementKind.route? parent.localName element.localName = some .condition := by
    rcases host with host | host <;> rw [host, named] <;> rfl
  have accepted := (session.hasErrors_judgeElement routed).trans
    (and_congr_left' LaunchCondition.reports_eq_nil)
  refine ⟨⟨_, session.sublist_diagnostics_judgeElement routed,
    session.perm_diagnostics_judgeElement routed, LaunchCondition.filter_code_reports,
    fun _ => LaunchCondition.illegalEmptyValue_mem_reports⟩, ?_, fun errorless => ?_⟩
  · rw [accepted]
    tauto
  · obtain ⟨⟨legal, _, filled, present⟩, _⟩ := accepted.mp errorless
    obtain ⟨message, given⟩ := Option.isSome_iff_exists.mp present
    have left : LaunchCondition.expression? element ≠ none := by
      rw [Ne, LaunchCondition.expression?_eq_none, filled]
      exact Bool.false_ne_true
    obtain ⟨expression, found⟩ := Option.ne_none_iff_exists'.mp left
    refine ⟨expression, message, found, given, ?_⟩
    rw [session.rows_judgeElement routed errorless, delegated_eq, List.flatMap_append]
    exact congrArg (_ ++ ·) (LaunchCondition.rows_valuesOf legal found given)

/-- Of two messages the first counts, a note is taken down before a thing, and an empty condition
lacks both its expression and its message. -/
theorem judgeElement_condition_noted :
    let attr (uri : Option String) (value : String) : Attribute :=
      ⟨⟨uri, "Message", none⟩, default, value, default⟩
    let bundle := bareElement hostNamespace "Bundle"
    let lacking := bareElement ownNamespace "Condition"
    let whole := { lacking with
      attributes := [attr none "m", ownerNote, attr (some ownNamespace) "n"]
      children := .mixed [.text " A\n" default, .element (bareElement "urn:notes" "Thing"),
        .text "B " default] }
    let keeper : Extension Unit := { noteTaker with
      onElement := fun state _ element =>
        (.ofRows [.linkVariable element.localName "" element.span], state) }
    let session : Session Unit := .start {} ⟨[⟨keeper, ()⟩]⟩
    let outcome (element : Element) := (session.judgeElement bundle element).1
    (bundle.localName = "Bundle" ∨ bundle.localName = "Fragment") ∧
      lacking.localName = "Condition" ∧
      (outcome whole).hasErrors = false ∧
      (outcome whole).rows = [.linkVariable "Owner" "me" default,
        .linkVariable "Thing" "" default, .ofTexts .condition ["A B", "m"] default] ∧
      (outcome lacking).hasErrors = true ∧
      ∃ own, (outcome lacking).diagnostics.Perm own ∧
        own.filter (·.code ∈ [some "B-2-1", some "B-2-2"]) =
          [Message.expectedCondition lacking, Message.expectedAttribute lacking "Message"] := by
  intro attr bundle lacking whole keeper session outcome
  have host : bundle.localName = "Bundle" ∨ bundle.localName = "Fragment" := .inl rfl
  have named : lacking.localName = "Condition" := rfl
  obtain ⟨_, accepted, rows⟩ := session.judgeElement_condition host
    (show whole.localName = "Condition" from named)
  obtain ⟨⟨own, _, split, demands, _⟩, refused, _⟩ := session.judgeElement_condition host named
  have errorless : (outcome whole).hasErrors = false := by
    refine accepted.mpr ⟨by decide +kernel, by decide +kernel, by decide +kernel,
      by decide +kernel, ?_⟩
    decide +kernel
  refine ⟨host, named, errorless, ?_, ?_, own, ?_, demands⟩
  · obtain ⟨expression, message, found, given, kept⟩ := rows errorless
    have same : LaunchCondition.expression? whole = some "A B" := by decide +kernel
    obtain rfl := Option.some.inj (found.symm.trans same)
    obtain rfl := Option.some.inj (given.symm.trans (show whole.given? "Message" = some "m" by
      decide +kernel))
    rw [kept]
    decide +kernel
  · rw [← Bool.not_eq_false]
    intro wrong
    exact Bool.false_ne_true ((refused.mp wrong).1.symm.trans (by decide +kernel))
  · have silent : session.delegated lacking = [] := by decide +kernel
    rw [silent] at split
    simpa using split

end Session
end BundleMarkup
