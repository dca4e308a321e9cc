import BundleMarkup.Proofs.Judging.Bare
import BundleMarkup.Proofs.Judging.Lookup
import BundleMarkup.Proofs.Judging.Rewriting

/-!
# Reordering attributes

The order of attributes is no matter of what they say.  Attributes of different local names are read
by name, so what is demanded of an element beyond its attributes and the rows that it gives stay the
same in every order, and what is reported of the attributes themselves is reported in theirs.
-/

namespace BundleMarkup

variable {σ : Type}

namespace CollectedAttributes

variable {values values' : CollectedAttributes} (same : values.entry? = values'.entry?)

include same

theorem get?_congr : values.get? = values'.get? := by
  funext name
  rw [get?, get?, same]

theorem source?_congr : values.source? = values'.source? := by
  funext name
  rw [source?, source?, same]

end CollectedAttributes

section

variable {element : Element} {attributes : List Attribute}

namespace ElementRule

variable (rule : ElementRule)

/-- What is recorded under a name does not depend on the order of the attributes. -/
theorem entry?_valuesOf_reordered (reordered : element.attributes.Perm attributes)
    (apart : (element.ruledAttributes.map (·.name.localName)).Nodup) :
    CollectedAttributes.entry? (rule.valuesOf { element with attributes }) =
      CollectedAttributes.entry? (rule.valuesOf element) := by
  funext name
  have recorded : rule.entry? { element with attributes } = rule.entry? element := by
    funext attr
    unfold entry?
    simp only [ValueKind.read_congr (element.alike_of_attributes attributes)]
  have found : element.ruledAttributes.find? (·.name.localName == name) =
      ({ element with attributes } : Element).ruledAttributes.find? (·.name.localName == name) := by
    refine Lookup.find?_eq_of_perm (reordered.filter _) fun first left second right one two => ?_
    exact List.inj_on_of_nodup_map apart left right ((eq_of_beq one).trans (eq_of_beq two).symm)
  rw [entry?_valuesOf, entry?_valuesOf, recorded, found]

theorem conflicts_reordered {values values' : CollectedAttributes}
    (same : values'.entry? = values.entry?) :
    rule.conflicts { element with attributes } values' = rule.conflicts element values := by
  have conflict (group : List String) :
      conflict? { element with attributes } values' group = conflict? element values group := by
    rw [conflict?, conflict?, CollectedAttributes.source?_congr same]
    rfl
  rw [conflicts, conflicts, funext conflict]

theorem diagnostic_attributePlan_reordered (attr : Attribute) :
    (rule.attributePlan { element with attributes } attr).map Step.diagnostic =
      (rule.attributePlan element attr).map Step.diagnostic := by
  simp only [attributePlan, ValueKind.read_congr (element.alike_of_attributes attributes)]
  repeat' split
  all_goals rfl

/-- A rule reports the same on reordered attributes, on each attribute in its place. -/
theorem diagnostics_plan_reordered (reordered : element.attributes.Perm attributes)
    (apart : (element.ruledAttributes.map (·.name.localName)).Nodup) :
    ((rule.plan { element with attributes }).map Step.diagnostic).Perm
      ((rule.plan element).map Step.diagnostic) := by
  have same := rule.entry?_valuesOf_reordered reordered apart
  have given := CollectedAttributes.get?_congr same
  have missing := rule.missing_congr (element.alike_of_attributes attributes) given
  simp only [plan, missing, conflicts_reordered rule same, List.map_append, List.map_flatMap,
    diagnostic_attributePlan_reordered]
  exact (reordered.symm.flatMap_right _).append_right _

end ElementRule

theorem Validator.diagnostic_childStep_reordered (child : Element) :
    (childStep { element with attributes } child).diagnostic =
      (childStep element child).diagnostic := by
  unfold childStep
  split <;> rfl

section

variable (kind : ElementKind) (reordered : element.attributes.Perm attributes)
  (apart : (element.ruledAttributes.map (·.name.localName)).Nodup)

include reordered apart

namespace Validator

/-- An element gives the same rows in every order of its attributes. -/
theorem ownRows_reordered :
    kind.validator.ownRows { element with attributes } = kind.validator.ownRows element :=
  rows_congr (element.alike_of_attributes attributes) (CollectedAttributes.get?_congr
    (kind.validator.rule.entry?_valuesOf_reordered reordered apart)) kind

theorem diagnostics_plan_reordered :
    ((kind.validator.plan { element with attributes }).map Step.diagnostic).Perm
      ((kind.validator.plan element).map Step.diagnostic) := by
  have alike := element.alike_of_attributes attributes
  have given := CollectedAttributes.get?_congr
    (kind.validator.rule.entry?_valuesOf_reordered reordered apart)
  have rule := kind.validator.rule.diagnostics_plan_reordered reordered apart
  have children : ((element.childElements.map (childStep { element with attributes })).map
      Step.diagnostic) = (element.childElements.map (childStep element)).map Step.diagnostic := by
    simp only [List.map_map, Function.comp_def, diagnostic_childStep_reordered]
  simp only [plan, beforeChildren_congr alike given, afterChildren_congr alike given,
    List.map_append]
  exact ((rule.append_right _).append (.of_eq children)).append_right _

end Validator
end
end

theorem HostAttributeKind.eq_of_named? {name : String} {kind : HostAttributeKind}
    (found : named? name = some kind) : name = kind.localName := by
  unfold named? at found
  split at found
  · obtain rfl := Option.some.inj found
    rfl
  · cases found

namespace HostAttributes

variable {parent : Element} {attributes attributes' : List Attribute}
  (reordered : attributes.Perm attributes')

include reordered

theorem problems_reordered : (problems parent attributes').Perm (problems parent attributes) := by
  unfold problems
  split
  · exact reordered.symm.filterMap _
  · exact reordered.symm.map _

/-- The last answer is the only one, wherever it stands. -/
theorem isOverridable_reordered (apart : (attributes.map (·.name.localName)).Nodup) :
    isOverridable parent attributes' = isOverridable parent attributes := by
  have answer : attributes.reverse.find? (fun attr =>
        HostAttributeKind.named? attr.name.localName = some .overridable) =
      attributes'.reverse.find? fun attr =>
        HostAttributeKind.named? attr.name.localName = some .overridable := by
    refine Lookup.find?_eq_of_perm ?_ fun first left second right one two => ?_
    · exact attributes.reverse_perm.trans (reordered.trans attributes'.reverse_perm.symm)
    · have one := HostAttributeKind.eq_of_named? (of_decide_eq_true one)
      have two := HostAttributeKind.eq_of_named? (of_decide_eq_true two)
      exact List.inj_on_of_nodup_map apart (List.mem_reverse.mp left) (List.mem_reverse.mp right)
        (one.trans two.symm)
  rw [isOverridable, isOverridable, List.getLast?_filter, List.getLast?_filter, answer]

theorem ownRows_reordered (apart : (attributes.map (·.name.localName)).Nodup) :
    ownRows parent attributes' = ownRows parent attributes := by
  rw [ownRows, ownRows, rows_eq, rows_eq, isOverridable_reordered reordered apart]

end HostAttributes

namespace Outcome

/-- The same rows, and the same diagnostics in some order. -/
structure IsReordering (left right : Outcome) : Prop where
  rows : left.rows = right.rows
  diagnostics : left.diagnostics.Perm right.diagnostics

/-- Whether there is an error among diagnostics is no matter of their order. -/
theorem IsReordering.of_perm {diagnostics diagnostics' : List Diagnostic}
    (reordered : diagnostics.Perm diagnostics') (rows : List Row) :
    (of diagnostics rows).IsReordering (of diagnostics' rows) := by
  refine ⟨?_, reordered⟩
  rw [rows_of, rows_of, Diagnostic.anyError, Diagnostic.anyError, reordered.any_eq]

theorem IsReordering.settle (policy : WarningPolicy) {diagnostics diagnostics' : List Diagnostic}
    (reordered : diagnostics.Perm diagnostics') (own : List Row) :
    (settle policy (diagnostics.map ofDiagnostic) own).IsReordering
      (.settle policy (diagnostics'.map ofDiagnostic) own) := by
  rw [settle_map_ofDiagnostic, settle_map_ofDiagnostic]
  exact .of_perm (reordered.filterMap _) own

end Outcome

namespace Session

theorem remember_congr (session : Session σ) (kind : ElementKind) {element element' : Element}
    {outcome outcome' : Outcome} (span : element.span = element'.span)
    (rows : outcome.rows = outcome'.rows) :
    session.remember kind element outcome = session.remember kind element' outcome' := by
  rw [remember, remember, span, rows]

/-- An element of the extension comes to the same in every order of its attributes. -/
theorem judgeElement_reordered {session : Session σ} (bare : session.extensions = .empty)
    {parent element : Element} {attributes : List Attribute}
    (reordered : element.attributes.Perm attributes)
    (apart : (element.ruledAttributes.map (·.name.localName)).Nodup) :
    let kept := session.judgeElement parent element
    let moved := session.judgeElement parent { element with attributes }
    moved.1.IsReordering kept.1 ∧ moved.2 = kept.2 := by
  intro kept moved
  let other : Element := { element with attributes }
  cases routed : ElementKind.route? parent.localName element.localName with
  | none =>
      have unrouted : ElementKind.route? parent.localName other.localName = none := routed
      have stays : kept = _ := session.judgeElement_of_route?_eq_none routed
      have moves : moved = _ := session.judgeElement_of_route?_eq_none unrouted
      rw [stays, moves]
      exact ⟨⟨rfl, .refl _⟩, rfl⟩
  | some kind =>
      have allowed : ElementKind.route? parent.localName other.localName = some kind := routed
      have stays : kept = _ := session.judgeElement_of_route?_eq_some routed
      have moves : moved = _ := session.judgeElement_of_route?_eq_some allowed
      have outcome := Outcome.IsReordering.settle session.policy
        (Validator.diagnostics_plan_reordered kind reordered apart)
        (kind.validator.ownRows element)
      rw [stays, moves, Validator.ownRows_reordered kind reordered apart, bare,
        Extensions.performAll_empty, Extensions.performAll_empty]
      exact ⟨outcome, remember_congr _ kind rfl outcome.rows⟩

/--
Without other extensions the order of attributes of different local names is insignificant.  An
element of the extension gives the same rows in every order of its attributes, the same diagnostics
in some order, and leaves the session alike; and so do the extension's attributes on a host element.
-/
theorem judge_reordered (session : Session σ) (bare : session.extensions = .empty) :
    (∀ parent element attributes, element.attributes.Perm attributes →
      (element.ruledAttributes.map (·.name.localName)).Nodup →
      let kept := session.judgeElement parent element
      let moved := session.judgeElement parent { element with attributes }
      moved.1.rows = kept.1.rows ∧ moved.1.diagnostics.Perm kept.1.diagnostics ∧
        moved.2 = kept.2) ∧
    ∀ parent attributes attributes', attributes.Perm attributes' →
      (attributes.map (·.name.localName)).Nodup →
      let kept := session.judgeAttributes parent attributes
      let moved := session.judgeAttributes parent attributes'
      moved.1.rows = kept.1.rows ∧ moved.1.diagnostics.Perm kept.1.diagnostics ∧
        moved.2 = kept.2 := by
  constructor
  · intro parent element attributes reordered apart kept moved
    obtain ⟨⟨rows, diagnostics⟩, left⟩ := judgeElement_reordered bare reordered apart
    exact ⟨rows, diagnostics, left⟩
  · intro parent attributes attributes' reordered apart kept moved
    have outcome : moved.1.IsReordering kept.1 := by
      simp only [kept, moved, judgeAttributes, HostAttributes.judge_eq,
        HostAttributes.ownRows_reordered reordered apart]
      exact .settle _ (HostAttributes.problems_reordered reordered) _
    exact ⟨outcome.rows, outcome.diagnostics, rfl⟩

/-- A logo, a note and a license in both orders, and mistakes on a host variable in both orders. -/
theorem judge_reordered_licensed :
    let session : Session Unit := .start {} .empty
    let attr (localName value : String) : Attribute :=
      ⟨⟨none, localName, none⟩, default, value, default⟩
    let logo := attr "LogoFile" "logo.png"
    let license := attr "LicenseUrl" "https://license"
    let parent := bareElement hostNamespace "BootstrapperApplicationRef"
    let element := { bareElement ownNamespace "WixManagedBootstrapperApplicationHost" with
      attributes := [logo, ownerNote, license] }
    let kept := session.judgeElement parent element
    let moved := session.judgeElement parent
      { element with attributes := [license, ownerNote, logo] }
    let host := { bareElement hostNamespace "Variable" with attributes := [attr "Name" "V"] }
    let answer := attr "Overridable" "perhaps"
    let other := attr "Other" ""
    session.extensions = .empty ∧
      moved.1.rows.map Row.fields =
        [[some (.text "WixMbaPrereqLicenseUrl"), some (.text "https://license")],
          [some (.text "PreqbaLogo"), some (.text "logo.png")]] ∧
      moved.1.diagnostics.Perm kept.1.diagnostics ∧
      (session.judgeAttributes host [answer, other]).1.diagnostics.map Diagnostic.code =
        [some "B-3-2", some "B-1-2"] ∧
      (session.judgeAttributes host [other, answer]).1.diagnostics.Perm
        (session.judgeAttributes host [answer, other]).1.diagnostics := by
  intro session attr logo license parent element kept moved host answer other
  obtain ⟨own, onHost⟩ := judge_reordered session rfl
  obtain ⟨rows, diagnostics, _⟩ := own parent element [license, ownerNote, logo]
    (by decide +kernel) (by decide +kernel)
  obtain ⟨_, mistakes, _⟩ := onHost host [answer, other] [other, answer]
    (by decide +kernel) (by decide +kernel)
  refine ⟨rfl, (congrArg _ rows).trans ?_, diagnostics, ?_, mistakes⟩
  · decide +kernel
  · decide +kernel

end Session
end BundleMarkup
