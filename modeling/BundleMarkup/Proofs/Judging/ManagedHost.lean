import BundleMarkup.Proofs.Judging.Acceptance

/-!
# Managed hosts

A managed host is accepted if its attributes are known and not empty, if one of its license file and
its license link is given, and if nothing but foreign markup is inside it and that is answered
without an error.  The demand for one license is about values that can be used: what is present but
empty counts as absent, and whatever else is wrong has no say in it.
-/

namespace BundleMarkup
namespace ManagedHost

/-- The attributes of a managed host. -/
def names : List String :=
  ["LicenseFile", "LicenseUrl", "LogoFile", "ThemeFile", "LocalizationFile", "NetFxPackageId"]

theorem find?_rule : ∀ name ∈ names, rule.find? name = some { name, kind := .nonEmptyText } := by
  decide

theorem allows_iff {name value : String} : rule.Allows name value ↔ name ∈ names ∧ value ≠ "" := by
  constructor
  · rintro ⟨attrRule, known, allowed⟩
    obtain rfl := ElementRule.name_of_find? known
    have listed : ∀ attrRule ∈ rule.attributes,
        attrRule.kind = .nonEmptyText ∧ attrRule.name ∈ names := by decide
    obtain ⟨kind, named⟩ := listed attrRule (List.mem_of_find?_eq_some known)
    rw [kind] at allowed
    exact ⟨named, allowed⟩
  · rintro ⟨named, filled⟩
    exact ⟨_, find?_rule name named, filled⟩

variable {element : Element}

/-- Whether the first attribute of a name has a value that can be used. -/
def isUsable (element : Element) (name : String) : Bool := (element.given? name).any (· ≠ "")

theorem licenseProblem_valuesOf :
    licenseProblem element (rule.valuesOf element) =
      if isUsable element "LicenseFile" = isUsable element "LicenseUrl" then
        [Message.expectedExactlyOne element "LicenseFile" "LicenseUrl"]
      else
        [] := by
  have file := ElementRule.isNullOrEmpty_valuesOf element
    (find?_rule "LicenseFile" (by decide)) rfl
  have url := ElementRule.isNullOrEmpty_valuesOf element
    (find?_rule "LicenseUrl" (by decide)) rfl
  rw [licenseProblem, file, url, isUsable, isUsable]
  simp only [Bool.not_inj_iff]

theorem missing_eq_nil (values : CollectedAttributes) : rule.missing element values = [] :=
  ElementRule.missing_eq_nil element (by decide) values

theorem reports_eq_nil :
    validator.reports element = [] ↔
      (∀ attr ∈ element.ruledAttributes, attr.name.localName ∈ names ∧ attr.value ≠ "") ∧
      (∀ child ∈ element.childElements,
        child.name.namespaceUri ∉ ["", ownNamespace, hostNamespace]) ∧
      (element.given? "LicenseFile").isSome ≠ (element.given? "LicenseUrl").isSome := by
  simp only [← allows_iff]
  refine Validator.reports_eq_nil.trans (and_congr_right fun legal => and_congr_right fun _ => ?_)
  have file := ElementRule.any_given? legal (find?_rule "LicenseFile" (by decide)) rfl
  have url := ElementRule.any_given? legal (find?_rule "LicenseUrl" (by decide)) rfl
  show rule.missing element (rule.valuesOf element) = [] ∧ [] = [] ∧ [] = [] ∧
    licenseProblem element (rule.valuesOf element) = [] ↔ _
  rw [missing_eq_nil, licenseProblem_valuesOf, isUsable, isUsable, file, url]
  simp

/-- Under the code of the demand for one license nothing else is reported. -/
theorem filter_code_reports :
    (validator.reports element).filter (·.code == some "B-2-4") =
      if isUsable element "LicenseFile" = isUsable element "LicenseUrl" then
        [Message.expectedExactlyOne element "LicenseFile" "LicenseUrl"]
      else
        [] := by
  rw [Validator.filter_code_reports validator element (· == some "B-2-4") (by decide)]
  show (rule.missing element (rule.valuesOf element) ++ [] ++ [] ++
    licenseProblem element (rule.valuesOf element)).filter _ = _
  rw [missing_eq_nil, licenseProblem_valuesOf]
  split <;> rfl

end ManagedHost

namespace Session

variable {σ : Type}

/--
A managed host comes to no error exactly if all attributes that its rule is about are known and not
empty, one license is given, no child is the extension's or the host's, and nothing that is handed
over is answered with an error after the policy.  Its rows are then those of the answers and a
variable of the linker for each attribute.  However it is judged, one report asks for exactly one
license if both or none can be used, and no other report of its validator has that code.
-/
theorem judgeElement_managedHost (session : Session σ) {parent element : Element}
    (host : parent.localName = "BootstrapperApplicationRef")
    (named : element.localName = "WixManagedBootstrapperApplicationHost") :
    let outcome := (session.judgeElement parent element).1
    let answered := ((session.delegated element).flatMap Outcome.diagnostics).filterMap
      session.policy.apply
    (outcome.hasErrors = false ↔
      (∀ attr ∈ element.ruledAttributes,
        attr.name.localName ∈ ManagedHost.names ∧ attr.value ≠ "") ∧
      (element.given? "LicenseFile").isSome ≠ (element.given? "LicenseUrl").isSome ∧
      (∀ child ∈ element.childElements,
        child.name.namespaceUri ∉ ["", ownNamespace, hostNamespace]) ∧
      ∀ result ∈ session.delegated element,
        (result.applyPolicy session.policy).hasErrors = false) ∧
    (outcome.hasErrors = false → outcome.rows =
      (session.delegated element).flatMap Outcome.rows ++
        [("LicenseFile", "WixMbaPrereqLicenseRtf"), ("LicenseUrl", "WixMbaPrereqLicenseUrl"),
          ("LogoFile", "PreqbaLogo"), ("ThemeFile", "PreqbaThemeXml"),
          ("LocalizationFile", "PreqbaThemeWxl"),
          ("NetFxPackageId", "WixMbaPrereqPackageId")].filterMap fun (name, id) =>
            (element.given? name).map fun value => .linkVariable id value element.span) ∧
    ∃ own, outcome.diagnostics.Perm (own ++ answered) ∧
      own.filter (·.code == some "B-2-4") =
        if ManagedHost.isUsable element "LicenseFile" =
            ManagedHost.isUsable element "LicenseUrl" then
          [Message.expectedExactlyOne element "LicenseFile" "LicenseUrl"]
        else
          [] := by
  intro outcome answered
  have routed : ElementKind.route? parent.localName element.localName = some .managedHost := by
    rw [host, named]
    rfl
  have accepted := (session.hasErrors_judgeElement routed).trans
    (and_congr_left' ManagedHost.reports_eq_nil)
  refine ⟨?_, fun errorless => ?_, ?_⟩
  · rw [accepted]
    tauto
  · have legal := (accepted.mp errorless).1.1
    simp only [← ManagedHost.allows_iff] at legal
    rw [session.rows_judgeElement routed errorless]
    exact congrArg (_ ++ ·) (ElementRule.rows_linkFillings_valuesOf legal (by decide) _)
  · have split := session.perm_diagnostics_judgeElement routed
    exact ⟨_, split, ManagedHost.filter_code_reports⟩

/-- A link is a license; of two files the first counts, and it cannot be used if it is empty. -/
theorem judgeElement_managedHost_twoFiles :
    let attr (uri : Option String) (localName value : String) : Attribute :=
      ⟨⟨uri, localName, none⟩, default, value, default⟩
    let parent := bareElement hostNamespace "BootstrapperApplicationRef"
    let bare := bareElement ownNamespace "WixManagedBootstrapperApplicationHost"
    let linked := { bare with
      attributes := [attr none "NetFxPackageId" "n", ownerNote,
        attr (some ownNamespace) "LicenseUrl" "u"] }
    let filed := { bare with
      attributes := [attr none "LicenseFile" "", attr (some ownNamespace) "LicenseFile" "f"] }
    let session : Session Unit := .start {} ⟨[⟨noteTaker, ()⟩]⟩
    let outcome (element : Element) := (session.judgeElement parent element).1
    parent.localName = "BootstrapperApplicationRef" ∧
      bare.localName = "WixManagedBootstrapperApplicationHost" ∧
      (outcome linked).hasErrors = false ∧
      (outcome linked).rows = [.linkVariable "Owner" "me" default,
        .linkVariable "WixMbaPrereqLicenseUrl" "u" default,
        .linkVariable "WixMbaPrereqPackageId" "n" default] ∧
      (outcome filed).hasErrors = true ∧
      ∃ own, (outcome filed).diagnostics.Perm own ∧
        own.filter (·.code == some "B-2-4") =
          [Message.expectedExactlyOne filed "LicenseFile" "LicenseUrl"] := by
  intro attr parent bare linked filed session outcome
  have host : parent.localName = "BootstrapperApplicationRef" := rfl
  have named : bare.localName = "WixManagedBootstrapperApplicationHost" := rfl
  obtain ⟨accepted, rows, _⟩ := session.judgeElement_managedHost host
    (show linked.localName = "WixManagedBootstrapperApplicationHost" from named)
  obtain ⟨refused, _, own, split, license⟩ := session.judgeElement_managedHost host
    (show filed.localName = "WixManagedBootstrapperApplicationHost" from named)
  have answers : session.delegated linked = [.ofRows [.linkVariable "Owner" "me" default]] := by
    decide +kernel
  have errorless : (outcome linked).hasErrors = false := by
    refine accepted.mpr ⟨by decide +kernel, by decide +kernel, nofun, ?_⟩
    rw [answers]
    decide +kernel
  refine ⟨host, named, errorless, ?_, ?_, own, ?_, ?_⟩
  · rw [rows errorless, answers]
    decide +kernel
  · rw [← Bool.not_eq_false]
    intro wrong
    have filled := (refused.mp wrong).1 (attr none "LicenseFile" "") (by decide +kernel)
    exact filled.2 rfl
  · have silent : session.delegated filed = [] := by decide +kernel
    rw [silent] at split
    simpa using split
  · rw [license]
    decide +kernel

end Session
end BundleMarkup
