import BundleMarkup.Proofs.Judging.Acceptance

/-!
# Standard user interfaces

A standard user interface is accepted if its attributes are known and legal, if it has a license
file or a license link, even an empty one, but not both, and if nothing but foreign markup is inside
it and that is answered without an error.  Its rows follow from its attributes, of which the first
of each name counts.
-/

namespace BundleMarkup
namespace StandardUi

/-- The attributes that are texts and not empty. -/
def textNames : List String :=
  ["LaunchTarget", "LicenseFile", "LogoFile", "LogoSideFile", "ThemeFile", "LocalizationFile"]

/-- Attributes of the standard user interface with legal values. -/
inductive Takes : String → String → Prop
  | text {name value : String} (named : name ∈ textNames) (filled : value ≠ "") : Takes name value
  /-- A link may be empty. -/
  | link (value : String) : Takes "LicenseUrl" value
  | flag {name value : String} (named : name ∈ Table.uiOptions.columns)
      (answers : value.toLower = "yes" ∨ value.toLower = "no") : Takes name value

theorem find?_of_mem_textNames :
    ∀ name ∈ textNames, rule.find? name = some { name, kind := .nonEmptyText } := by
  decide

theorem find?_of_mem_columns :
    ∀ name ∈ Table.uiOptions.columns, rule.find? name = some { name, kind := .yesNo } := by
  decide

theorem takes_iff_allows {name value : String} : Takes name value ↔ rule.Allows name value := by
  constructor
  · rintro (⟨named, filled⟩ | _ | ⟨named, answers⟩)
    · exact ⟨_, find?_of_mem_textNames name named, filled⟩
    · exact ⟨{ name := "LicenseUrl", kind := .text }, rfl, trivial⟩
    · exact ⟨_, find?_of_mem_columns name named, answers⟩
  · rintro ⟨attrRule, known, allowed⟩
    obtain rfl := ElementRule.name_of_find? known
    have listed : ∀ attrRule ∈ rule.attributes,
        attrRule.kind = .nonEmptyText ∧ attrRule.name ∈ textNames ∨
        attrRule.kind = .text ∧ attrRule.name = "LicenseUrl" ∨
        attrRule.kind = .yesNo ∧ attrRule.name ∈ Table.uiOptions.columns := by decide
    rcases listed attrRule (List.mem_of_find?_eq_some known) with
      ⟨kind, named⟩ | ⟨_, named⟩ | ⟨kind, named⟩
    · rw [kind] at allowed
      exact .text named allowed
    · rw [named]
      exact .link value
    · rw [kind] at allowed
      exact .flag named allowed

variable {element : Element}

theorem conflicts_eq_nil (element : Element) (values : CollectedAttributes) :
    rule.conflicts element values = [] ↔
      ¬(values.isPresent "LicenseFile" = true ∧ values.isPresent "LicenseUrl" = true) := by
  have group : rule.exclusive = [["LicenseFile", "LicenseUrl"]] := rfl
  rw [ElementRule.conflicts, group]
  unfold ElementRule.conflict? CollectedAttributes.isPresent CollectedAttributes.get?
    CollectedAttributes.source?
  cases file : values.entry? "LicenseFile" <;> cases url : values.entry? "LicenseUrl" <;>
    simp [file, url]

/-- A validator has nothing to report of a standard user interface with one license. -/
theorem reports_eq_nil :
    validator.reports element = [] ↔
      (∀ attr ∈ element.ruledAttributes, Takes attr.name.localName attr.value) ∧
      (∀ child ∈ element.childElements,
        child.name.namespaceUri ∉ ["", ownNamespace, hostNamespace]) ∧
      (element.given? "LicenseFile").isSome ≠ (element.given? "LicenseUrl").isSome := by
  have optional : ∀ attrRule ∈ rule.attributes, attrRule.requirement = .optional := by decide
  have file := find?_of_mem_textNames "LicenseFile" (by decide)
  have url : rule.find? "LicenseUrl" = some ⟨"LicenseUrl", .text, .optional⟩ := rfl
  simp only [takes_iff_allows]
  refine Validator.reports_eq_nil.trans (and_congr_right fun legal => and_congr_right fun _ => ?_)
  have empty := ElementRule.isNullOrEmpty_valuesOf element file rfl
  rw [ElementRule.any_given? legal file rfl] at empty
  have missing : missingLicense element (rule.valuesOf element) = [] ↔
      ((element.given? "LicenseFile").isSome = true ∨
        (element.given? "LicenseUrl").isSome = true) := by
    rw [missingLicense, empty, ElementRule.isPresent_valuesOf element url]
    cases (element.given? "LicenseFile").isSome <;>
      cases (element.given? "LicenseUrl").isSome <;> simp
  have both := conflicts_eq_nil element (rule.valuesOf element)
  rw [ElementRule.isPresent_valuesOf element file, ElementRule.isPresent_valuesOf element url]
    at both
  show rule.missing element (rule.valuesOf element) = [] ∧
    rule.conflicts element (rule.valuesOf element) = [] ∧ [] = [] ∧
      missingLicense element (rule.valuesOf element) = [] ↔ _
  rw [both, missing, ElementRule.missing_eq_nil element optional]
  cases (element.given? "LicenseFile").isSome <;>
    cases (element.given? "LicenseUrl").isSome <;> simp

/-- The row of the columns whose attributes say yes, if there are any. -/
def flagRow (given : String → Option String) (place : SourceSpan) : List Row :=
  let isYes (name : String) : Bool := (given name).any (·.toLower = "yes")
  let columns := Table.uiOptions.columns
  if columns.any isYes then
    [⟨.uiOptions, columns.map fun name => if isYes name then some (.integer 1) else none, place⟩]
  else
    []

/-- The rows of a standard user interface with the values that are given for its attributes. -/
def projection (given : String → Option String) (place : SourceSpan) : List Row :=
  ((given "LaunchTarget").toList.map fun target =>
    .ofTexts .bundleVariable ["LaunchTarget", target, "string"] place) ++
  ([("LicenseFile", "WixStdbaLicenseRtf"), ("LicenseUrl", "WixStdbaLicenseUrl"),
    ("LogoFile", "WixStdbaLogo"), ("LogoSideFile", "WixStdbaLogoSide"),
    ("ThemeFile", "WixStdbaThemeXml"), ("LocalizationFile", "WixStdbaThemeWxl")].filterMap
      fun (name, id) => (given name).map fun value => .linkVariable id value place) ++
  flagRow given place

theorem rows_optionsFillings_valuesOf :
    Filling.rows (optionsFillings (rule.valuesOf element)) element.span =
      flagRow element.given? element.span := by
  let values := rule.valuesOf element
  let isYes (name : String) : Bool := (element.given? name).any (·.toLower = "yes")
  have agree : ∀ name ∈ flags, values.yesNo name = .yes ↔ isYes name = true :=
    fun name among => ElementRule.yesNo_valuesOf element (find?_of_mem_columns name among) rfl
  have any : flags.any (fun name => values.yesNo name = .yes) = flags.any isYes := by
    rw [Bool.eq_iff_iff, List.any_eq_true, List.any_eq_true]
    exact exists_congr fun name => and_congr_right fun among => by simp [agree name among]
  have fields : flags.map (fun name => if values.yesNo name = .yes then
      some (FieldValue.integer 1) else none) =
      flags.map fun name => if isYes name then some (FieldValue.integer 1) else none :=
    List.map_congr_left fun name among => by simp only [agree name among]
  rw [rows_optionsFillings, any, fields]
  rfl

theorem rows_valuesOf
    (legal : ∀ attr ∈ element.ruledAttributes, Takes attr.name.localName attr.value) :
    validator.rows element (rule.valuesOf element) =
      projection element.given? element.span := by
  simp only [takes_iff_allows] at legal
  have target := find?_of_mem_textNames "LaunchTarget" (by decide)
  have launch : (rule.valuesOf element).text? "LaunchTarget" = element.given? "LaunchTarget" :=
    ElementRule.text?_valuesOf legal target nofun
  change Filling.rows (fillings (rule.valuesOf element)) element.span = _
  rw [fillings, Filling.rows_append, Filling.rows_append, rows_launchFillings, launch,
    ElementRule.rows_linkFillings_valuesOf legal (by decide), rows_optionsFillings_valuesOf]
  rfl

end StandardUi

namespace Session

variable {σ : Type}

/--
A standard user interface comes to no error exactly if all attributes that its rule is about are
legal, one license is given, no child is the extension's or the host's, and nothing that is handed
over is answered with an error after the policy.  Its rows are then those of the answers and those
that its attributes are projected to.
-/
theorem judgeElement_standardUi (session : Session σ) {parent element : Element}
    (host : parent.localName = "BootstrapperApplicationRef")
    (named : element.localName = "WixStandardBootstrapperApplication") :
    let outcome := (session.judgeElement parent element).1
    (outcome.hasErrors = false ↔
      (∀ attr ∈ element.ruledAttributes, StandardUi.Takes attr.name.localName attr.value) ∧
      (element.given? "LicenseFile").isSome ≠ (element.given? "LicenseUrl").isSome ∧
      (∀ child ∈ element.childElements,
        child.name.namespaceUri ∉ ["", ownNamespace, hostNamespace]) ∧
      ∀ result ∈ session.delegated element,
        (result.applyPolicy session.policy).hasErrors = false) ∧
    (outcome.hasErrors = false → outcome.rows =
      (session.delegated element).flatMap Outcome.rows ++
        StandardUi.projection element.given? element.span) := by
  intro outcome
  have routed : ElementKind.route? parent.localName element.localName = some .standardUi := by
    rw [host, named]
    rfl
  have accepted := (session.hasErrors_judgeElement routed).trans
    (and_congr_left' StandardUi.reports_eq_nil)
  constructor
  · rw [accepted]
    tauto
  · intro errorless
    rw [session.rows_judgeElement routed errorless]
    exact congrArg (_ ++ ·) (StandardUi.rows_valuesOf (accepted.mp errorless).1.1)

/-- The first of two flags counts, an empty link is a license and a note gives a row. -/
theorem judgeElement_standardUi_noted :
    let attr (uri : Option String) (localName value : String) : Attribute :=
      ⟨⟨uri, localName, none⟩, default, value, default⟩
    let parent := bareElement hostNamespace "BootstrapperApplicationRef"
    let element := { bareElement ownNamespace "WixStandardBootstrapperApplication" with
      attributes := [attr (some ownNamespace) "ShowVersion" "Yes", ownerNote,
        attr none "LicenseUrl" "", attr none "ShowVersion" "no", attr none "LaunchTarget" "a"] }
    let session : Session Unit := .start {} ⟨[⟨noteTaker, ()⟩]⟩
    let outcome := (session.judgeElement parent element).1
    parent.localName = "BootstrapperApplicationRef" ∧
      element.localName = "WixStandardBootstrapperApplication" ∧ outcome.hasErrors = false ∧
      outcome.rows = [.linkVariable "Owner" "me" default,
        .ofTexts .bundleVariable ["LaunchTarget", "a", "string"] default,
        .linkVariable "WixStdbaLicenseUrl" "" default,
        ⟨.uiOptions, [none, none, none, some (.integer 1)], default⟩] := by
  intro attr parent element session outcome
  have host : parent.localName = "BootstrapperApplicationRef" := rfl
  have named : element.localName = "WixStandardBootstrapperApplication" := rfl
  obtain ⟨accepted, rows⟩ := judgeElement_standardUi session host named
  have legal : ∀ attr ∈ element.ruledAttributes,
      StandardUi.Takes attr.name.localName attr.value := by
    have ruled : element.ruledAttributes = [attr (some ownNamespace) "ShowVersion" "Yes",
        attr none "LicenseUrl" "", attr none "ShowVersion" "no",
        attr none "LaunchTarget" "a"] := by decide +kernel
    intro given among
    simp only [ruled, List.mem_cons, List.not_mem_nil, or_false] at among
    rcases among with rfl | rfl | rfl | rfl
    · exact .flag (by decide) (.inl (by decide +kernel))
    · exact .link ""
    · exact .flag (by decide) (.inr (by decide +kernel))
    · exact .text (by decide) (by decide)
  have answers : session.delegated element =
      [.ofRows [.linkVariable "Owner" "me" default]] := by decide +kernel
  have errorless : outcome.hasErrors = false := by
    refine accepted.mpr ⟨legal, by decide +kernel, nofun, ?_⟩
    rw [answers]
    decide +kernel
  refine ⟨host, named, errorless, ?_⟩
  rw [rows errorless, answers]
  decide +kernel

end Session
end BundleMarkup
