import BundleMarkup.Proofs.Judging.Acceptance
import Mathlib.Data.List.Forall2

/-!
# Accounts of collected attributes

Collecting the attributes of an element accounts for each of them once: it is handed to another
extension, recorded under its rule, or reported as unknown.  Demands of the rule come after that,
one report for each required name that no attribute bears and one for each group of which more than
one attribute is given.
-/

namespace BundleMarkup

variable {σ : Type}

/-- An attribute that a rule can be about has a name. -/
def Element.Bears (element : Element) (name : String) : Prop :=
  ∃ attr ∈ element.ruledAttributes, attr.name.localName = name

/-- A value is refused with one report or read without any. -/
theorem ValueKind.read_cases (kind : ValueKind) (element : Element) (attr : Attribute) :
    (∃ value, value ≠ .invalid ∧ kind.read element attr = (value, none)) ∨
      ∃ refusal ∈ [Message.illegalEmptyValue element attr, Message.illegalYesNoValue element attr],
        kind.read element attr = (.invalid, some refusal) := by
  have text (value : String) : AttributeValue.text value ≠ .invalid := by simp
  have yesNo (answer : YesNo) : AttributeValue.yesNo answer ≠ .invalid := by simp
  cases kind with
  | text => exact .inl ⟨.text attr.value, text _, rfl⟩
  | nonEmptyText =>
      by_cases empty : attr.value = ""
      · exact .inr ⟨_, List.mem_cons_self, by simp [read, empty]⟩
      · exact .inl ⟨.text attr.value, text _, by simp [read, empty]⟩
  | yesNo =>
      by_cases yes : attr.value.toLower = "yes"
      · exact .inl ⟨.yesNo .yes, yesNo _, by simp [read, yes]⟩
      · by_cases no : attr.value.toLower = "no"
        · exact .inl ⟨.yesNo .no, yesNo _, by simp [read, no]⟩
        · by_cases empty : attr.value.toLower = ""
          · exact .inr ⟨_, List.mem_cons_self, by simp [read, empty]⟩
          · exact .inr ⟨_, List.mem_cons_of_mem _ List.mem_cons_self,
              by simp [read, yes, no, empty]⟩

/-- How attributes of an element are accounted for under a rule and a policy, one after another: the
extensions before and after, what is recorded, what is said and the rows that come of it. -/
inductive ElementRule.Accounted (rule : ElementRule) (element : Element) (policy : WarningPolicy) :
    Extensions σ → List Attribute → Extensions σ → List CollectedAttribute → List Diagnostic →
      List Row → Prop
  | nil {extensions : Extensions σ} :
      Accounted rule element policy extensions [] extensions [] [] []
  /-- An attribute of another extension is handed over. -/
  | foreign {extensions final : Extensions σ} {attr : Attribute} {rest : List Attribute}
      {entries : List CollectedAttribute} {diagnostics : List Diagnostic} {rows : List Row} :
      attr.name.isUnqualifiedOrIn ownNamespace = false →
      Accounted rule element policy (extensions.judgeAttribute element attr).2 rest final entries
        diagnostics rows →
      Accounted rule element policy extensions (attr :: rest) final entries
        ((extensions.judgeAttribute element attr).1.diagnostics.filterMap policy.apply ++
          diagnostics)
        ((extensions.judgeAttribute element attr).1.rows ++ rows)
  /-- A legal value is recorded. -/
  | accepted {extensions final : Extensions σ} {attr : Attribute} {rest : List Attribute}
      {entries : List CollectedAttribute} {diagnostics : List Diagnostic} {rows : List Row}
      {attrRule : AttributeRule} {value : AttributeValue} :
      attr.name.isUnqualifiedOrIn ownNamespace = true →
      attrRule ∈ rule.attributes → attrRule.name = attr.name.localName →
      attrRule.kind.read element attr = (value, none) → value ≠ .invalid →
      Accounted rule element policy extensions rest final entries diagnostics rows →
      Accounted rule element policy extensions (attr :: rest) final
        (⟨attrRule.name, value, attr⟩ :: entries) diagnostics rows
  /-- An illegal value is recorded as refused, with one report. -/
  | refused {extensions final : Extensions σ} {attr : Attribute} {rest : List Attribute}
      {entries : List CollectedAttribute} {diagnostics : List Diagnostic} {rows : List Row}
      {attrRule : AttributeRule} {refusal : Diagnostic} :
      attr.name.isUnqualifiedOrIn ownNamespace = true →
      attrRule ∈ rule.attributes → attrRule.name = attr.name.localName →
      attrRule.kind.read element attr = (.invalid, some refusal) →
      refusal ∈ [Message.illegalEmptyValue element attr, Message.illegalYesNoValue element attr] →
      Accounted rule element policy extensions rest final entries diagnostics rows →
      Accounted rule element policy extensions (attr :: rest) final
        (⟨attrRule.name, .invalid, attr⟩ :: entries) (refusal :: diagnostics) rows
  /-- An attribute that the rule does not know is reported. -/
  | unknown {extensions final : Extensions σ} {attr : Attribute} {rest : List Attribute}
      {entries : List CollectedAttribute} {diagnostics : List Diagnostic} {rows : List Row} :
      attr.name.isUnqualifiedOrIn ownNamespace = true →
      (∀ attrRule ∈ rule.attributes, attrRule.name ≠ attr.name.localName) →
      Accounted rule element policy extensions rest final entries diagnostics rows →
      Accounted rule element policy extensions (attr :: rest) final entries
        (Message.unexpectedAttribute element attr :: diagnostics) rows

namespace ElementRule

variable {rule : ElementRule} {element : Element}

theorem mem_of_find? {name : String} {attrRule : AttributeRule}
    (known : rule.find? name = some attrRule) :
    attrRule ∈ rule.attributes ∧ attrRule.name = name :=
  ⟨List.mem_of_find?_eq_some known, name_of_find? known⟩

theorem find?_eq_none {name : String} :
    rule.find? name = none ↔ ∀ attrRule ∈ rule.attributes, attrRule.name ≠ name := by
  simp [find?]

/-- An attribute is handed over, known to the rule and legal or refused, or unknown; each comes with
the steps that are planned for it and what is recorded. -/
theorem attributePlan_cases (rule : ElementRule) (element : Element) (attr : Attribute) :
    (attr.name.isUnqualifiedOrIn ownNamespace = false ∧
      rule.attributePlan element attr = [.delegateAttribute element attr] ∧
      rule.entry? element attr = none) ∨
    attr.name.isUnqualifiedOrIn ownNamespace = true ∧
      ((∀ attrRule ∈ rule.attributes, attrRule.name ≠ attr.name.localName) ∧
        rule.attributePlan element attr = [.report (Message.unexpectedAttribute element attr)] ∧
        rule.entry? element attr = none ∨
      ∃ attrRule ∈ rule.attributes, attrRule.name = attr.name.localName ∧
        ((∃ value, value ≠ .invalid ∧ attrRule.kind.read element attr = (value, none) ∧
          rule.attributePlan element attr = [] ∧
          rule.entry? element attr = some ⟨attrRule.name, value, attr⟩) ∨
        ∃ refusal ∈
            [Message.illegalEmptyValue element attr, Message.illegalYesNoValue element attr],
          attrRule.kind.read element attr = (.invalid, some refusal) ∧
          rule.attributePlan element attr = [.report refusal] ∧
          rule.entry? element attr = some ⟨attrRule.name, .invalid, attr⟩)) := by
  cases ruled : attr.name.isUnqualifiedOrIn ownNamespace with
  | false => exact .inl ⟨rfl, by simp [attributePlan, ruled], by simp [ruled, entry?]⟩
  | true =>
      refine .inr ⟨rfl, ?_⟩
      cases known : rule.find? attr.name.localName with
      | none =>
          exact .inl ⟨find?_eq_none.mp known, by simp [attributePlan, ruled, known],
            by simp [ruled, known, entry?]⟩
      | some attrRule =>
          obtain ⟨among, named⟩ := mem_of_find? known
          refine .inr ⟨attrRule, among, named, ?_⟩
          rcases attrRule.kind.read_cases element attr with
            ⟨value, legal, reads⟩ | ⟨refusal, said, reads⟩
          · exact .inl ⟨value, legal, reads, by simp [attributePlan, ruled, known, reads],
              by simp [ruled, known, reads, entry?]⟩
          · exact .inr ⟨refusal, said, reads, by simp [attributePlan, ruled, known, reads],
              by simp [ruled, known, reads, entry?]⟩

/-- Whatever the policy, a step that reports an error says it once and brings no rows. -/
theorem performAll_report_cons (policy : WarningPolicy) (extensions : Extensions σ)
    {diagnostic : Diagnostic} (isError : diagnostic.isError = true) (steps : List Step) :
    let performed := extensions.performAll (.report diagnostic :: steps)
    let later := extensions.performAll steps
    (performed.1.flatMap Outcome.diagnostics).filterMap policy.apply =
        diagnostic :: (later.1.flatMap Outcome.diagnostics).filterMap policy.apply ∧
      performed.1.flatMap Outcome.rows = later.1.flatMap Outcome.rows ∧
      performed.2 = later.2 := by
  simp [Extensions.performAll_cons, Extensions.perform, Outcome.ofDiagnostic, Outcome.rows_of,
    policy.apply_of_isError isError]

/-- The plans of attributes account for each of them. -/
theorem accounted (rule : ElementRule) (element : Element) (policy : WarningPolicy)
    (extensions : Extensions σ) (attributes : List Attribute) :
    let performed := extensions.performAll (attributes.flatMap (rule.attributePlan element))
    rule.Accounted element policy extensions attributes performed.2
      (attributes.filterMap (rule.entry? element))
      ((performed.1.flatMap Outcome.diagnostics).filterMap policy.apply)
      (performed.1.flatMap Outcome.rows) := by
  induction attributes generalizing extensions with
  | nil => exact .nil
  | cons attr rest ih =>
      rw [List.flatMap_cons]
      rcases rule.attributePlan_cases element attr with ⟨foreign, planned, unrecorded⟩ |
        ⟨ruled, ⟨unknown, planned, unrecorded⟩ | ⟨attrRule, among, named,
          ⟨value, legal, reads, planned, recorded⟩ | ⟨refusal, said, reads, planned, recorded⟩⟩⟩
      · simp only [planned, List.singleton_append, Extensions.performAll_cons, List.flatMap_cons,
          List.filterMap_cons_none unrecorded, List.filterMap_append]
        exact .foreign foreign (ih _)
      · have isError : (Message.unexpectedAttribute element attr).isError = true := rfl
        obtain ⟨diagnostics, rows, final⟩ := performAll_report_cons policy extensions isError
          (rest.flatMap (rule.attributePlan element))
        simp only [planned, List.singleton_append, List.filterMap_cons_none unrecorded,
          diagnostics, rows, final]
        exact .unknown ruled unknown (ih extensions)
      · simp only [planned, List.nil_append, List.filterMap_cons_some recorded]
        exact .accepted ruled among named reads legal (ih extensions)
      · have isError : refusal.isError = true := by
          rcases List.mem_pair.mp said with rfl | rfl <;> rfl
        obtain ⟨diagnostics, rows, final⟩ := performAll_report_cons policy extensions isError
          (rest.flatMap (rule.attributePlan element))
        simp only [planned, List.singleton_append, List.filterMap_cons_some recorded,
          diagnostics, rows, final]
        exact .refused ruled among named reads said (ih extensions)

/-- A name is recorded if the rule knows it and an attribute bears it, legal or not. -/
theorem isPresent_valuesOf_iff {name : String} :
    (rule.valuesOf element).isPresent name = true ↔
      (∃ attrRule ∈ rule.attributes, attrRule.name = name) ∧ element.Bears name := by
  rw [CollectedAttributes.isPresent, CollectedAttributes.get?, Option.isSome_map,
    CollectedAttributes.entry?, List.find?_isSome]
  constructor
  · rintro ⟨entry, recorded, named⟩
    obtain ⟨attr, among, made⟩ := List.mem_filterMap.mp recorded
    obtain ⟨ruled, attrRule, known, rfl⟩ := entry?_eq_some.mp made
    obtain rfl : attr.name.localName = name := eq_of_beq named
    obtain ⟨listed, same⟩ := mem_of_find? known
    exact ⟨⟨attrRule, listed, same⟩, attr, List.mem_filter.mpr ⟨among, ruled⟩, rfl⟩
  · rintro ⟨⟨attrRule, listed, same⟩, attr, borne, rfl⟩
    obtain ⟨among, ruled⟩ := List.mem_filter.mp borne
    cases known : rule.find? attr.name.localName with
    | none => exact absurd same (find?_eq_none.mp known attrRule listed)
    | some found =>
        have made : rule.entry? element attr =
            some ⟨attr.name.localName, (found.kind.read element attr).1, attr⟩ :=
          entry?_eq_some.mpr ⟨ruled, found, known, rfl⟩
        exact ⟨_, List.mem_filterMap.mpr ⟨attr, among, made⟩, beq_self_eq_true _⟩

/-- The names that a rule requires and no attribute bears are reported, in the order of the rule. -/
theorem exists_missing_eq (rule : ElementRule) (element : Element)
    (distinct : (rule.attributes.map AttributeRule.name).Nodup) :
    ∃ names : List String, rule.missing element (rule.valuesOf element) =
        names.map (Message.expectedAttribute element) ∧
      names.Sublist (rule.attributes.map AttributeRule.name) ∧ names.Nodup ∧
      ∀ name, name ∈ names ↔
        (∃ attrRule ∈ rule.attributes, attrRule.name = name ∧ attrRule.requirement = .required) ∧
          ¬ element.Bears name := by
  let lacking := rule.attributes.filter fun attrRule =>
    attrRule.requirement = .required && !(rule.valuesOf element).isPresent attrRule.name
  have ordered : (lacking.map AttributeRule.name).Sublist
      (rule.attributes.map AttributeRule.name) :=
    List.filter_sublist.map AttributeRule.name
  refine ⟨lacking.map AttributeRule.name, ?_, ordered, ordered.nodup distinct, fun name => ?_⟩
  · rw [missing, List.map_map]
    rfl
  have absent (attrRule : AttributeRule) (listed : attrRule ∈ rule.attributes) :
      (rule.valuesOf element).isPresent attrRule.name = false ↔ ¬ element.Bears attrRule.name := by
    rw [← Bool.not_eq_true, isPresent_valuesOf_iff, not_and]
    exact ⟨fun bears => bears ⟨attrRule, listed, rfl⟩, fun bears _ => bears⟩
  simp only [lacking, List.mem_map, List.mem_filter, Bool.and_eq_true, decide_eq_true_eq,
    Bool.not_eq_true']
  constructor
  · rintro ⟨attrRule, ⟨listed, required, away⟩, rfl⟩
    exact ⟨⟨attrRule, listed, rfl, required⟩, (absent attrRule listed).mp away⟩
  · rintro ⟨⟨attrRule, listed, rfl, required⟩, away⟩
    exact ⟨attrRule, ⟨listed, required, (absent attrRule listed).mpr away⟩, rfl⟩

/-- A report on a group of attributes names the first two that are given. -/
def Conflict (element : Element) (values : CollectedAttributes) (group : List String)
    (diagnostic : Diagnostic) : Prop :=
  ∃ one other rest first second, group.filter values.isPresent = one :: other :: rest ∧
    one ≠ other ∧ values.source? one = some first ∧ values.source? other = some second ∧
    diagnostic = Message.mutuallyExclusive element second first

/-- The sources of a group are those of its members that are given. -/
theorem exists_source?_of_isPresent {values : CollectedAttributes} {name : String}
    (given : values.isPresent name = true) : ∃ attr, values.source? name = some attr := by
  rw [CollectedAttributes.isPresent, CollectedAttributes.get?, Option.isSome_map] at given
  obtain ⟨entry, found⟩ := Option.isSome_iff_exists.mp given
  exact ⟨entry.source, by rw [CollectedAttributes.source?, found, Option.map_some]⟩

theorem filterMap_source? (values : CollectedAttributes) (group : List String) :
    group.filterMap values.source? = (group.filter values.isPresent).filterMap values.source? := by
  rw [List.filterMap_filter]
  refine List.filterMap_congr fun name _ => ?_
  cases given : values.isPresent name with
  | true => rfl
  | false =>
      rw [CollectedAttributes.isPresent, CollectedAttributes.get?, Option.isSome_map,
        Option.isSome_eq_false_iff, Option.isNone_iff_eq_none] at given
      rw [CollectedAttributes.source?, given]
      rfl

/-- A group of different names has one report if at least two of them are given, else none. -/
theorem conflict?_cases (element : Element) (values : CollectedAttributes) {group : List String}
    (apart : group.Nodup) :
    ((group.filter values.isPresent).length < 2 ∧ conflict? element values group = none) ∨
      (2 ≤ (group.filter values.isPresent).length ∧
        ∃ diagnostic, conflict? element values group = some diagnostic ∧
          Conflict element values group diagnostic) := by
  have given : ∀ name ∈ group.filter values.isPresent, ∃ attr, values.source? name = some attr :=
    fun name among => exists_source?_of_isPresent (List.mem_filter.mp among).2
  have different := apart.filter values.isPresent
  unfold conflict? Conflict
  rw [filterMap_source?]
  generalize group.filter values.isPresent = present at given different ⊢
  match present with
  | [] => exact .inl ⟨by simp, rfl⟩
  | [one] =>
      obtain ⟨first, source⟩ := given one List.mem_cons_self
      exact .inl ⟨by simp, by simp [source]⟩
  | one :: other :: rest =>
      obtain ⟨first, source⟩ := given one List.mem_cons_self
      obtain ⟨second, source'⟩ := given other (List.mem_cons_of_mem _ List.mem_cons_self)
      have distinct : one ≠ other := fun same =>
        (List.nodup_cons.mp different).1 (same ▸ List.mem_cons_self)
      refine .inr ⟨by simp, _, ?_, one, other, rest, first, second, rfl, distinct, source, source',
        rfl⟩
      rw [List.filterMap_cons_some source, List.filterMap_cons_some source']

/-- The groups of which more than one attribute is given have one report each, in order. -/
theorem forall₂_conflicts (element : Element) (values : CollectedAttributes)
    {groups : List (List String)} (apart : ∀ group ∈ groups, group.Nodup) :
    List.Forall₂ (Conflict element values)
      (groups.filter fun group => 2 ≤ (group.filter values.isPresent).length)
      (groups.filterMap (conflict? element values)) := by
  induction groups with
  | nil => exact .nil
  | cons group rest ih =>
      have later := ih fun other among => apart other (List.mem_cons_of_mem _ among)
      rcases conflict?_cases element values (apart group List.mem_cons_self) with
        ⟨few, silent⟩ | ⟨many, diagnostic, said, conflict⟩
      · rw [List.filter_cons_of_neg (by simpa using few), List.filterMap_cons_none silent]
        exact later
      · rw [List.filter_cons_of_pos (by simpa using many), List.filterMap_cons_some said]
        exact .cons conflict later

/-- No policy changes the demands of a rule. -/
theorem filterMap_apply_demands (policy : WarningPolicy) :
    (rule.missing element (rule.valuesOf element) ++
      rule.conflicts element (rule.valuesOf element)).filterMap policy.apply =
    rule.missing element (rule.valuesOf element) ++
      rule.conflicts element (rule.valuesOf element) := by
  refine (List.filterMap_congr fun diagnostic among => ?_).trans List.filterMap_some
  rcases List.mem_append.mp among with missing | conflict
  · exact policy.apply_of_isError (demands_of_mem_missing missing).reports.isError
  · exact policy.apply_of_isError (reports_of_mem_conflicts conflict).isError

/-- Collecting comes to what is said of the attributes and then the demands of the rule. -/
theorem collect_eq_accounts (rule : ElementRule) (element : Element) (policy : WarningPolicy)
    (extensions : Extensions σ) :
    let performed := extensions.performAll (element.attributes.flatMap (rule.attributePlan element))
    rule.collect (.start element policy) extensions =
      ⟨⟨element, policy, (performed.1.flatMap Outcome.diagnostics).filterMap policy.apply ++
          (rule.missing element (rule.valuesOf element) ++
            rule.conflicts element (rule.valuesOf element)),
        performed.1.flatMap Outcome.rows⟩, performed.2, rule.valuesOf element⟩ := by
  rw [collect_eq, plan, Scope.run_append, Scope.run_report]
  simp only [Scope.run, Scope.foldl_merge_eq, Scope.reportAll_eq, Scope.start,
    filterMap_apply_demands, List.nil_append]

/-- Collecting accounts for each attribute once, in written order, and then reports each name that
the rule requires and no attribute bears and each group of which more than one is given. -/
theorem collect_accounted (rule : ElementRule)
    (distinct : (rule.attributes.map AttributeRule.name).Nodup)
    (apart : ∀ group ∈ rule.exclusive, group.Nodup) (element : Element) (policy : WarningPolicy)
    (extensions : Extensions σ) :
    let done := rule.collect (.start element policy) extensions
    ∃ (said : List Diagnostic) (names : List String) (conflicts : List Diagnostic),
      rule.Accounted element policy extensions element.attributes done.extensions
        done.values.entries said done.scope.rows ∧
      done.scope.diagnostics =
        said ++ names.map (Message.expectedAttribute element) ++ conflicts ∧
      names.Sublist (rule.attributes.map AttributeRule.name) ∧ names.Nodup ∧
      (∀ name, name ∈ names ↔
        (∃ attrRule ∈ rule.attributes, attrRule.name = name ∧ attrRule.requirement = .required) ∧
          ¬ element.Bears name) ∧
      List.Forall₂ (Conflict element done.values)
        (rule.exclusive.filter fun group => 2 ≤ (group.filter done.values.isPresent).length)
        conflicts ∧
      ∀ name, done.values.isPresent name = true ↔
        (∃ attrRule ∈ rule.attributes, attrRule.name = name) ∧ element.Bears name := by
  intro done
  obtain ⟨names, missing, ordered, nodup, lacking⟩ :=
    rule.exists_missing_eq element distinct
  have conflicts := forall₂_conflicts element (rule.valuesOf element) apart
  have collected : done = _ := rule.collect_eq_accounts element policy extensions
  rw [collected]
  refine ⟨_, names, _, rule.accounted element policy extensions element.attributes, ?_, ordered,
    nodup, lacking, conflicts, fun name => isPresent_valuesOf_iff⟩
  rw [← missing, List.append_assoc]
  rfl

/-- An empty message counts as given: it is refused, but neither missing nor left out of a group. -/
theorem collect_accounted_crowded :
    let rule : ElementRule :=
      { attributes := [⟨"Id", .text, .required⟩, ⟨"Message", .nonEmptyText, .required⟩,
          ⟨"Level", .text, .optional⟩, ⟨"Hidden", .yesNo, .optional⟩]
        exclusive := [["Message", "Level", "Hidden"], ["Id", "Level"]] }
    let attr (uri : Option String) (localName value : String) : Attribute :=
      ⟨⟨uri, localName, none⟩, default, value, default⟩
    let element := { bareElement ownNamespace "Condition" with
      attributes := [attr none "Message" "", attr (some "u") "Id" "x", attr none "Level" "1",
        attr none "Other" "", attr (some ownNamespace) "Hidden" "YES"] }
    let done := rule.collect (.start element {}) (.empty : Extensions Unit)
    (rule.attributes.map AttributeRule.name).Nodup ∧ (∀ group ∈ rule.exclusive, group.Nodup) ∧
      done.scope.diagnostics.map Diagnostic.code =
        [some "B-3-1", some "B-5-1", some "B-1-2", some "B-2-1", some "B-4-1"] ∧
      ∃ (said : List Diagnostic) (names : List String) (conflicts : List Diagnostic),
        done.scope.diagnostics =
          said ++ names.map (Message.expectedAttribute element) ++ conflicts ∧
        "Id" ∈ names ∧ "Message" ∉ names ∧ conflicts.length = 1 := by
  intro rule attr element done
  have distinct : (rule.attributes.map AttributeRule.name).Nodup := by decide
  have apart : ∀ group ∈ rule.exclusive, group.Nodup := by decide
  have codes : done.scope.diagnostics.map Diagnostic.code =
      [some "B-3-1", some "B-5-1", some "B-1-2", some "B-2-1", some "B-4-1"] := by
    decide +kernel
  obtain ⟨said, names, conflicts, -, whole, -, -, lacking, reported, -⟩ :=
    rule.collect_accounted distinct apart element {} (.empty : Extensions Unit)
  have given : ∃ attr ∈ element.ruledAttributes, attr.name.localName = "Message" := by
    decide +kernel
  have away : ¬ ∃ attr ∈ element.ruledAttributes, attr.name.localName = "Id" := by
    decide +kernel
  refine ⟨distinct, apart, codes, said, names, conflicts, whole, ?_, ?_, ?_⟩
  · exact (lacking "Id").mpr ⟨⟨_, List.mem_cons_self, rfl, rfl⟩, away⟩
  · exact fun among => ((lacking "Message").mp among).2 given
  · rw [← reported.length_eq]
    decide +kernel

end ElementRule
end BundleMarkup
