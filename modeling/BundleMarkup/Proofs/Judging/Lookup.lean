import BundleMarkup.Proofs.Judging.Isolation
import BundleMarkup.Proofs.Judging.Reports
import BundleMarkup.Proofs.Markup.DistinctKeys

/-!
# Looking attributes up

Attributes are looked up by namespace and local name, or under a rule by local name alone, and the
first one found is taken.  It is the only one as long as no two attributes answer to the same name.
Nothing that is read or judged makes sure of that: two qualifiers may be bound to one namespace, and
a rule takes an attribute with and without the extension's namespace for the same.
-/

namespace BundleMarkup

variable {σ : Type}

namespace Lookup

variable {α β : Type} {accepts : α → Bool} {list list' : List α}

/-- What alone is accepted is found. -/
theorem find?_eq_some_of_unique {member : α} (among : member ∈ list) (accepted : accepts member)
    (only : ∀ other ∈ list, accepts other → other = member) :
    list.find? accepts = some member := by
  cases found : list.find? accepts with
  | none => exact absurd accepted (List.find?_eq_none.mp found member among)
  | some other =>
      have same := only other (List.mem_of_find?_eq_some found) (List.find?_some found)
      rw [same]

/-- What alone is accepted is found wherever it stands. -/
theorem find?_eq_of_perm (reordered : list.Perm list')
    (unique : ∀ first ∈ list, ∀ second ∈ list, accepts first → accepts second → first = second) :
    list.find? accepts = list'.find? accepts := by
  cases found : list.find? accepts with
  | none =>
      refine (List.find?_eq_none.mpr fun other among => ?_).symm
      exact List.find?_eq_none.mp found other (reordered.mem_iff.mpr among)
  | some member =>
      have among := List.mem_of_find?_eq_some found
      have accepted := List.find?_some found
      have only (other : α) (inside : other ∈ list') (holds : accepts other) : other = member :=
        unique other (reordered.mem_iff.mpr inside) member among holds accepted
      exact (find?_eq_some_of_unique (reordered.mem_iff.mp among) accepted only).symm

end Lookup

/-- A name as it counts, however it is qualified. -/
def Name.expanded (name : Name) : Option String × String := (name.uri, name.localName)

theorem Name.written_eq_of_expanded {first second : Name}
    (qualifiers : first.qualifier = second.qualifier)
    (same : first.expanded = second.expanded) : first.written = second.written := by
  rw [written, written, qualifiers, (Prod.mk.inj same).2]

namespace Element

/-- No two qualifiers are used for one namespace in the attributes of an element. -/
def IsEvenlyQualified (element : Element) : Prop :=
  ∀ first ∈ element.attributes, ∀ second ∈ element.attributes,
    first.name.uri = second.name.uri → first.name.qualifier = second.name.qualifier

variable {element : Element}

theorem IsEvenlyQualified.nodup_expanded (even : element.IsEvenlyQualified)
    (apart : (element.attributes.map (·.name.written)).Nodup) :
    (element.attributes.map (·.name.expanded)).Nodup := by
  rw [List.nodup_iff_pairwise_ne, List.pairwise_map] at apart ⊢
  refine apart.imp_of_mem fun {first second} left right differ same => differ ?_
  have qualifiers := even first left second right (Prod.mk.inj same).1
  exact Name.written_eq_of_expanded qualifiers same

/-- An attribute is found by its name if it is the only one of that name. -/
theorem attribute?_of_nodup (apart : (element.attributes.map (·.name.expanded)).Nodup)
    {attr : Attribute} (among : attr ∈ element.attributes) (unqualified : attr.name.uri = none) :
    element.attribute? attr.name.localName = some attr := by
  refine Lookup.find?_eq_some_of_unique among (by simp [unqualified]) fun other inside found => ?_
  obtain ⟨absent, named⟩ : other.name.uri = none ∧ other.name.localName = attr.name.localName := by
    simpa using found
  refine List.inj_on_of_nodup_map apart inside among ?_
  rw [Name.expanded, Name.expanded, absent, unqualified, named]

theorem attributeIn?_of_nodup (apart : (element.attributes.map (·.name.expanded)).Nodup)
    {attr : Attribute} (among : attr ∈ element.attributes) {uri : String}
    (qualified : attr.name.uri = some uri) :
    element.attributeIn? uri attr.name.localName = some attr := by
  refine Lookup.find?_eq_some_of_unique among (by simp [qualified]) fun other inside found => ?_
  obtain ⟨given, named⟩ :
      other.name.uri = some uri ∧ other.name.localName = attr.name.localName := by
    simpa using found
  refine List.inj_on_of_nodup_map apart inside among ?_
  rw [Name.expanded, Name.expanded, given, qualified, named]

/-- The extension's attributes are told apart by their local names if all attributes are by their
names. -/
theorem nodup_localName_ownAttributes (apart : (element.attributes.map (·.name.expanded)).Nodup) :
    (element.ownAttributes.map (·.name.localName)).Nodup := by
  rw [List.nodup_iff_pairwise_ne, List.pairwise_map] at apart ⊢
  refine (apart.filter _).imp_of_mem fun {first second} left right differ same => differ ?_
  have own {attr : Attribute} (among : attr ∈ element.ownAttributes) :
      attr.name.uri = some ownNamespace := by
    have inside : attr.name.uri.getD "" = ownNamespace :=
      of_decide_eq_true (List.mem_filter.mp among).2
    cases given : attr.name.uri with
    | none =>
        rw [given] at inside
        exact absurd inside (by decide)
    | some uri =>
        rw [given] at inside
        exact congrArg some inside
  rw [Name.expanded, Name.expanded, own left, own right, same]

end Element

namespace Document

/--
No two attributes of an element of a document are written alike.  Where no two qualifiers stand for
the same namespace, no two have the same namespace and local name either: each is the one that is
found by its name, and whoever judges the element has one attribute of each name.
-/
theorem nodup_expanded_of_within {file : FileId} {input : List Char} {document : Document}
    {element : Element} (reads : read file input = .ok document)
    (within : document.root.Within element) :
    (element.attributes.map (·.name.written)).Nodup ∧
      (element.IsEvenlyQualified →
        (element.attributes.map (·.name.expanded)).Nodup ∧
          (∀ attr ∈ element.attributes,
            (attr.name.uri = none → element.attribute? attr.name.localName = some attr) ∧
              ∀ uri, attr.name.uri = some uri →
                element.attributeIn? uri attr.name.localName = some attr) ∧
          (∀ rule : ElementRule,
            ((rule.valuesOf element).entries.map (·.source.name.expanded)).Nodup) ∧
          (element.ownAttributes.map (·.name.localName)).Nodup) := by
  have written := nodup_written_of_within reads within
  refine ⟨written, fun even => ?_⟩
  have apart := even.nodup_expanded written
  refine ⟨apart, fun attr among => ⟨Element.attribute?_of_nodup apart among,
    fun uri => Element.attributeIn?_of_nodup apart among⟩, fun rule => ?_,
    Element.nodup_localName_ownAttributes apart⟩
  have sources := (rule.sublist_sources element element.attributes).map (·.name.expanded)
  rw [List.map_map] at sources
  exact sources.nodup apart

/-- Three attributes of one local name are told apart by their namespaces. -/
theorem nodup_expanded_of_within_shared :
    let input := "<a xmlns:p='u' xmlns:q='v' x='1' p:x='2' q:x='3'/>".toList
    ∃ document, read default input = .ok document ∧
      document.root.IsEvenlyQualified ∧
      document.root.attributes.map (·.name.written) = ["x", "p:x", "q:x"] ∧
      (document.root.attributes.map (·.name.expanded)).Nodup := by
  intro input
  have facts : (read default input).toOption.map
      (fun document => document.root.attributes.map (·.name)) =
        some [⟨none, "x", none⟩, ⟨some "u", "x", some "p"⟩, ⟨some "v", "x", some "q"⟩] := by
    decide +kernel
  obtain ⟨document, reads, names⟩ := exists_of_map_read facts
  have even : document.root.IsEvenlyQualified := by
    have listed (attr : Attribute) (among : attr ∈ document.root.attributes) :=
      names ▸ List.mem_map_of_mem (f := Attribute.name) among
    intro first left second right same
    have first := listed first left
    have second := listed second right
    simp only [List.mem_cons, List.not_mem_nil, or_false] at first second
    rcases first with first | first | first <;> rcases second with second | second | second <;>
      simp_all
  obtain ⟨_, expanded⟩ := nodup_expanded_of_within reads .self
  refine ⟨document, reads, even, ?_, (expanded even).1⟩
  rw [← Function.comp_def, ← List.map_map, names]
  rfl

/-- Two qualifiers of one namespace give two attributes the same name. -/
theorem nodup_expanded_of_rebound :
    let input := "<a xmlns:p='u' xmlns:q='u' p:x='1' q:x='2'/>".toList
    ∃ document first second, read default input = .ok document ∧
      document.root.attributes = [first, second] ∧ first.value ≠ second.value ∧
      first.name.expanded = (some "u", "x") ∧ second.name.expanded = (some "u", "x") ∧
      document.root.attributeIn? "u" "x" = some first := by
  intro input
  have facts : (read default input).toOption.map
      (fun document => document.root.attributes.map fun attr => (attr.name.expanded, attr.value)) =
        some [((some "u", "x"), "1"), ((some "u", "x"), "2")] := by
    decide +kernel
  obtain ⟨document, reads, seen⟩ := exists_of_map_read facts
  obtain ⟨first, rest, attributes, one, later⟩ := List.map_eq_cons_iff.mp seen
  obtain ⟨second, rfl, two⟩ := List.map_eq_singleton_iff.mp later
  obtain ⟨firstName, firstValue⟩ := Prod.mk.inj one
  obtain ⟨secondName, secondValue⟩ := Prod.mk.inj two
  obtain ⟨uri, localName⟩ := Prod.mk.inj firstName
  refine ⟨document, first, second, reads, attributes, ?_, firstName, secondName, ?_⟩
  · rw [firstValue, secondValue]
    decide
  · rw [Element.attributeIn?, attributes]
    simp [uri, localName]

end Document

/-- The attributes of an element that a rule is about: those in no namespace and the extension's. -/
def Element.ruledAttributes (element : Element) : List Attribute :=
  element.attributes.filter (·.name.isUnqualifiedOrIn ownNamespace)

theorem Element.find?_ruledAttributes (element : Element) (name : String) :
    element.ruledAttributes.find? (·.name.localName == name) =
      element.attributes.find? fun attr =>
        attr.name.isUnqualifiedOrIn ownNamespace && attr.name.localName == name := by
  rw [ruledAttributes, List.find?_filter]
  congr 1
  funext attr
  rw [Bool.decide_and, Bool.decide_eq_true, Bool.decide_eq_true]

namespace ElementRule

variable {rule : ElementRule} {element : Element} {attr : Attribute}

theorem any_entry? (attr : Attribute) (name : String) :
    (rule.entry? element attr).any (·.name == name) =
      (attr.name.isUnqualifiedOrIn ownNamespace && attr.name.localName == name &&
        (rule.find? name).isSome) := by
  unfold entry?
  split
  · rename_i ruled
    rw [ruled, Bool.true_and]
    cases found : rule.find? attr.name.localName with
    | none =>
        by_cases same : attr.name.localName = name
        · simp [← same, found]
        · simp [same]
    | some attrRule =>
        by_cases same : attr.name.localName = name
        · simp [← same, found, name_of_find? found]
        · simp [same, name_of_find? found]
  · rename_i unruled
    simp [unruled]

/-- What is recorded under a name comes from the first attribute of that local name. -/
theorem entry?_valuesOf (rule : ElementRule) (element : Element) (name : String) :
    CollectedAttributes.entry? (rule.valuesOf element) name =
      (element.ruledAttributes.find? (·.name.localName == name)).bind (rule.entry? element) := by
  rw [CollectedAttributes.entry?, valuesOf, List.find?_filterMap, element.find?_ruledAttributes,
    funext fun attr => any_entry? attr name]
  cases known : rule.find? name with
  | some attrRule => simp only [Option.isSome_some, Bool.and_true]
  | none =>
      have unknown : element.attributes.find? (fun _ => false) = none :=
        List.find?_eq_none.mpr fun _ _ => Bool.false_ne_true
      simp only [Option.isSome_none, Bool.and_false, unknown, Option.bind_none]
      refine (Option.bind_eq_none_iff.mpr fun attr found => ?_).symm
      have accepted := List.find?_some found
      rw [Bool.and_eq_true, beq_iff_eq] at accepted
      unfold entry?
      rw [accepted.2, known]
      split <;> rfl

end ElementRule

/-- What is reported on the way is among the diagnostics. -/
theorem Extensions.mem_diagnostics_of_report {extensions : Extensions σ} {steps : List Step}
    {diagnostic : Diagnostic} (among : .report diagnostic ∈ steps) :
    diagnostic ∈ (extensions.performAll steps).1.flatMap Outcome.diagnostics := by
  induction steps generalizing extensions with
  | nil => cases among
  | cons step rest ih =>
      rw [performAll_cons, List.flatMap_cons, List.mem_append]
      rcases List.mem_cons.mp among with rfl | later
      · exact .inl List.mem_cons_self
      · exact .inr (ih later)

namespace ElementRule

variable {rule : ElementRule} {element : Element}

/-- What is collected is what the rule records, whatever other extensions answer. -/
theorem values_collect (rule : ElementRule) (element : Element) (policy : WarningPolicy)
    (extensions : Extensions σ) :
    (rule.collect (.start element policy) extensions).values = rule.valuesOf element :=
  congrArg Collection.values (rule.collect_eq element policy extensions)

/-- Collecting reports what the steps of the rule's plan come to. -/
theorem diagnostics_collect (rule : ElementRule) (element : Element) (policy : WarningPolicy)
    (extensions : Extensions σ) :
    (rule.collect (.start element policy) extensions).scope.diagnostics =
      ((extensions.performAll (rule.plan element)).1.flatMap Outcome.diagnostics).filterMap
        policy.apply := by
  have ran := congrArg (·.scope.diagnostics) (rule.collect_eq element policy extensions)
  simpa only [Scope.run, Scope.foldl_merge_eq, Scope.start, List.nil_append] using ran

/-- No error is reported by a rule whose collecting ends without one. -/
theorem isError_of_mem_plan {policy : WarningPolicy} {extensions : Extensions σ}
    (errorless : (rule.collect (.start element policy) extensions).scope.hasErrors = false)
    {diagnostic : Diagnostic} (among : .report diagnostic ∈ rule.plan element) :
    diagnostic.isError = false := by
  rw [Scope.hasErrors, diagnostics_collect, Diagnostic.anyError, List.any_eq_false] at errorless
  by_contra isError
  rw [Bool.not_eq_false] at isError
  refine errorless diagnostic (List.mem_filterMap.mpr ⟨diagnostic, ?_, ?_⟩) isError
  · exact Extensions.mem_diagnostics_of_report among
  · exact policy.apply_of_isError isError

/-- An attribute under a rule is known to it and legal if collecting ends without an error. -/
theorem exists_read_of_errorless {policy : WarningPolicy} {extensions : Extensions σ}
    (errorless : (rule.collect (.start element policy) extensions).scope.hasErrors = false)
    {attr : Attribute} (among : attr ∈ element.ruledAttributes) :
    ∃ attrRule value, rule.find? attr.name.localName = some attrRule ∧
      attrRule.kind.read element attr = (value, none) := by
  obtain ⟨inside, ruled⟩ := List.mem_filter.mp among
  have planned {step : Step} (made : step ∈ rule.attributePlan element attr) :
      step ∈ rule.plan element :=
    List.mem_append_left _ (List.mem_flatMap.mpr ⟨attr, inside, made⟩)
  rw [attributePlan, if_pos ruled] at planned
  cases known : rule.find? attr.name.localName with
  | none =>
      simp only [known] at planned
      have reported := isError_of_mem_plan errorless (planned List.mem_cons_self)
      cases reported
  | some attrRule =>
      simp only [known] at planned
      refine ⟨attrRule, _, rfl, Prod.ext rfl ?_⟩
      cases refuses : (attrRule.kind.read element attr).2 with
      | none => rfl
      | some refusal =>
          rw [refuses] at planned
          have reported := isError_of_mem_plan errorless (planned List.mem_cons_self)
          rw [(ValueKind.reports_of_read inside refuses).isError] at reported
          cases reported

/--
If collecting the attributes of an element ends without an error, each of them is known and legal.
One whose local name no other of them has is the one that is found by it, with its value.
-/
theorem source?_collect (rule : ElementRule) (element : Element) (policy : WarningPolicy)
    (extensions : Extensions σ)
    (errorless : (rule.collect (.start element policy) extensions).scope.hasErrors = false) :
    let values := (rule.collect (.start element policy) extensions).values
    ∀ attr ∈ element.ruledAttributes, ∃ attrRule value,
      rule.find? attr.name.localName = some attrRule ∧
        attrRule.kind.read element attr = (value, none) ∧
        ((∀ other ∈ element.ruledAttributes,
            other.name.localName = attr.name.localName → other = attr) →
          values.source? attr.name.localName = some attr ∧
            values.get? attr.name.localName = some value) := by
  intro values attr among
  obtain ⟨attrRule, value, known, legal⟩ := exists_read_of_errorless errorless among
  refine ⟨attrRule, value, known, legal, fun alone => ?_⟩
  have collected : values = rule.valuesOf element :=
    rule.values_collect element policy extensions
  have found : element.ruledAttributes.find? (·.name.localName == attr.name.localName) =
      some attr :=
    Lookup.find?_eq_some_of_unique among (beq_self_eq_true _) fun other inside same =>
      alone other inside (eq_of_beq same)
  have recorded : values.entry? attr.name.localName =
      some ⟨attr.name.localName, value, attr⟩ := by
    have read := congrArg Prod.fst legal
    rw [collected, entry?_valuesOf, found, Option.bind_some, entry?_eq_some]
    exact ⟨(List.mem_filter.mp among).2, attrRule, known, by rw [read]⟩
  rw [CollectedAttributes.source?, CollectedAttributes.get?, recorded]
  exact ⟨rfl, rfl⟩

/-- A flag in the extension's namespace counts like one in none. -/
theorem source?_collect_flagged :
    let attr (uri : Option String) (localName value : String) : Attribute :=
      ⟨⟨uri, localName, none⟩, default, value, default⟩
    let flag := attr (some ownNamespace) "ShowVersion" "Yes"
    let element := { bareElement ownNamespace "WixStandardBootstrapperApplication" with
      attributes := [flag, attr none "LicenseUrl" ""] }
    let collected := StandardUi.rule.collect (.start element {}) (.empty : Extensions Unit)
    collected.scope.hasErrors = false ∧ flag ∈ element.ruledAttributes ∧
      collected.values.source? "ShowVersion" = some flag ∧
      collected.values.get? "ShowVersion" = some (.yesNo .yes) := by
  intro attr flag element collected
  have errorless : collected.scope.hasErrors = false := by decide +kernel
  have among : flag ∈ element.ruledAttributes := by decide +kernel
  have alone : ∀ other ∈ element.ruledAttributes,
      other.name.localName = flag.name.localName → other = flag := by decide +kernel
  obtain ⟨attrRule, value, known, legal, found⟩ :=
    source?_collect StandardUi.rule element {} .empty errorless flag among
  have rule : StandardUi.rule.find? "ShowVersion" = some ⟨"ShowVersion", .yesNo, .optional⟩ := by
    decide +kernel
  obtain rfl := Option.some.inj (rule.symm.trans known)
  have answer : value = .yesNo .yes := by
    have read : (ValueKind.yesNo.read element flag).1 = .yesNo .yes := by decide +kernel
    rw [← read]
    exact (congrArg Prod.fst legal).symm
  obtain ⟨source, held⟩ := found alone
  exact ⟨errorless, among, source, held.trans (congrArg some answer)⟩

/-- Of a message in no namespace and one in the extension's the second is dropped. -/
theorem source?_collect_twice :
    let input := ("<Bundle xmlns:bal='" ++ ownNamespace ++
      "'><bal:Condition Message='a' bal:Message='b'>X</bal:Condition></Bundle>").toList
    let collected (element : Element) :=
      LaunchCondition.rule.collect (.start element {}) (.empty : Extensions Unit)
    let session : Session Unit := .start {} .empty
    ∃ document condition dropped, Document.read default input = .ok document ∧
      document.root.childElements = [condition] ∧
      (collected condition).scope.hasErrors = false ∧ dropped ∈ condition.ruledAttributes ∧
      dropped.name.written = "bal:Message" ∧
      (collected condition).values.source? "Message" ≠ some dropped ∧
      (session.compile document).1.diagnostics = [] ∧
      (session.compile document).1.rows.map Row.fields =
        [[some (.text "X"), some (.text "a")]] := by
  intro input collected session
  have facts : (Document.read default input).toOption.map (fun document =>
      document.root.childElements.map fun element =>
        ((collected element).scope.hasErrors, element.ruledAttributes.map (·.name.written),
          ((collected element).values.source? "Message").map (·.name.written))) =
      some [(false, ["Message", "bal:Message"], some "Message")] := by
    decide +kernel
  have output : (Document.read default input).toOption.map (fun document =>
      ((session.compile document).1.diagnostics,
        (session.compile document).1.rows.map Row.fields)) =
      some ([], [[some (.text "X"), some (.text "a")]]) := by
    decide +kernel
  obtain ⟨document, reads, children⟩ := Document.exists_of_map_read facts
  rw [reads] at output
  obtain ⟨diagnostics, rows⟩ := Prod.mk.inj (Option.some.inj output)
  obtain ⟨condition, inside, seen⟩ := List.map_eq_singleton_iff.mp children
  simp only [Prod.mk.injEq] at seen
  obtain ⟨errorless, attributes, source⟩ := seen
  have listed : "bal:Message" ∈ condition.ruledAttributes.map (·.name.written) := by
    rw [attributes]
    decide
  obtain ⟨dropped, among, written⟩ := List.mem_map.mp listed
  refine ⟨document, condition, dropped, reads, inside, errorless, among, written,
    fun found => ?_, diagnostics, rows⟩
  rw [found, Option.map_some, written] at source
  exact absurd source (by decide)

end ElementRule
end BundleMarkup
