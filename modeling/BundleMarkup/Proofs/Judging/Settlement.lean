import BundleMarkup.Proofs.Judging.Plan

/-!
# Settlement

Judging a part comes to three things: its plan is carried out, the diagnostics of all its outcomes
go through the warning policy, and if no error is among them the rows of the outcomes and then the
part's own are kept.  `Part.judge_outcome` says so of every kind of part, however errors and rows
came together in the scopes that were opened on the way.
-/

namespace BundleMarkup

variable {σ : Type}

namespace Outcome

/-- What outcomes and rows of a part's own come to under a policy. -/
def settle (policy : WarningPolicy) (outcomes : List Outcome) (own : List Row) : Outcome :=
  .of ((outcomes.flatMap diagnostics).filterMap policy.apply) (outcomes.flatMap rows ++ own)

end Outcome

namespace Scope

/-- Carry out steps and take their outcomes in. -/
def run (scope : Scope) (extensions : Extensions σ) (steps : List Step) : Scope × Extensions σ :=
  let (outcomes, extensions) := extensions.performAll steps
  (outcomes.foldl merge scope, extensions)

@[simp]
theorem run_nil (scope : Scope) (extensions : Extensions σ) :
    scope.run extensions [] = (scope, extensions) := rfl

theorem run_append (scope : Scope) (extensions : Extensions σ) (front back : List Step) :
    scope.run extensions (front ++ back) =
      (scope.run extensions front).1.run (scope.run extensions front).2 back := by
  simp [run, Extensions.performAll_append, List.foldl_append]

theorem run_cons (scope : Scope) (extensions : Extensions σ) (step : Step) (rest : List Step) :
    scope.run extensions (step :: rest) =
      (scope.merge (extensions.perform step).1).run (extensions.perform step).2 rest := rfl

theorem run_report (scope : Scope) (extensions : Extensions σ) (diagnostics : List Diagnostic) :
    scope.run extensions (diagnostics.map .report) = (scope.reportAll diagnostics, extensions) := by
  induction diagnostics generalizing scope with
  | nil => rfl
  | cons first rest ih =>
      rw [List.map_cons, run_cons, Extensions.perform, ← report_eq_merge, ih]
      rfl

theorem foldl_merge_eq (scope : Scope) (outcomes : List Outcome) :
    outcomes.foldl merge scope =
      { scope with
        diagnostics := scope.diagnostics ++
          (outcomes.flatMap Outcome.diagnostics).filterMap scope.policy.apply
        rows := scope.rows ++ outcomes.flatMap Outcome.rows } := by
  induction outcomes generalizing scope with
  | nil => simp
  | cons first rest ih => rw [List.foldl_cons, ih, merge_eq]; simp

@[simp]
theorem element_run (scope : Scope) (extensions : Extensions σ) (steps : List Step) :
    (scope.run extensions steps).1.element = scope.element := by
  simp [run, foldl_merge_eq]

/-- A scope that was run from its start is settled when it is closed. -/
theorem finish_run (element : Element) (policy : WarningPolicy) (extensions : Extensions σ)
    (steps : List Step) (own : List Row) :
    ((start element policy).run extensions steps).1.finish (fun _ => own) =
      .settle policy (extensions.performAll steps).1 own := by
  simp [finish_eq, run, foldl_merge_eq, start, Outcome.settle]

end Scope

namespace ElementRule

variable (rule : ElementRule)

/-- One attribute takes the steps of its plan and is recorded if it is one of the rule's. -/
theorem collectOne_eq (done : Collection σ) (attr : Attribute) :
    let ran := done.scope.run done.extensions (rule.attributePlan done.scope.element attr)
    rule.collectOne done attr =
      ⟨ran.1, ran.2, ⟨done.values.entries ++ (rule.entry? done.scope.element attr).toList⟩⟩ := by
  unfold collectOne attributePlan entry?
  by_cases ours : attr.name.isUnqualifiedOrIn ownNamespace = true
  · cases found : rule.find? attr.name.localName with
    | none => simp [ours, Scope.run_cons, Extensions.perform, Scope.report_eq_merge]
    | some attrRule => simp [ours, Scope.run_report, CollectedAttributes.push]
  · simp [ours, Scope.run_cons, Extensions.perform, Scope.delegate]

theorem foldl_collectOne_eq (done : Collection σ) (attributes : List Attribute) :
    let element := done.scope.element
    let ran := done.scope.run done.extensions (attributes.flatMap (rule.attributePlan element))
    attributes.foldl rule.collectOne done =
      ⟨ran.1, ran.2,
        ⟨done.values.entries ++ attributes.filterMap (rule.entry? element)⟩⟩ := by
  induction attributes generalizing done with
  | nil => simp
  | cons first rest ih =>
      rw [List.foldl_cons, ih, collectOne_eq]
      cases recorded : rule.entry? done.scope.element first <;>
        simp [Scope.run_append, recorded]

/-- Collecting takes the steps of the rule's plan and records the attributes of the rule. -/
theorem collect_eq (element : Element) (policy : WarningPolicy) (extensions : Extensions σ) :
    let ran := (Scope.start element policy).run extensions (rule.plan element)
    rule.collect (.start element policy) extensions = ⟨ran.1, ran.2, rule.valuesOf element⟩ := by
  have recorded : (⟨[] ++ element.attributes.filterMap (rule.entry? element)⟩ :
      CollectedAttributes) = rule.valuesOf element := rfl
  simp only [collect, foldl_collectOne_eq, plan, Scope.run_append, List.map_append]
  simp only [Scope.run_report, Scope.start] at recorded ⊢
  rw [recorded]

end ElementRule

namespace ElementKind

theorem hostKind_eq_none {name : String} {kind : ElementKind} (named : named? name = some kind) :
    HostKind.named? name = none := by
  unfold named? at named
  split at named
  · rfl
  · rfl
  · rfl
  · cases named

/-- No element of the extension is allowed within one that was itself allowed. -/
theorem route?_eq_none {hostName elementName childName : String} {kind : ElementKind}
    (routed : route? hostName elementName = some kind) : route? elementName childName = none := by
  have named : ∃ own, named? elementName = some own := by
    unfold route? at routed
    cases own : named? elementName with
    | none => simp [own] at routed
    | some found => exact ⟨found, rfl⟩
  obtain ⟨own, named⟩ := named
  rw [route?, hostKind_eq_none named]
  rfl

end ElementKind

namespace Session

variable (session : Session σ)

/-- An element that is not allowed is reported and nothing else is done about it. -/
theorem judgeElement_of_route?_eq_none {parent element : Element}
    (unrouted : ElementKind.route? parent.localName element.localName = none) :
    session.judgeElement parent element =
      (.ofDiagnostic (Message.unexpectedElement parent element), session) := by
  have kept := session.policy.apply_of_isError
    (show (Message.unexpectedElement parent element).isError = true from rfl)
  rw [judgeElement]
  simp [unrouted, kept, Outcome.ofDiagnostic]

/-- The children of an element that is allowed take their steps, one after another. -/
theorem judgeChildren_eq {scope : Scope} {host : String} {kind : ElementKind}
    (routed : ElementKind.route? host scope.element.localName = some kind)
    (children : List Element) :
    let ran := scope.run session.extensions (children.map (Validator.childStep scope.element))
    session.judgeChildren scope children = (ran.1, { session with extensions := ran.2 }) := by
  induction children generalizing session scope with
  | nil => simp [judgeChildren]
  | cons child rest ih =>
      rw [judgeChildren, List.map_cons, Scope.run_cons]
      by_cases own : child.name.namespaceUri = ownNamespace
      · have unrouted : session.judgeElement scope.element child = _ :=
          session.judgeElement_of_route?_eq_none (ElementKind.route?_eq_none routed)
        simp [own, unrouted, Validator.childStep, Extensions.perform, ih, routed]
      · by_cases hosts : isHostChild child.name.namespaceUri = true
        · simp [own, hosts, Validator.childStep, Extensions.perform, Scope.report_eq_merge, ih,
            routed]
        · simp [own, hosts, Validator.childStep, Extensions.perform, ih, routed]

/-- The plan of an element runs in four stages: attributes, reports, children, reports. -/
theorem run_plan (scope : Scope) (extensions : Extensions σ) (validator : Validator)
    (element : Element) :
    let values := validator.rule.valuesOf element
    let collected := scope.run extensions (validator.rule.plan element)
    let walked := (collected.1.reportAll (validator.beforeChildren element values)).run
      collected.2 (element.childElements.map (Validator.childStep element))
    scope.run extensions (validator.plan element) =
      (walked.1.reportAll (validator.afterChildren element values), walked.2) := by
  simp [Validator.plan, Scope.run_append, Scope.run_report]

/-- What an element of the extension comes to that is allowed. -/
theorem judgeElement_of_route?_eq_some {parent element : Element} {kind : ElementKind}
    (routed : ElementKind.route? parent.localName element.localName = some kind) :
    let performed := session.extensions.performAll (kind.validator.plan element)
    let outcome := Outcome.settle session.policy performed.1 (kind.validator.ownRows element)
    session.judgeElement parent element =
      (outcome, { session with extensions := performed.2 }.remember kind element outcome) := by
  let opened := Scope.start element session.policy
  let collected := opened.run session.extensions (kind.validator.rule.plan element)
  let before := collected.1.reportAll
    (kind.validator.beforeChildren element (kind.validator.rule.valuesOf element))
  have bearer : before.element = element := by
    simp [before, collected, opened, Scope.reportAll_eq, Scope.start]
  have allowed : ElementKind.route? parent.localName before.element.localName = some kind := by
    rw [bearer]
    exact routed
  have children := judgeChildren_eq { session with extensions := collected.2 } allowed
    element.childElements
  have whole := run_plan opened session.extensions kind.validator element
  have settled := Scope.finish_run element session.policy session.extensions
    (kind.validator.plan element) (kind.validator.ownRows element)
  rw [judgeElement]
  simp only [routed, ElementRule.collect_eq]
  rw [bearer] at children
  have performed : (session.extensions.performAll (kind.validator.plan element)).2 =
      (opened.run session.extensions (kind.validator.plan element)).2 := rfl
  rw [performed, ← settled, whole]
  change Prod.mk (Scope.finish _ _) _ = _
  rw [children]
  rfl

end Session

namespace Outcome

theorem settle_singleton (policy : WarningPolicy) (outcome : Outcome) :
    settle policy [outcome] [] = outcome.applyPolicy policy := by
  simp [settle, applyPolicy]

/-- An error by itself is settled as it is under every policy. -/
theorem settle_ofDiagnostic (policy : WarningPolicy) {diagnostic : Diagnostic}
    (isError : diagnostic.isError = true) :
    settle policy [.ofDiagnostic diagnostic] [] = .ofDiagnostic diagnostic := by
  have kept := policy.apply_of_isError isError
  rw [settle_singleton]
  simp [applyPolicy, ofDiagnostic, kept, rows_of]

theorem flatMap_diagnostics_ofDiagnostic (diagnostics : List Diagnostic) :
    (diagnostics.map ofDiagnostic).flatMap Outcome.diagnostics = diagnostics := by
  induction diagnostics with
  | nil => rfl
  | cons first rest ih => simpa [ofDiagnostic] using ih

theorem flatMap_rows_ofDiagnostic (diagnostics : List Diagnostic) :
    (diagnostics.map ofDiagnostic).flatMap Outcome.rows = [] := by
  simp [ofDiagnostic, rows_of]

end Outcome

/-- The extension's attributes on a host element are settled like any other part. -/
theorem HostAttributes.judge_eq (policy : WarningPolicy) (parent : Element)
    (attributes : List Attribute) :
    judge policy parent attributes =
      .settle policy ((problems parent attributes).map .ofDiagnostic)
        (ownRows parent attributes) := by
  rw [Outcome.settle, Outcome.flatMap_diagnostics_ofDiagnostic, Outcome.flatMap_rows_ofDiagnostic]
  unfold judge problems ownRows
  cases HostKind.named? parent.localName with
  | none => simp [Scope.finish_eq, Scope.reportAll_eq, Scope.start]
  | some kind => cases kind <;> simp [Scope.finish_eq, Scope.reportAll_eq, Scope.start]

namespace Part

variable (session : Session σ) (part : Part)

/-- Judging a part carries its plan out and settles what comes of it. -/
theorem judge_eq :
    let performed := session.extensions.performAll part.plan
    ∃ latch, part.judge session =
      (.settle session.policy performed.1 part.ownRows,
        { session with extensions := performed.2, firstCondition := latch }) := by
  cases part with
  | foreignAttribute host attr =>
      refine ⟨session.firstCondition, ?_⟩
      simp only [plan, ownRows, Extensions.performAll_cons, Extensions.performAll_nil,
        Outcome.settle_singleton]
      rfl
  | foreignElement host element =>
      refine ⟨session.firstCondition, ?_⟩
      simp only [plan, ownRows, Extensions.performAll_cons, Extensions.performAll_nil,
        Outcome.settle_singleton]
      rfl
  | ownAttributes host attributes =>
      refine ⟨session.firstCondition, ?_⟩
      simp only [plan, ownRows, Extensions.performAll_report, judge, Session.judgeAttributes,
        HostAttributes.judge_eq]
  | ownElement host element =>
      cases routed : ElementKind.route? host.localName element.localName with
      | none =>
          refine ⟨session.firstCondition, ?_⟩
          have settled := Outcome.settle_ofDiagnostic session.policy
            (show (Message.unexpectedElement host element).isError = true from rfl)
          simp only [plan, ownRows, routed, judge, Extensions.performAll_cons,
            Extensions.performAll_nil, Extensions.perform, settled,
            session.judgeElement_of_route?_eq_none routed]
      | some kind =>
          simp only [plan, ownRows, routed, judge, session.judgeElement_of_route?_eq_some routed]
          unfold Session.remember
          split
          · exact ⟨some element.span, rfl⟩
          · exact ⟨session.firstCondition, rfl⟩

theorem judge_outcome :
    (part.judge session).1 =
      .settle session.policy (session.extensions.performAll part.plan).1 part.ownRows := by
  obtain ⟨latch, judged⟩ := judge_eq session part
  rw [judged]

theorem judge_extensions :
    (part.judge session).2.extensions = (session.extensions.performAll part.plan).2 := by
  obtain ⟨latch, judged⟩ := judge_eq session part
  rw [judged]

theorem judge_policy : (part.judge session).2.policy = session.policy := by
  obtain ⟨latch, judged⟩ := judge_eq session part
  rw [judged]

end Part
end BundleMarkup
