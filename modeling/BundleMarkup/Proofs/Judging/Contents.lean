import BundleMarkup.Proofs.Judging.Acceptance

/-!
# What stands inside validated elements

Nothing can stand inside an element that a validator judges but foreign markup.  Any other child
comes to one error at its turn, whatever it bears and contains, and so takes the rows of the element
away.  Judging an element therefore judges its children as elements, but nothing inside these.
-/

namespace BundleMarkup

variable {σ : Type}

namespace Session

/-- Judge children like those of a scope's element, with `again` for elements of the extension. -/
def judgeChildrenBy (again : Session σ → Element → Element → Outcome × Session σ)
    (session : Session σ) (scope : Scope) : List Element → Scope × Session σ
  | [] => (scope, session)
  | child :: rest =>
      let uri := child.name.namespaceUri
      if uri = ownNamespace then
        let (outcome, session) := again session scope.element child
        judgeChildrenBy again session (scope.merge outcome) rest
      else if isHostChild uri then
        let scope := scope.report (Message.unexpectedElement scope.element child)
        judgeChildrenBy again session scope rest
      else
        let (outcome, extensions) := session.extensions.judgeElement scope.element child
        judgeChildrenBy again { session with extensions } (scope.merge outcome) rest

/-- Judge an element of the extension, with `again` for those inside it. -/
def judgeElementBy (again : Session σ → Element → Element → Outcome × Session σ)
    (session : Session σ) (parent element : Element) : Outcome × Session σ :=
  match ElementKind.route? parent.localName element.localName with
  | none =>
      let diagnostic := session.policy.apply (Message.unexpectedElement parent element)
      (.of diagnostic.toList [], session)
  | some kind =>
      let validator := kind.validator
      let collected := validator.rule.collect (.start element session.policy) session.extensions
      let values := collected.values
      let before := collected.scope.reportAll (validator.beforeChildren element values)
      let (scope, session) :=
        judgeChildrenBy again { session with extensions := collected.extensions } before
          element.childElements
      let after := scope.reportAll (validator.afterChildren element values)
      let outcome := after.finish fun _ => validator.rows element values
      (outcome, session.remember kind element outcome)

variable (session : Session σ)

theorem judgeChildren_eq_by (scope : Scope) (children : List Element) :
    session.judgeChildren scope children = judgeChildrenBy judgeElement session scope children := by
  induction children generalizing session scope with
  | nil => rw [judgeChildren, judgeChildrenBy]
  | cons child rest ih => simp only [judgeChildren, judgeChildrenBy, ih]

/-- Judging an element judges those inside it again. -/
theorem judgeElement_eq_by (parent element : Element) :
    session.judgeElement parent element = judgeElementBy judgeElement session parent element := by
  rw [judgeElement, judgeElementBy]
  cases ElementKind.route? parent.localName element.localName with
  | none => rfl
  | some kind => simp only [judgeChildren_eq_by]

variable {again other : Session σ → Element → Element → Outcome × Session σ}

/-- Only the children of the scope's element are judged again. -/
theorem judgeChildrenBy_congr {scope : Scope}
    (agree : ∀ session child, again session scope.element child = other session scope.element child)
    (children : List Element) :
    judgeChildrenBy again session scope children =
      judgeChildrenBy other session scope children := by
  induction children generalizing session scope with
  | nil => rfl
  | cons child rest ih =>
      have merged (later : Session σ) (outcome : Outcome) :
          judgeChildrenBy again later (scope.merge outcome) rest =
            judgeChildrenBy other later (scope.merge outcome) rest :=
        ih later (by rwa [Scope.element_merge])
      simp only [judgeChildrenBy, agree, Scope.report_eq_merge, merged]

/-- Only the children of the element itself are judged again. -/
theorem judgeElementBy_congr {parent element : Element}
    (agree : ∀ session child, again session element child = other session element child) :
    judgeElementBy again session parent element = judgeElementBy other session parent element := by
  cases routed : ElementKind.route? parent.localName element.localName with
  | none => rw [judgeElementBy, judgeElementBy, routed]
  | some kind =>
      let collected := kind.validator.rule.collect (.start element session.policy)
        session.extensions
      let before := collected.scope.reportAll
        (kind.validator.beforeChildren element collected.values)
      have bearer : before.element = element := by
        simp [before, collected, ElementRule.collect_eq, Scope.reportAll_eq, Scope.start]
      have same : ∀ session child, again session before.element child =
          other session before.element child := by rwa [bearer]
      have children := judgeChildrenBy_congr { session with extensions := collected.extensions }
        same element.childElements
      rw [judgeElementBy, judgeElementBy, routed]
      simp only
      rw [children]

theorem judgeElementBy_of_route?_eq_none {parent element : Element}
    (unrouted : ElementKind.route? parent.localName element.localName = none) :
    judgeElementBy again session parent element = session.judgeElement parent element := by
  rw [judgeElement_eq_by, judgeElementBy, judgeElementBy, unrouted]

/-- What is judged inside an element that is allowed is not allowed there, so nothing is judged
inside it in turn. -/
theorem judgeElementBy_judgeElementBy {parent element : Element} {kind : ElementKind}
    (routed : ElementKind.route? parent.localName element.localName = some kind) :
    judgeElementBy (judgeElementBy again) session parent element =
      session.judgeElement parent element := by
  rw [judgeElement_eq_by]
  exact session.judgeElementBy_congr fun later _ =>
    later.judgeElementBy_of_route?_eq_none (ElementKind.route?_eq_none routed)

end Session

theorem ElementRule.code_of_mem_conflicts {rule : ElementRule} {element : Element}
    {values : CollectedAttributes} {diagnostic : Diagnostic}
    (among : diagnostic ∈ rule.conflicts element values) : diagnostic.code = some "B-4-1" := by
  obtain ⟨group, _, made⟩ := List.mem_filterMap.mp among
  unfold conflict? at made
  split at made <;> cases made
  rfl

theorem Diagnostic.filter_code_eq_nil {diagnostics : List Diagnostic} {code : Option String}
    (apart : ∀ diagnostic ∈ diagnostics, diagnostic.code ≠ code) :
    diagnostics.filter (·.code == code) = [] := by
  simpa [List.filter_eq_nil_iff] using apart

/-- Under the code of unexpected elements a validator reports the children that do not belong. -/
theorem Validator.filter_unexpectedElement_reports (kind : ElementKind) (element : Element) :
    (kind.validator.reports element).filter (·.code == some "B-1-1") =
      element.misplacedChildren.map (Message.unexpectedElement element) := by
  let values := kind.validator.rule.valuesOf element
  have faults : (element.ruledAttributes.filterMap
      (kind.validator.rule.fault? element)).filter (·.code == some "B-1-1") = [] := by
    refine Diagnostic.filter_code_eq_nil fun diagnostic among => ?_
    obtain ⟨attr, _, found⟩ := List.mem_filterMap.mp among
    rcases ElementRule.code_of_fault? found with known | known | known <;> simp [known]
  have demands (diagnostics : List Diagnostic)
      (demanded : ∀ diagnostic ∈ diagnostics, element.Demands diagnostic) :
      diagnostics.filter (·.code == some "B-1-1") = [] := by
    refine Diagnostic.filter_code_eq_nil fun diagnostic among unexpected => ?_
    have known := (demanded diagnostic among).code
    rw [unexpected] at known
    exact absurd known (by decide)
  have missing := demands (kind.validator.rule.missing element values)
    fun _ => ElementRule.demands_of_mem_missing
  have before := demands (kind.validator.beforeChildren element values)
    fun _ among => Validator.demands_of_mem kind (.inl among)
  have after := demands (kind.validator.afterChildren element values)
    fun _ among => Validator.demands_of_mem kind (.inr among)
  have conflicts : (kind.validator.rule.conflicts element values).filter
      (·.code == some "B-1-1") = [] := by
    refine Diagnostic.filter_code_eq_nil fun diagnostic among => ?_
    simp [ElementRule.code_of_mem_conflicts among]
  have children : (element.misplacedChildren.map (Message.unexpectedElement element)).filter
      (·.code == some "B-1-1") =
        element.misplacedChildren.map (Message.unexpectedElement element) := by
    refine List.filter_eq_self.mpr fun diagnostic among => ?_
    obtain ⟨child, _, rfl⟩ := List.mem_map.mp among
    rfl
  simp only [reports, List.filter_append, faults, missing, conflicts, before, children, after,
    values, List.nil_append, List.append_nil]

namespace Session

section

variable (session : Session σ) {parent element : Element} {kind : ElementKind}

/-- A child that does not belong gives its error and nothing else, whatever is inside it. -/
theorem judgeChildren_cons_of_misplaced {scope : Scope} {host : String}
    (routed : ElementKind.route? host scope.element.localName = some kind) {child : Element}
    (misplaced : child.name.namespaceUri ∈ ["", ownNamespace, hostNamespace])
    (rest : List Element) :
    let diagnostic := Message.unexpectedElement scope.element child
    session.judgeChildren scope (child :: rest) =
      session.judgeChildren { scope with
        diagnostics := scope.diagnostics ++ [diagnostic] } rest := by
  intro diagnostic
  have kept : scope.policy.apply diagnostic = some diagnostic :=
    scope.policy.apply_of_isError rfl
  have reported : scope.merge (.ofDiagnostic diagnostic) =
      { scope with diagnostics := scope.diagnostics ++ [diagnostic] } := by
    rw [← Scope.report_eq_merge, Scope.report_eq, kept]
    rfl
  have allowed : ElementKind.route? host
      ({ scope with diagnostics := scope.diagnostics ++ [diagnostic] } : Scope).element.localName =
        some kind := routed
  have said : Validator.childStep scope.element child = .report diagnostic := by
    rw [Validator.childStep_eq, if_pos misplaced]
  rw [session.judgeChildren_eq routed, session.judgeChildren_eq allowed, List.map_cons,
    Scope.run_cons, said, Extensions.perform, reported]

theorem extensions_remember (outcome : Outcome) :
    (session.remember kind element outcome).extensions = session.extensions := by
  unfold remember
  split <;> rfl

variable (routed : ElementKind.route? parent.localName element.localName = some kind)

include routed

/-- Other extensions are left as by what the element itself hands over. -/
theorem extensions_judgeElement :
    (session.judgeElement parent element).2.extensions =
      (session.extensions.performAll element.delegations).2 := by
  rw [session.judgeElement_of_route?_eq_some routed]
  simp only [extensions_remember]
  rw [Extensions.extensions_performAll, Validator.filter_delegates_plan]

/-- An element with a child that does not belong gives no rows. -/
theorem rows_judgeElement_of_misplaced (misplaced : element.misplacedChildren ≠ []) :
    (session.judgeElement parent element).1.hasErrors = true ∧
      (session.judgeElement parent element).1.rows = [] := by
  have errors : (session.judgeElement parent element).1.hasErrors = true := by
    rw [← Bool.not_eq_false, session.hasErrors_judgeElement routed]
    rintro ⟨silent, _⟩
    have children := Validator.filter_unexpectedElement_reports kind element
    rw [silent, List.filter_nil] at children
    exact misplaced (List.map_eq_nil_iff.mp children.symm)
  exact ⟨errors, (session.judgeElement parent element).1.rows_eq_nil errors⟩

end

/--
Whatever is inside an element that is allowed, each child of the extension's or the host's adds one
error at its turn, which no policy changes, and nothing else.  These errors are all that the
validator reports of children, other extensions hear only of the foreign attributes and children of
the element itself, and with such a child the element gives no rows.  So judging the element judges
children as elements, but nothing that is inside them.
-/
theorem judgeElement_contents (session : Session σ) {parent element : Element}
    {kind : ElementKind}
    (routed : ElementKind.route? parent.localName element.localName = some kind) :
    let judged := session.judgeElement parent element
    let answered := ((session.delegated element).flatMap Outcome.diagnostics).filterMap
      session.policy.apply
    (∀ (later : Session σ) (scope : Scope) (child : Element) (rest : List Element),
      scope.element = element →
      child.name.namespaceUri ∈ ["", ownNamespace, hostNamespace] →
      later.judgeChildren scope (child :: rest) =
        later.judgeChildren { scope with
          diagnostics := scope.diagnostics ++ [Message.unexpectedElement element child] } rest) ∧
    (∃ own, own.Sublist judged.1.diagnostics ∧ judged.1.diagnostics.Perm (own ++ answered) ∧
      own.filter (·.code == some "B-1-1") =
        element.misplacedChildren.map (Message.unexpectedElement element)) ∧
    judged.2.extensions = (session.extensions.performAll element.delegations).2 ∧
    (element.misplacedChildren ≠ [] → judged.1.hasErrors = true ∧ judged.1.rows = []) ∧
    judgeElementBy judgeElement session parent element = judged ∧
    ∀ again, judgeElementBy (judgeElementBy again) session parent element = judged := by
  intro judged answered
  refine ⟨?_, ⟨_, session.sublist_diagnostics_judgeElement routed,
    session.perm_diagnostics_judgeElement routed,
    Validator.filter_unexpectedElement_reports kind element⟩,
    session.extensions_judgeElement routed, session.rows_judgeElement_of_misplaced routed,
    (session.judgeElement_eq_by parent element).symm,
    fun _ => session.judgeElementBy_judgeElementBy routed⟩
  rintro later scope child rest rfl misplaced
  exact later.judgeChildren_cons_of_misplaced routed misplaced rest

/-- A condition with a condition inside it that has an owner, a host element and a note: the owner
of the inner one is heard by nobody, the note is, and no row is left. -/
theorem judgeElement_contents_nested :
    let bundle := bareElement hostNamespace "Bundle"
    let inner := { bareElement ownNamespace "Condition" with attributes := [ownerNote] }
    let outer := { bareElement ownNamespace "Condition" with
      attributes := [⟨⟨none, "Message", none⟩, default, "m", default⟩]
      children := .mixed [.text "A" default, .element inner,
        .element (bareElement hostNamespace "Chain"), .element (bareElement "urn:notes" "Note")] }
    let counter : Extension Nat :=
      { namespaceUri := "urn:notes"
        onAttribute := fun count _ _ => (.empty, count + 1)
        onElement := fun count _ element =>
          (.ofRows [.linkVariable element.localName "" element.span], count + 1) }
    let session : Session Nat := .start { suppressAll := true } ⟨[⟨counter, 0⟩]⟩
    let judged := session.judgeElement bundle outer
    ElementKind.route? bundle.localName outer.localName = some .condition ∧
      outer.misplacedChildren = [inner, bareElement hostNamespace "Chain"] ∧
      judged.1.rows = [] ∧ judged.2.extensions = ⟨[⟨counter, 1⟩]⟩ ∧
      ∃ own, judged.1.diagnostics.Perm own ∧ own.filter (·.code == some "B-1-1") =
        [Message.unexpectedElement outer inner,
          Message.unexpectedElement outer (bareElement hostNamespace "Chain")] := by
  intro bundle inner outer counter session judged
  have routed : ElementKind.route? bundle.localName outer.localName = some .condition := rfl
  have misplaced : outer.misplacedChildren = [inner, bareElement hostNamespace "Chain"] := rfl
  obtain ⟨_, ⟨own, _, split, children⟩, left, rowless, _⟩ := session.judgeElement_contents routed
  have silent : ((session.delegated outer).flatMap Outcome.diagnostics).filterMap
      session.policy.apply = [] := by
    decide +kernel
  rw [silent, List.append_nil] at split
  rw [misplaced] at children rowless
  exact ⟨routed, misplaced, (rowless (List.cons_ne_nil _ _)).2, left, own, split, children⟩

end Session
end BundleMarkup
