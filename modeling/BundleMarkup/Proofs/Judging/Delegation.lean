import BundleMarkup.Proofs.Judging.Isolation
import BundleMarkup.Proofs.Judging.Recording
import BundleMarkup.Proofs.Judging.Reports

/-!
# Delegation

What compiling a document hands to other extensions is told by the plans of its parts.  A part that
stands on a host element hands over foreign markup only.  Within an element of the extension another
test decides, and it takes attributes of the host language and markup in the namespace of `xml` for
foreign.
-/

namespace BundleMarkup

variable {σ : Type}

/-- The namespace of the markup that a call is about. -/
def Call.uri : Call → String
  | .attr _ handed => handed.name.namespaceUri
  | .element _ handed => handed.name.namespaceUri

/-- The call that a step makes, if it makes one. -/
def Step.call? : Step → Option Call
  | report _ => none
  | delegateAttribute bearer attr => some (.attr bearer attr)
  | delegateElement parent element => some (.element parent element)

namespace Document

/-- The steps of compiling a document. -/
def plan (document : Document) : List Step := (Part.ofHost document.root).flatMap Part.plan

/-- What compiling a document hands to other extensions, in order. -/
def handed (document : Document) : List Call := document.plan.filterMap Step.call?

end Document

theorem Part.diagnostics_judgeAll (session : Session σ) (parts : List Part) :
    (judgeAll session parts).1.flatMap Outcome.diagnostics =
      ((session.extensions.performAll (parts.flatMap plan)).1.flatMap
        Outcome.diagnostics).filterMap session.policy.apply := by
  induction parts generalizing session with
  | nil => rfl
  | cons part rest ih =>
      have first := congrArg Outcome.diagnostics (judge_outcome session part)
      have later := ih (part.judge session).2
      rw [judge_policy, judge_extensions] at later
      rw [judgeAll_cons, List.flatMap_cons, List.flatMap_cons, later, first,
        Extensions.performAll_append, List.flatMap_append, List.filterMap_append]
      rfl

namespace Session

theorem extensions_compile (session : Session σ) (document : Document) :
    (session.compile document).2.extensions =
      (session.extensions.performAll document.plan).2 := by
  rw [compile_eq, Part.judgeAll_extensions]
  rfl

theorem diagnostics_compile (session : Session σ) (document : Document) :
    (session.compile document).1.diagnostics =
      ((session.extensions.performAll document.plan).1.flatMap Outcome.diagnostics).filterMap
        session.policy.apply := by
  rw [compile_eq]
  exact Part.diagnostics_judgeAll session (Part.ofHost document.root)

end Session

/-- Whether a diagnostic says that no extension takes some markup. -/
def Diagnostic.isUnsupported (diagnostic : Diagnostic) : Bool :=
  diagnostic.code == some "B-5-1" || diagnostic.code == some "B-5-2"

/-- A step hands foreign markup over, or reports something else than that no extension takes it. -/
def Step.IsApart : Step → Prop
  | report diagnostic => diagnostic.isUnsupported = false
  | delegateAttribute _ attr => isForeignMarkup attr.name.namespaceUri = true
  | delegateElement _ element => isForeignMarkup element.name.namespaceUri = true

theorem Element.Reports.isUnsupported {element : Element} {diagnostic : Diagnostic}
    (reports : element.Reports diagnostic) : diagnostic.isUnsupported = false := by
  cases reports <;> rfl

/-- Whether an element has no attribute of the host language and nothing in the namespace of `xml`
among its attributes and children. -/
def Element.isUnmixed (element : Element) : Bool :=
  element.attributes.all (fun attr =>
    attr.name.namespaceUri ≠ hostNamespace && attr.name.namespaceUri ≠ xmlNamespace) &&
    element.childElements.all (·.name.namespaceUri ≠ xmlNamespace)

/-- An attribute that is neither the host language's nor in the namespace of `xml` is foreign if no
rule is about it. -/
theorem Attribute.isForeign_of_outside {attr : Attribute}
    (outside : attr.name.isUnqualifiedOrIn ownNamespace = false)
    (notHost : attr.name.namespaceUri ≠ hostNamespace)
    (notXml : attr.name.namespaceUri ≠ xmlNamespace) :
    isForeignMarkup attr.name.namespaceUri = true := by
  have qualified : attr.name.namespaceUri ≠ "" ∧ attr.name.namespaceUri ≠ ownNamespace := by
    simpa [Name.isUnqualifiedOrIn_eq] using outside
  simp [isForeignMarkup, isHostMarkup, qualified, notHost, notXml]

namespace Validator

variable {parent child element : Element}

theorem isApart_childStep (notXml : child.name.namespaceUri ≠ xmlNamespace) :
    (childStep parent child).IsApart := by
  unfold childStep
  split
  · rfl
  · rename_i outside
    obtain ⟨notOwn, notEmpty, notHost⟩ : child.name.namespaceUri ≠ ownNamespace ∧
        child.name.namespaceUri ≠ "" ∧ child.name.namespaceUri ≠ hostNamespace := by
      simpa [Session.isHostChild] using outside
    simp [Step.IsApart, isForeignMarkup, isHostMarkup, notOwn, notEmpty, notHost, notXml]

/-- An unmixed element hands over foreign markup only. -/
theorem isApart_of_mem_plan {kind : ElementKind} {element : Element}
    (unmixed : element.isUnmixed = true) {step : Step}
    (among : step ∈ kind.validator.plan element) : step.IsApart := by
  obtain ⟨attributes, children⟩ := Bool.and_eq_true_iff.mp unmixed
  obtain ⟨diagnostic, rfl, reports⟩ | ⟨attr, inside, outside, rfl⟩ | ⟨child, inside, rfl⟩ :=
    mem_plan among
  · exact reports.isUnsupported
  · obtain ⟨notHost, notXml⟩ : attr.name.namespaceUri ≠ hostNamespace ∧
        attr.name.namespaceUri ≠ xmlNamespace := by
      simpa using List.all_eq_true.mp attributes attr inside
    exact Attribute.isForeign_of_outside outside notHost notXml
  · have notXml : child.name.namespaceUri ≠ xmlNamespace := by
      simpa using List.all_eq_true.mp children child inside
    exact isApart_childStep notXml

end Validator

/-- A part on a host element hands over foreign markup only, unless it is an element of the
extension that is not unmixed. -/
theorem Part.IsOn.isApart {host : Element} {part : Part} (stands : IsOn host part)
    (unmixed : ∀ element, part = .ownElement host element →
      (ElementKind.route? host.localName element.localName).isSome = true →
      element.isUnmixed = true)
    {step : Step} (among : step ∈ part.plan) : step.IsApart := by
  cases stands with
  | foreignAttribute _ foreign =>
      obtain rfl := List.mem_singleton.mp among
      exact foreign
  | foreignElement _ foreign =>
      obtain rfl := List.mem_singleton.mp among
      exact foreign
  | ownAttributes _ =>
      obtain ⟨diagnostic, member, rfl⟩ := List.mem_map.mp among
      exact (HostAttributes.reports_of_mem_problems
        (List.filter_subset_self _) member).isUnsupported
  | @ownElement child _ _ =>
      cases routed : ElementKind.route? host.localName child.localName with
      | none =>
          simp only [plan, routed] at among
          obtain rfl := List.mem_singleton.mp among
          rfl
      | some kind =>
          simp only [plan, routed] at among
          exact Validator.isApart_of_mem_plan (unmixed child rfl (by rw [routed]; rfl)) among

/-- No element that a validator judges has mixed in what is the host language's or `xml`'s. -/
def Document.IsUnmixed (document : Document) : Prop :=
  ∀ host, Visited document.root host → ∀ element ∈ host.childElements,
    element.name.namespaceUri = ownNamespace →
    (ElementKind.route? host.localName element.localName).isSome = true →
    element.isUnmixed = true

theorem Document.IsUnmixed.isApart {document : Document} (unmixed : document.IsUnmixed)
    {step : Step} (among : step ∈ document.plan) : step.IsApart := by
  obtain ⟨part, member, made⟩ := List.mem_flatMap.mp among
  obtain ⟨host, visited, stands⟩ := Part.mem_ofHost.mp member
  refine stands.isApart (fun element same routed => ?_) made
  subst same
  cases stands with
  | ownElement inside own => exact unmixed host visited element inside own routed

namespace Session

/--
Compiling a document takes the steps of its plan and makes its diagnostics from nothing else.  In an
unmixed document everything that is handed over on the way is foreign, and that no extension takes
markup is reported of what is handed over only.
-/
theorem compile_delegates_foreign (session : Session σ) (document : Document)
    (unmixed : document.IsUnmixed) :
    (session.compile document).2.extensions = (session.extensions.performAll document.plan).2 ∧
      (session.compile document).1.diagnostics =
        ((session.extensions.performAll document.plan).1.flatMap Outcome.diagnostics).filterMap
          session.policy.apply ∧
      (∀ call ∈ document.handed,
        call.uri ∉ ["", ownNamespace, hostNamespace, xmlNamespace]) ∧
      ∀ diagnostic, .report diagnostic ∈ document.plan →
        diagnostic.code ≠ some "B-5-1" ∧ diagnostic.code ≠ some "B-5-2" := by
  refine ⟨session.extensions_compile document, session.diagnostics_compile document, ?_, ?_⟩
  · intro call among
    obtain ⟨step, member, calls⟩ := List.mem_filterMap.mp among
    have apart := unmixed.isApart member
    have foreign : isForeignMarkup call.uri = true := by
      cases step with
      | report diagnostic => cases calls
      | delegateAttribute bearer attr =>
          obtain rfl := Option.some.inj calls
          exact apart
      | delegateElement parent element =>
          obtain rfl := Option.some.inj calls
          exact apart
    obtain ⟨notOwn, notHost⟩ := Part.isForeignMarkup_eq_true.mp foreign
    obtain ⟨notEmpty, notCore, notXml⟩ : call.uri ≠ "" ∧ call.uri ≠ hostNamespace ∧
        call.uri ≠ xmlNamespace := by
      simpa [isHostMarkup, and_assoc] using notHost
    simp [notEmpty, notOwn, notCore, notXml]
  · intro diagnostic among
    have apart : diagnostic.isUnsupported = false := unmixed.isApart among
    simpa [Diagnostic.isUnsupported] using apart

/-- A condition with a note inside a bundle with another: both notes are handed over. -/
theorem compile_delegates_foreign_notes :
    let session : Session Unit := .start {} .empty
    let note := bareElement "urn:notes" "Note"
    let condition := { bareElement ownNamespace "Condition" with
      attributes := [ownerNote]
      children := .ofElements [note] }
    let document : Document := ⟨notedBundle [condition], default⟩
    document.IsUnmixed ∧ document.handed.map Call.uri = ["urn:notes", "urn:notes", "urn:notes"] ∧
      (∀ call ∈ document.handed,
        call.uri ∉ ["", ownNamespace, hostNamespace, xmlNamespace]) ∧
      (session.compile document).1.diagnostics.map Diagnostic.code =
        [some "B-5-1", some "B-5-1", some "B-2-2", some "B-2-1", some "B-5-2"] := by
  intro session note condition document
  have parts : Part.ofHost document.root =
      [.foreignAttribute document.root ownerNote, .ownElement document.root condition] := by
    rw [Part.ofHost_eq]
    rfl
  have unmixed : document.IsUnmixed := by
    intro host visited element inside own _
    have among : .ownElement host element ∈ Part.ofHost document.root :=
      Part.mem_ofHost.mpr ⟨host, visited, .ownElement inside own⟩
    obtain ⟨rfl, rfl⟩ : host = document.root ∧ element = condition := by
      simpa [parts] using among
    rfl
  obtain ⟨_, diagnostics, foreign, _⟩ := compile_delegates_foreign session document unmixed
  have plan : document.plan = [.delegateAttribute document.root ownerNote] ++
      (LaunchCondition.validator.plan condition ++ []) := by
    rw [Document.plan, parts]
    rfl
  refine ⟨unmixed, ?_, foreign, ?_⟩
  · rw [Document.handed, plan]
    decide +kernel
  · rw [diagnostics, plan]
    decide +kernel

/-- A host language attribute, one of `xml` and a child of `xml` in a condition are handed over. -/
theorem compile_delegates_host :
    let session : Session Unit := .start {} .empty
    let input := ("<w:Bundle xmlns:w='" ++ hostNamespace ++ "' xmlns:b='" ++ ownNamespace ++
      "'><b:Condition Message='m' w:a='' xml:a=''>A<xml:a/></b:Condition></w:Bundle>").toList
    ∃ document, Document.read default input = .ok document ∧
      document.handed.map Call.uri = [hostNamespace, xmlNamespace, xmlNamespace] ∧
      (session.compile document).1.diagnostics.map Diagnostic.code =
        [some "B-5-1", some "B-5-1", some "B-5-2"] := by
  intro session input
  have facts : (Document.read default input).toOption.map (fun document =>
      (document.handed.map Call.uri,
        (session.compile document).1.diagnostics.map Diagnostic.code)) =
      some ([hostNamespace, xmlNamespace, xmlNamespace],
        [some "B-5-1", some "B-5-1", some "B-5-2"]) := by
    decide +kernel
  obtain ⟨document, reads, seen⟩ := Document.exists_of_map_read facts
  obtain ⟨handed, codes⟩ := Prod.mk.inj seen
  exact ⟨document, reads, handed, codes⟩

end Session
end BundleMarkup
