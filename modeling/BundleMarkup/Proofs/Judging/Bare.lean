import BundleMarkup.Proofs.Judging.Walk

/-!
# Judging without other extensions

Where no other extension is registered, what would be handed over is reported as unsupported.  Every
part then comes to an outcome that its plan and its rows alone determine, whatever was judged
before.
-/

namespace BundleMarkup

variable {σ : Type}

/-- What a step reports if no other extension has a say. -/
def Step.diagnostic : Step → Diagnostic
  | report diagnostic => diagnostic
  | delegateAttribute bearer attr => Message.unsupportedExtensionAttribute bearer attr
  | delegateElement parent element => Message.unsupportedExtensionElement parent element

namespace Extensions

/-- Without extensions a step comes to what it reports. -/
theorem performAll_empty (steps : List Step) :
    (empty : Extensions σ).performAll steps =
      ((steps.map Step.diagnostic).map .ofDiagnostic, empty) := by
  induction steps with
  | nil => rfl
  | cons step rest ih =>
      have first : (empty : Extensions σ).perform step =
          (.ofDiagnostic step.diagnostic, empty) := by
        cases step <;> rfl
      rw [performAll_cons, first, ih]
      rfl

end Extensions

/-- Diagnostics that are settled go through the policy. -/
theorem Outcome.settle_map_ofDiagnostic (policy : WarningPolicy) (diagnostics : List Diagnostic)
    (own : List Row) :
    settle policy (diagnostics.map ofDiagnostic) own =
      .of (diagnostics.filterMap policy.apply) own := by
  rw [settle, flatMap_diagnostics_ofDiagnostic, flatMap_rows_ofDiagnostic, List.nil_append]

namespace Part

/-- What a part comes to under a policy if no other extension has a say. -/
def outcome (policy : WarningPolicy) (part : Part) : Outcome :=
  .of ((part.plan.map Step.diagnostic).filterMap policy.apply) part.ownRows

variable {session : Session σ} (bare : session.extensions = .empty)

include bare

theorem judge_empty (part : Part) : (part.judge session).1 = part.outcome session.policy := by
  rw [judge_outcome, bare, Extensions.performAll_empty, Outcome.settle_map_ofDiagnostic, outcome]

theorem judgeAll_empty (parts : List Part) :
    (judgeAll session parts).1 = parts.map (outcome session.policy) := by
  induction parts generalizing session with
  | nil => rfl
  | cons part rest ih =>
      have later : (part.judge session).2.extensions = .empty := by
        rw [judge_extensions, bare, Extensions.performAll_empty]
      rw [judgeAll_cons, ih later, judge_policy, judge_empty bare]
      rfl

end Part

/-- Without other extensions a compiled document is what its parts come to, each by itself. -/
theorem Session.compile_empty {session : Session σ} (bare : session.extensions = .empty)
    (document : Document) :
    (session.compile document).1 =
      .ofOutcomes ((Part.ofHost document.root).map (Part.outcome session.policy)) := by
  rw [compile_eq, Part.judgeAll_empty bare]

end BundleMarkup
