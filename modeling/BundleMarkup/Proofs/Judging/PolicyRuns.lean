import BundleMarkup.Proofs.Judging.Recording

/-!
# Runs under different policies

Compiling under a warning policy is compiling under the default one and applying the policy
afterwards, part by part.  The policy is applied in many places while a document is judged, twice to
what passes through a scope, but it never changes which steps are taken: plans know no policy.
-/

namespace BundleMarkup

variable {σ : Type}

/-- Behind a policy there is an error if there was one or a warning is made one. -/
theorem WarningPolicy.anyError_filterMap_apply (policy : WarningPolicy)
    (diagnostics : List Diagnostic) :
    Diagnostic.anyError (diagnostics.filterMap policy.apply) =
      (Diagnostic.anyError diagnostics || diagnostics.any policy.escalates) := by
  induction diagnostics with
  | nil => rfl
  | cons first rest ih =>
      have here := policy.any_isError_apply first
      unfold Diagnostic.anyError at ih ⊢
      cases applied : policy.apply first with
      | none =>
          have silent : first.isError = false ∧ policy.escalates first = false := by
            simpa [applied] using here
          simp [applied, ih, silent]
      | some kept =>
          have raised : kept.isError = (first.isError || policy.escalates first) := by
            simpa [applied] using here
          simp only [List.filterMap_cons, applied, List.any_cons, raised, ih]
          cases first.isError <;> cases policy.escalates first <;> simp

namespace Outcome

/-- Settling under a policy is settling under the default one and applying the policy. -/
theorem settle_eq_applyPolicy (policy : WarningPolicy) (outcomes : List Outcome) (own : List Row) :
    settle policy outcomes own = (settle {} outcomes own).applyPolicy policy := by
  have kept : (outcomes.flatMap diagnostics).filterMap ({} : WarningPolicy).apply =
      outcomes.flatMap diagnostics := by
    simp [WarningPolicy.apply_default]
  rw [settle, settle, kept, applyPolicy, diagnostics_of, rows_of]
  cases found : Diagnostic.anyError (outcomes.flatMap diagnostics) with
  | false => rfl
  | true =>
      have still := policy.anyError_filterMap_apply (outcomes.flatMap diagnostics)
      simp [of, still, found]

/-- A policy takes the rows away from outcomes with a warning that it makes an error. -/
theorem rows_applyPolicy (outcome : Outcome) (policy : WarningPolicy) :
    (outcome.applyPolicy policy).rows =
      if outcome.diagnostics.any policy.escalates then [] else outcome.rows := by
  rw [applyPolicy, rows_of, policy.anyError_filterMap_apply]
  cases found : Diagnostic.anyError outcome.diagnostics with
  | false => rfl
  | true => simp [outcome.rows_eq_nil found]

/-- The rows of outcomes after a policy are those of the outcomes that the policy spares. -/
theorem flatMap_rows_applyPolicy (outcomes : List Outcome) (policy : WarningPolicy) :
    (outcomes.map fun outcome => outcome.applyPolicy policy).flatMap rows =
      (outcomes.filter fun outcome => !outcome.diagnostics.any policy.escalates).flatMap rows := by
  induction outcomes with
  | nil => rfl
  | cons first rest ih =>
      rw [List.map_cons, List.flatMap_cons, ih, rows_applyPolicy, List.filter_cons]
      cases first.diagnostics.any policy.escalates <;> simp

theorem flatMap_diagnostics_applyPolicy (outcomes : List Outcome) (policy : WarningPolicy) :
    (outcomes.map fun outcome => outcome.applyPolicy policy).flatMap diagnostics =
      (outcomes.flatMap diagnostics).filterMap policy.apply := by
  induction outcomes with
  | nil => rfl
  | cons first rest ih =>
      rw [List.map_cons, List.flatMap_cons, ih, List.flatMap_cons, List.filterMap_append]
      rfl

theorem filter_spared_of_escalate {policy : WarningPolicy} (lenient : policy.escalate = false)
    (outcomes : List Outcome) :
    (outcomes.filter fun outcome => !outcome.diagnostics.any policy.escalates) = outcomes := by
  apply List.filter_eq_self.mpr
  intro outcome _
  have none (diagnostic : Diagnostic) : policy.escalates diagnostic = false := by
    simp [WarningPolicy.escalates, lenient]
  simp [none]

end Outcome

namespace Part

/-- Under a policy every part comes to its outcome under the default one after the policy. -/
theorem judgeAll_applyPolicy {plain strict : Session σ} (default : plain.policy = {})
    (extensions : strict.extensions = plain.extensions) (parts : List Part) :
    (judgeAll strict parts).1 =
      (judgeAll plain parts).1.map fun outcome => outcome.applyPolicy strict.policy := by
  induction parts generalizing plain strict with
  | nil => rfl
  | cons part rest ih =>
      have first : (part.judge strict).1 = (part.judge plain).1.applyPolicy strict.policy := by
        rw [judge_outcome, judge_outcome, default, extensions, Outcome.settle_eq_applyPolicy]
      have later : (part.judge strict).2.extensions = (part.judge plain).2.extensions := by
        rw [judge_extensions, judge_extensions, extensions]
      have others := ih ((judge_policy plain part).trans default) later
      rw [judgeAll_cons, judgeAll_cons, List.map_cons, first]
      simp only [others, judge_policy]

end Part

namespace Session

theorem compile_extensions_congr {left right : Session σ}
    (extensions : left.extensions = right.extensions) (document : Document) :
    (left.compile document).2.extensions = (right.compile document).2.extensions := by
  rw [compile_eq, compile_eq]
  simp only [Part.judgeAll_extensions, extensions]

theorem calls_congr {left right : Session σ} (extensions : left.extensions = right.extensions)
    (document : Document) : left.calls document = right.calls document := by
  have recording : left.recording.extensions = right.recording.extensions := by
    simp only [Session.recording, extensions]
  rw [calls, calls, compile_extensions_congr recording]

/-- A host variable that may be overridden and has a note of another extension. -/
def notedVariable : Element :=
  { (default : Element) with
    name := ⟨none, "Variable", none⟩
    attributes :=
      [⟨⟨none, "Name", none⟩, default, "Cache", default⟩,
        ⟨⟨some "urn:notes", "Owner", none⟩, default, "me", default⟩,
        ⟨⟨some ownNamespace, "Overridable", none⟩, default, "yes", default⟩] }

/-- A bundle with a launch condition that has a note, a foreign element and a noted variable. -/
def warnedBundle : Element :=
  { (default : Element) with
    name := ⟨none, "Bundle", none⟩
    children := .ofElements
      [{ (default : Element) with
          name := ⟨some ownNamespace, "Condition", none⟩
          attributes :=
            [⟨⟨none, "Message", none⟩, default, "m", default⟩,
              ⟨⟨some "urn:notes", "Owner", none⟩, default, "me", default⟩]
          children := .text "A" default },
        { (default : Element) with name := ⟨some "urn:other", "Thing", none⟩ },
        notedVariable] }

/--
Compiling under a policy gives the diagnostics of compiling under the default one, each after the
policy, and the rows but for those of the parts with a warning that the policy makes an error.
Extensions receive the same calls and are left in the same states.
-/
theorem compile_policy (session : Session σ) (policy : WarningPolicy) (document : Document) :
    let plain := { session with policy := {} }
    let strict := { session with policy := policy }
    let outcomes := (Part.judgeAll plain (Part.ofHost document.root)).1
    let given := (plain.compile document).1
    let output := (strict.compile document).1
    given = .ofOutcomes outcomes ∧
      output.diagnostics = given.diagnostics.filterMap policy.apply ∧
      output.rows = (outcomes.filter fun outcome =>
        !outcome.diagnostics.any policy.escalates).flatMap Outcome.rows ∧
      (policy.escalate = false → output.rows = given.rows) ∧
      strict.calls document = plain.calls document ∧
      (strict.compile document).2.extensions = (plain.compile document).2.extensions := by
  intro plain strict outcomes given output
  have standard : plain.policy = {} := rfl
  have extensions : strict.extensions = plain.extensions := rfl
  have given_eq : given = .ofOutcomes outcomes := congrArg Prod.fst (compile_eq plain document)
  have applied : (Part.judgeAll strict (Part.ofHost document.root)).1 =
      outcomes.map fun outcome => outcome.applyPolicy policy :=
    Part.judgeAll_applyPolicy standard extensions (Part.ofHost document.root)
  have output_eq : output =
      .ofOutcomes (outcomes.map fun outcome => outcome.applyPolicy policy) := by
    rw [← applied]
    exact congrArg Prod.fst (compile_eq strict document)
  have rows : output.rows = (outcomes.filter fun outcome =>
      !outcome.diagnostics.any policy.escalates).flatMap Outcome.rows := by
    rw [output_eq]
    exact Outcome.flatMap_rows_applyPolicy outcomes policy
  refine ⟨given_eq, ?_, rows, ?_, calls_congr extensions document,
    compile_extensions_congr extensions document⟩
  · rw [output_eq, given_eq]
    exact Outcome.flatMap_diagnostics_applyPolicy outcomes policy
  · intro lenient
    rw [rows, given_eq, Outcome.filter_spared_of_escalate lenient]
    rfl

/-- A note that no extension takes leaves a variable overridable if its warning is suppressed.  If
it is made an error, a launch condition with a note has no row; the variable, on which the note is a
part of its own, keeps its row. -/
theorem compile_policy_suppressed :
    let session : Session Unit := start {} .empty
    let policy : WarningPolicy := { suppressed := .ofList ["B-5-1"] }
    let document : Document := ⟨notedVariable, default⟩
    let strict : WarningPolicy := { escalate := true, suppressed := .ofList ["B-5-2"] }
    let warned : Document := ⟨warnedBundle, default⟩
    let given := ({ session with policy := {} }.compile warned).1
    let output := ({ session with policy := strict }.compile warned).1
    let codes (output : Output) := output.diagnostics.map fun told => (told.severity, told.code)
    (policy.escalate = false ∧
      ({ session with policy := {} }.compile document).1.rows =
        [.ofTexts .overridable ["Cache"] default] ∧
      ({ session with policy := policy }.compile document).1.rows =
        ({ session with policy := {} }.compile document).1.rows) ∧
    output.diagnostics = given.diagnostics.filterMap strict.apply ∧
    codes given =
      [(.warning, some "B-5-1"), (.warning, some "B-5-2"), (.warning, some "B-5-1")] ∧
    codes output = [(.error, some "B-5-1"), (.error, some "B-5-1")] ∧
    given.rows = [.ofTexts .condition ["A", "m"] default, .ofTexts .overridable ["Cache"] default] ∧
    output.rows = [.ofTexts .overridable ["Cache"] default] := by
  intro session policy document strict warned given output codes
  have lenient : policy.escalate = false := rfl
  obtain ⟨_, _, _, spared, _⟩ := compile_policy session policy document
  obtain ⟨_, told, _⟩ := compile_policy session strict warned
  exact ⟨⟨lenient, by decide +kernel, spared lenient⟩, told, by decide +kernel, by decide +kernel,
    by decide +kernel, by decide +kernel⟩

end Session
end BundleMarkup
