import BundleMarkup.Proofs.Judging.Isolation

/-!
# Runs of a scope

Whatever is reported, merged and delegated in a scope, in whatever order, it gathers the diagnostics
that the policy lets through and the rows, both in the order in which they came.  An error is never
forgotten: it keeps back all rows, those that came before it too, and the scope's own are not built.
-/

namespace BundleMarkup

variable {σ : Type}

namespace WarningPolicy

/-- What a policy lets through, it lets through again as it is. -/
theorem apply_eq_of_apply {policy : WarningPolicy} {diagnostic kept : Diagnostic}
    (applied : policy.apply diagnostic = some kept) : policy.apply kept = some kept := by
  obtain ⟨_, _, dropped⟩ | ⟨_, raised⟩ | ⟨_, spared⟩ := policy.apply_cases diagnostic
  · rw [dropped] at applied
    cases applied
  · rw [raised] at applied
    obtain rfl := Option.some.inj applied
    exact policy.apply_of_isError rfl
  · rw [spared] at applied
    obtain rfl := Option.some.inj applied
    exact spared

/-- Applying a policy twice is applying it once. -/
theorem filterMap_apply_idem (policy : WarningPolicy) (diagnostics : List Diagnostic) :
    (diagnostics.filterMap policy.apply).filterMap policy.apply =
      diagnostics.filterMap policy.apply := by
  refine (List.filterMap_congr fun kept among => ?_).trans List.filterMap_some
  obtain ⟨diagnostic, _, applied⟩ := List.mem_filterMap.mp among
  exact apply_eq_of_apply applied

end WarningPolicy

/-- What a scope may be given. -/
inductive Intake
  /-- A diagnostic is reported. -/
  | report (diagnostic : Diagnostic)
  /-- A nested outcome is merged. -/
  | merge (outcome : Outcome)
  /-- An attribute of the scope's element is handed to the extension of its namespace. -/
  | delegate (attr : Attribute)

/-- What an intake brings, however the scope treats it. -/
def Intake.bring (element : Element) (extensions : Extensions σ) : Intake → Outcome × Extensions σ
  | .report diagnostic => (.ofDiagnostic diagnostic, extensions)
  | .merge outcome => (outcome, extensions)
  | .delegate attr => extensions.judgeAttribute element attr

/-- What intakes bring, one after another. -/
def Intake.brought (element : Element) : Extensions σ → List Intake → List Outcome
  | _, [] => []
  | extensions, intake :: rest =>
      let (outcome, extensions) := intake.bring element extensions
      outcome :: brought element extensions rest

namespace Scope

/-- Give a scope one thing. -/
def take (scope : Scope) (extensions : Extensions σ) : Intake → Scope × Extensions σ
  | .report diagnostic => (scope.report diagnostic, extensions)
  | .merge outcome => (scope.merge outcome, extensions)
  | .delegate attr => scope.delegate extensions attr

/-- Give a scope several things, one after another. -/
def takeAll (scope : Scope) (extensions : Extensions σ) : List Intake → Scope × Extensions σ
  | [] => (scope, extensions)
  | intake :: rest =>
      let (scope, extensions) := scope.take extensions intake
      takeAll scope extensions rest

theorem takeAll_append (scope : Scope) (extensions : Extensions σ) (front back : List Intake) :
    scope.takeAll extensions (front ++ back) =
      (scope.takeAll extensions front).1.takeAll (scope.takeAll extensions front).2 back := by
  induction front generalizing scope extensions with
  | nil => rfl
  | cons intake rest ih => exact ih ..

/-- A scope merges what an intake brings. -/
theorem take_eq (scope : Scope) (extensions : Extensions σ) (intake : Intake) :
    scope.take extensions intake =
      (scope.merge (intake.bring scope.element extensions).1,
        (intake.bring scope.element extensions).2) := by
  cases intake with
  | report diagnostic => rw [take, report_eq_merge, Intake.bring]
  | merge outcome => rfl
  | delegate attr => rfl

theorem takeAll_eq (scope : Scope) (extensions : Extensions σ) (intakes : List Intake) :
    (scope.takeAll extensions intakes).1 =
      (Intake.brought scope.element extensions intakes).foldl merge scope := by
  induction intakes generalizing scope extensions with
  | nil => rfl
  | cons intake rest ih => rw [takeAll, take_eq, ih, element_merge, Intake.brought, List.foldl_cons]

/-- Nothing that is merged takes an error away. -/
theorem hasErrors_merge {scope : Scope} (failed : scope.hasErrors = true) (outcome : Outcome) :
    (scope.merge outcome).hasErrors = true := by
  rw [hasErrors, Diagnostic.anyError] at failed ⊢
  rw [merge_eq, List.any_append, failed, Bool.true_or]

/-- No further step loses an error. -/
theorem hasErrors_takeAll {scope : Scope} (failed : scope.hasErrors = true)
    (extensions : Extensions σ) (intakes : List Intake) :
    (scope.takeAll extensions intakes).1.hasErrors = true := by
  induction intakes generalizing scope extensions with
  | nil => exact failed
  | cons intake rest ih =>
      rw [takeAll, take_eq]
      exact ih (hasErrors_merge failed _) _

/-- A scope gathers the diagnostics that the policy lets through and all rows. -/
theorem takeAll_start (element : Element) (policy : WarningPolicy) (extensions : Extensions σ)
    (intakes : List Intake) :
    let brought := Intake.brought element extensions intakes
    ((start element policy).takeAll extensions intakes).1 =
      ⟨element, policy, (brought.flatMap Outcome.diagnostics).filterMap policy.apply,
        brought.flatMap Outcome.rows⟩ := by
  rw [takeAll_eq, foldl_merge_eq]
  rfl

/-- What a scope of the same policy has let through goes into another scope unchanged. -/
theorem diagnostics_merge_finish {scope : Scope} {nested : Scope}
    (passed : nested.diagnostics.filterMap scope.policy.apply = nested.diagnostics)
    (build : Unit → List Row) :
    (scope.merge (nested.finish build)).diagnostics =
      scope.diagnostics ++ (nested.finish build).diagnostics := by
  rw [merge_eq, finish_eq, Outcome.diagnostics_of, passed]

/--
Whatever a scope is given, its outcome has the diagnostics that were brought, after the policy and
in order.  Without an error among them its rows are those that were brought and then the scope's
own; else there are none, and nothing depends on how the own rows are built.  An error that is there
once stays.  A scope of the same policy takes the diagnostics of the outcome in as they are.
-/
theorem finish_takeAll (element : Element) (policy : WarningPolicy) (extensions : Extensions σ)
    (intakes : List Intake) :
    let brought := Intake.brought element extensions intakes
    let kept := (brought.flatMap Outcome.diagnostics).filterMap policy.apply
    let scope := ((start element policy).takeAll extensions intakes).1
    scope.hasErrors = Diagnostic.anyError kept ∧
      (∀ build, (scope.finish build).diagnostics = kept) ∧
      (Diagnostic.anyError kept = false → ∀ build,
        (scope.finish build).rows = brought.flatMap Outcome.rows ++ build ()) ∧
      (Diagnostic.anyError kept = true → ∀ build,
        (scope.finish build).rows = [] ∧ ∀ other, scope.finish other = scope.finish build) ∧
      (∀ front back, intakes = front ++ back →
        ((start element policy).takeAll extensions front).1.hasErrors = true →
          scope.hasErrors = true) ∧
      ∀ (outer : Scope) (build : Unit → List Row), outer.policy = policy →
        (outer.merge (scope.finish build)).diagnostics =
          outer.diagnostics ++ (scope.finish build).diagnostics := by
  intro brought kept scope
  have gathered : scope = ⟨element, policy, kept, brought.flatMap Outcome.rows⟩ :=
    takeAll_start element policy extensions intakes
  have errors : scope.hasErrors = Diagnostic.anyError kept := by rw [gathered, hasErrors]
  refine ⟨errors, fun build => ?_, fun clean build => ?_, fun failed build => ?_, ?_, ?_⟩
  · rw [gathered, finish_eq, Outcome.diagnostics_of]
  · rw [gathered, finish_eq, Outcome.rows_of, clean, if_neg Bool.false_ne_true]
  · have empty (own : Unit → List Row) : scope.finish own = .of kept [] := by
      rw [finish, if_pos (errors.trans failed), gathered]
    refine ⟨?_, fun other => (empty other).trans (empty build).symm⟩
    rw [empty, Outcome.rows_of, ite_self]
  · rintro front back rfl failed
    change ((start element policy).takeAll extensions (front ++ back)).1.hasErrors = true
    rw [takeAll_append]
    exact hasErrors_takeAll failed _ back
  · rintro outer build rfl
    refine diagnostics_merge_finish ?_ build
    rw [gathered]
    exact outer.policy.filterMap_apply_idem _

/-- A warning between two nested outcomes keeps the rows of both back if it is made an error. -/
theorem finish_takeAll_escalated :
    let element := bareElement hostNamespace "Bundle"
    let nested : Outcome := .ofRows [.linkVariable "a" "b" default]
    let warning := Message.unsupportedExtensionElement element element
    let front : List Intake := [.merge nested, .report warning]
    let strict : WarningPolicy := { escalate := true }
    let scope (policy : WarningPolicy) (intakes : List Intake) :=
      ((start element policy).takeAll (.empty : Extensions Unit) intakes).1
    (scope strict front).hasErrors = true ∧
      (scope strict (front ++ [.merge nested])).hasErrors = true ∧
      ((scope strict (front ++ [.merge nested])).finish fun _ => nested.rows).rows = [] ∧
      ((scope {} (front ++ [.merge nested])).finish fun _ => nested.rows).rows =
        nested.rows ++ nested.rows ++ nested.rows := by
  intro element nested warning front strict scope
  have failed : (scope strict front).hasErrors = true := by decide +kernel
  obtain ⟨errors, -, -, none, sticky, -⟩ :=
    finish_takeAll element strict (.empty : Extensions Unit) (front ++ [.merge nested])
  obtain ⟨-, -, all, -⟩ :=
    finish_takeAll element {} (.empty : Extensions Unit) (front ++ [.merge nested])
  have still := sticky front [.merge nested] rfl failed
  exact ⟨failed, still, (none (errors.symm.trans still) _).1, all (by decide +kernel) _⟩

end Scope
end BundleMarkup
