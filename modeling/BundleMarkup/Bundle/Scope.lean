import BundleMarkup.Bundle.Extensions

/-!
# Scopes

While one element is judged its scope gathers what comes of it.  Each diagnostic goes through the
warning policy when it is reported, so that a warning made an error suppresses the element's rows.
-/

namespace BundleMarkup

/-- What has come of an element so far. -/
structure Scope where
  element : Element
  /-- The policy that diagnostics go through. -/
  policy : WarningPolicy
  /-- The diagnostics that the policy let through. -/
  diagnostics : List Diagnostic
  /-- The rows of nested outcomes. -/
  rows : List Row

namespace Scope

/-- The scope of an element before anything has come of it. -/
def start (element : Element) (policy : WarningPolicy) : Scope := ⟨element, policy, [], []⟩

/-- Report a diagnostic. -/
def report (scope : Scope) (diagnostic : Diagnostic) : Scope :=
  match scope.policy.apply diagnostic with
  | some kept => { scope with diagnostics := scope.diagnostics ++ [kept] }
  | none => scope

/-- Report diagnostics in order. -/
def reportAll (scope : Scope) (diagnostics : List Diagnostic) : Scope :=
  diagnostics.foldl report scope

/-- Take in a nested outcome. -/
def merge (scope : Scope) (outcome : Outcome) : Scope :=
  let reported := scope.reportAll outcome.diagnostics
  { reported with rows := reported.rows ++ outcome.rows }

/-- Hand an attribute of the scope's element to the extension of its namespace. -/
def delegate {σ : Type} (scope : Scope) (extensions : Extensions σ) (attr : Attribute) :
    Scope × Extensions σ :=
  let (outcome, extensions) := extensions.judgeAttribute scope.element attr
  (scope.merge outcome, extensions)

def hasErrors (scope : Scope) : Bool := Diagnostic.anyError scope.diagnostics

/-- The outcome of a scope; its own rows are built, after the nested ones, if there is no error. -/
def finish (scope : Scope) (build : Unit → List Row) : Outcome :=
  if scope.hasErrors then
    .of scope.diagnostics []
  else
    .of scope.diagnostics (scope.rows ++ build ())

theorem report_eq (scope : Scope) (diagnostic : Diagnostic) :
    scope.report diagnostic =
      { scope with
        diagnostics := scope.diagnostics ++ (scope.policy.apply diagnostic).toList } := by
  unfold report
  cases scope.policy.apply diagnostic with
  | none => simp
  | some kept => rfl

/-- Reports go through the policy and are kept in order. -/
theorem reportAll_eq (scope : Scope) (diagnostics : List Diagnostic) :
    scope.reportAll diagnostics =
      { scope with
        diagnostics := scope.diagnostics ++ diagnostics.filterMap scope.policy.apply } := by
  induction diagnostics generalizing scope with
  | nil => simp [reportAll]
  | cons first rest ih =>
      have later := ih (scope.report first)
      rw [reportAll, List.foldl_cons, ← reportAll, later, report_eq]
      cases applied : scope.policy.apply first <;> simp [applied]

/-- A nested outcome's diagnostics go through the policy, its rows are kept as they are. -/
theorem merge_eq (scope : Scope) (outcome : Outcome) :
    scope.merge outcome =
      { scope with
        diagnostics := scope.diagnostics ++ outcome.diagnostics.filterMap scope.policy.apply
        rows := scope.rows ++ outcome.rows } := by
  rw [merge, reportAll_eq]

@[simp]
theorem element_merge (scope : Scope) (outcome : Outcome) :
    (scope.merge outcome).element = scope.element := by
  rw [merge_eq]

/-- Reporting is taking in an outcome without rows. -/
theorem report_eq_merge (scope : Scope) (diagnostic : Diagnostic) :
    scope.report diagnostic = scope.merge (.ofDiagnostic diagnostic) := by
  rw [merge_eq, report_eq]
  cases applied : scope.policy.apply diagnostic <;>
    simp [Outcome.ofDiagnostic, Outcome.rows_of, applied]

/-- A closed scope gives all that it gathered, and no rows beside an error. -/
theorem finish_eq (scope : Scope) (build : Unit → List Row) :
    scope.finish build = .of scope.diagnostics (scope.rows ++ build ()) := by
  unfold finish hasErrors
  cases found : Diagnostic.anyError scope.diagnostics <;> simp [Outcome.of, found]

end Scope
end BundleMarkup
