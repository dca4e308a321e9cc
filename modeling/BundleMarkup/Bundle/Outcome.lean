import BundleMarkup.Bundle.Row
import BundleMarkup.Policy

/-!
# Outcomes

What judging a piece of markup gives: diagnostics and rows, but no rows beside an error.
-/

namespace BundleMarkup

/-- Diagnostics and rows; an error leaves no rows. -/
structure Outcome where
  /-- The diagnostics in order. -/
  diagnostics : List Diagnostic
  /-- The rows in order. -/
  rows : List Row
  /-- There are no rows beside an error. -/
  rows_eq_nil : Diagnostic.anyError diagnostics = true → rows = []
  deriving DecidableEq, Repr

namespace Outcome

/-- Diagnostics with the rows that go with them, dropped if there is an error. -/
def of (diagnostics : List Diagnostic) (rows : List Row) : Outcome :=
  ⟨diagnostics, if Diagnostic.anyError diagnostics then [] else rows, by simp_all⟩

@[simp]
theorem diagnostics_of (diagnostics : List Diagnostic) (rows : List Row) :
    (of diagnostics rows).diagnostics = diagnostics := rfl

theorem rows_of (diagnostics : List Diagnostic) (rows : List Row) :
    (of diagnostics rows).rows = if Diagnostic.anyError diagnostics then [] else rows := rfl

def empty : Outcome := of [] []

def ofRows (rows : List Row) : Outcome := of [] rows

def ofDiagnostic (diagnostic : Diagnostic) : Outcome := of [diagnostic] []

def hasErrors (outcome : Outcome) : Bool := Diagnostic.anyError outcome.diagnostics

/-- An outcome after a warning policy. -/
def applyPolicy (outcome : Outcome) (policy : WarningPolicy) : Outcome :=
  of (outcome.diagnostics.filterMap policy.apply) outcome.rows

end Outcome
end BundleMarkup
