import BundleMarkup.Diagnostic.Basic
import BundleMarkup.Json

/-!
# Warning policy

Warnings may be suppressed, all of them or by code, and those that are left may be made errors.
Suppression comes first; nothing but warnings is touched.
-/

namespace BundleMarkup

/-- A set of codes, kept in increasing order. -/
structure CodeSet where
  codes : List String
  /-- Each code is smaller than those after it. -/
  increasing : codes.Pairwise (· < ·)
  deriving DecidableEq, Repr

namespace CodeSet

/-- Put a code at its place among increasing codes, unless it is there. -/
def place (code : String) : List String → List String
  | [] => [code]
  | first :: rest =>
      if code < first then code :: first :: rest
      else if code = first then first :: rest
      else first :: place code rest

theorem mem_place {code other : String} {codes : List String} :
    other ∈ place code codes ↔ other = code ∨ other ∈ codes := by
  induction codes with
  | nil => simp [place]
  | cons first rest ih =>
      simp only [place]
      split
      · simp
      · split
        · rename_i same
          simp [same]
        · simp only [List.mem_cons, ih]
          constructor
          · rintro (h | h | h) <;> simp [h]
          · rintro (h | h | h) <;> simp [h]

theorem pairwise_place {code : String} {codes : List String}
    (increasing : codes.Pairwise (· < ·)) : (place code codes).Pairwise (· < ·) := by
  induction codes with
  | nil => simp [place]
  | cons first rest ih =>
      obtain ⟨smallest, others⟩ := List.pairwise_cons.mp increasing
      simp only [place]
      split
      · rename_i before
        refine List.pairwise_cons.mpr ⟨fun other among => ?_, increasing⟩
        rcases List.mem_cons.mp among with rfl | later
        · exact before
        · exact String.lt_trans before (smallest other later)
      · rename_i notBefore
        split
        · exact increasing
        · rename_i different
          refine List.pairwise_cons.mpr ⟨fun other among => ?_, ih others⟩
          rcases mem_place.mp among with rfl | later
          · have above := String.not_lt.mp notBefore
            by_cases smaller : first < other
            · exact smaller
            · exact absurd (String.le_antisymm (String.not_lt.mp smaller) above) different
          · exact smallest other later

def empty : CodeSet := ⟨[], .nil⟩

/-- A set with one more code. -/
def insert (set : CodeSet) (code : String) : CodeSet :=
  ⟨place code set.codes, pairwise_place set.increasing⟩

/-- The set of the codes in a list. -/
def ofList (codes : List String) : CodeSet := codes.foldl insert empty

def contains (set : CodeSet) (code : String) : Bool := set.codes.contains code

end CodeSet

/-- How warnings are treated. -/
structure WarningPolicy where
  /-- Make every warning an error. -/
  escalate : Bool := false
  /-- Drop every warning. -/
  suppressAll : Bool := false
  /-- The codes of the warnings to drop. -/
  suppressed : CodeSet := .empty
  deriving DecidableEq, Repr

namespace WarningPolicy

/-- A policy that drops the warnings of one more code. -/
def suppress (policy : WarningPolicy) (code : String) : WarningPolicy :=
  { policy with suppressed := policy.suppressed.insert code }

/-- Whether a policy drops the warnings with a given code, if they have one. -/
def drops (policy : WarningPolicy) (code : Option String) : Bool :=
  policy.suppressAll || code.any policy.suppressed.contains

/-- What a policy makes of a diagnostic, nothing if it drops it. -/
def apply (policy : WarningPolicy) (diagnostic : Diagnostic) : Option Diagnostic :=
  if diagnostic.severity = .warning then
    if policy.drops diagnostic.code then none
    else if policy.escalate then some { diagnostic with severity := .error }
    else some diagnostic
  else
    some diagnostic

/-- Whether a policy makes an error of a diagnostic that was none. -/
def escalates (policy : WarningPolicy) (diagnostic : Diagnostic) : Bool :=
  diagnostic.severity = .warning && policy.escalate && !policy.drops diagnostic.code

/-- A policy drops all warnings or those whose code it lists. -/
theorem drops_eq_true {policy : WarningPolicy} {code : Option String} :
    policy.drops code = true ↔
      policy.suppressAll = true ∨ ∃ listed ∈ policy.suppressed.codes, code = some listed := by
  cases code <;> simp [drops, CodeSet.contains]

/-- A policy drops a warning, even one that it would make an error; makes an error of a warning that
it keeps, and leaves the rest of it alone; or lets a diagnostic through as it is. -/
theorem apply_cases (policy : WarningPolicy) (diagnostic : Diagnostic) :
    (diagnostic.severity = .warning ∧ policy.drops diagnostic.code = true ∧
      policy.apply diagnostic = none) ∨
    (policy.escalates diagnostic = true ∧
      policy.apply diagnostic = some { diagnostic with severity := .error }) ∨
    ((diagnostic.severity = .warning → policy.drops diagnostic.code = false ∧
      policy.escalate = false) ∧ policy.apply diagnostic = some diagnostic) := by
  unfold apply escalates
  by_cases warns : diagnostic.severity = .warning
  · cases policy.drops diagnostic.code <;> cases policy.escalate <;> simp [warns]
  · simp [warns]

/-- Errors go through every policy as they are. -/
theorem apply_of_isError (policy : WarningPolicy) {diagnostic : Diagnostic}
    (isError : diagnostic.isError = true) : policy.apply diagnostic = some diagnostic := by
  have severe : diagnostic.severity = .error := by simpa [Diagnostic.isError] using isError
  simp [apply, severe]

/-- The default policy lets everything through as it is. -/
@[simp]
theorem apply_default (diagnostic : Diagnostic) :
    ({} : WarningPolicy).apply diagnostic = some diagnostic := by
  have kept : ({} : WarningPolicy).drops diagnostic.code = false := by
    rw [← Bool.not_eq_true, drops_eq_true]
    simp [CodeSet.empty]
  simp [apply, kept]

/-- Behind a policy there is an error where there was one or where one was made. -/
theorem any_isError_apply (policy : WarningPolicy) (diagnostic : Diagnostic) :
    (policy.apply diagnostic).any Diagnostic.isError =
      (diagnostic.isError || policy.escalates diagnostic) := by
  obtain ⟨warns, drops, applied⟩ | ⟨escalates, applied⟩ | ⟨spared, applied⟩ :=
    policy.apply_cases diagnostic
  · simp [applied, escalates, drops, Diagnostic.isError, warns]
  · rw [applied, escalates, Bool.or_true]
    rfl
  · have lenient : policy.escalates diagnostic = false := by
      by_cases warns : diagnostic.severity = .warning
      · simp [escalates, spared warns]
      · simp [escalates, warns]
    rw [applied, lenient, Bool.or_false]
    rfl

def toJson (policy : WarningPolicy) : Json :=
  .object
    [("warnings-as-errors", .bool policy.escalate),
      ("suppress-all-warnings", .bool policy.suppressAll),
      ("suppressed-warnings", .ofTexts policy.suppressed.codes)]

/-- The names of a policy's fields in its record. -/
def fieldNames : List String :=
  ["warnings-as-errors", "suppress-all-warnings", "suppressed-warnings"]

/-- Set the field of a name from its record; no other names are allowed. -/
def setField? (policy : WarningPolicy) : String × Json → Option WarningPolicy
  | ("warnings-as-errors", value) => value.bool?.map fun escalate => { policy with escalate }
  | ("suppress-all-warnings", value) =>
      value.bool?.map fun suppressAll => { policy with suppressAll }
  | ("suppressed-warnings", value) =>
      (value.list? Json.text?).map fun codes => { policy with suppressed := .ofList codes }
  | _ => none

/-- Read the record of a policy; fields that are missing have their default. -/
def ofJson? : Json → Option WarningPolicy
  | .object members => members.foldlM setField? {}
  | .array items =>
      if items.length ≤ fieldNames.length then (fieldNames.zip items).foldlM setField? {} else none
  | _ => none

end WarningPolicy
end BundleMarkup
