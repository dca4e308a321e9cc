import BundleMarkup.Source.Location

/-!
# Diagnostics

A diagnostic has a severity, a short title and an optional code; it may state a problem, list
details and hints, and point at the place that it is about.
-/

namespace BundleMarkup

/-- How grave a diagnostic is. -/
inductive Severity
  /-- Suppresses the rows of the element that raised it. -/
  | error
  /-- Points at a likely mistake and stops nothing. -/
  | warning
  | info
  | note
  deriving DecidableEq, Repr

namespace Severity

/-- The word for a severity in machine-readable output. -/
def word : Severity → String
  | error => "error"
  | warning => "warning"
  | info => "info"
  | note => "note"

/-- The word for a severity at the start of a printed diagnostic. -/
def label : Severity → String
  | error => "Error"
  | warning => "Warning"
  | info => "Info"
  | note => "Note"

end Severity

/-- How a detail is marked. -/
inductive DetailKind
  /-- Marked with a cross. -/
  | error
  /-- Marked with an information sign. -/
  | info
  /-- Marked with a plain bullet. -/
  | note
  deriving DecidableEq, Repr

namespace DetailKind

/-- The mark printed before a detail. -/
def bullet : DetailKind → String
  | error => "✖"
  | info => "ℹ"
  | note => "•"

/-- The word for a kind of detail in machine-readable output. -/
def word : DetailKind → String
  | error => "error"
  | info => "info"
  | note => "note"

end DetailKind

/-- The text of a problem, a detail or a hint. -/
inductive Content
  | plain (text : String)
  /-- Text with marked-up names. -/
  | markdown (text : String)
  deriving DecidableEq, Repr

/-- The characters of a content without its form. -/
def Content.text : Content → String
  | plain text => text
  | markdown text => text

/-- One particular of a diagnostic. -/
structure Detail where
  /-- How the detail is marked. -/
  kind : DetailKind
  content : Content
  /-- The place that the detail points at. -/
  location : Option SourceSpan := none
  deriving DecidableEq, Repr

/-- A message about markup. -/
structure Diagnostic where
  /-- How grave the matter is. -/
  severity : Severity
  title : String
  /-- The code under which the catalog lists the matter. -/
  code : Option String := none
  /-- What is wrong. -/
  problem : Option Content := none
  /-- Particulars, in order. -/
  details : List Detail := []
  /-- Suggestions, in order. -/
  hints : List Content := []
  /-- The place that the diagnostic is about. -/
  location : Option SourceSpan := none
  deriving DecidableEq, Repr

def Diagnostic.isError (diagnostic : Diagnostic) : Bool := diagnostic.severity == .error

/-- Whether some diagnostic of a list is an error. -/
def Diagnostic.anyError (diagnostics : List Diagnostic) : Bool :=
  diagnostics.any Diagnostic.isError

end BundleMarkup
