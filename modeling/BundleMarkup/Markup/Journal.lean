import BundleMarkup.Markup.Document

/-!
# Reading journals

A journal keeps the diagnostics of the texts that are read for one file.
-/

namespace BundleMarkup

/-- A file that is read and what went wrong with it. -/
structure Journal where
  file : FileId
  /-- The diagnostics in the order in which they came up. -/
  diagnostics : List Diagnostic
  deriving DecidableEq, Repr

namespace Journal

/-- The journal of a file before anything is read. -/
def start (file : FileId) : Journal := ⟨file, []⟩

/-- Note a diagnostic. -/
def add (journal : Journal) (diagnostic : Diagnostic) : Journal :=
  { journal with diagnostics := journal.diagnostics ++ [diagnostic] }

/-- Read a text; an error is noted, and answered, as a diagnostic. -/
def read (journal : Journal) (input : List Char) :
    Except (List Diagnostic) Document × Journal :=
  match Document.read journal.file input with
  | .ok document => (.ok document, journal)
  | .error error => (.error [error.diagnostic], journal.add error.diagnostic)

/-- Hand out the diagnostics, keeping none. -/
def take (journal : Journal) : List Diagnostic × Journal :=
  (journal.diagnostics, { journal with diagnostics := [] })

def hasDiagnostics (journal : Journal) : Bool := !journal.diagnostics.isEmpty

def hasErrors (journal : Journal) : Bool := Diagnostic.anyError journal.diagnostics

end Journal
end BundleMarkup
