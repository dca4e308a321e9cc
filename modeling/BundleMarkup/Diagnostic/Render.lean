import BundleMarkup.Diagnostic.Basic
import BundleMarkup.Snippet.Drawing
import BundleMarkup.Source.Files
import BundleMarkup.Text.Bytes

/-!
# Diagnostics as text

A diagnostic is printed with its place, its problem, its details and its hints.  If the text of its
file is at hand, place and problem are drawn as a snippet of that text; details located in the same
file are labels of the snippet.  A place that stops before it starts cannot be drawn, and one whose
line fits no machine word cannot be told; then the diagnostic is not printed.
-/

namespace BundleMarkup

namespace Severity

/-- The word for a severity at the head of a snippet. -/
def snippetLabel : Severity → String
  | error => "Error"
  | warning => "Warning"
  | info => "Advice"
  | note => "Advice"

end Severity

namespace Diagnostic

/-- The first line of a printed diagnostic. -/
def headline (diagnostic : Diagnostic) : String :=
  match diagnostic.code with
  | some code => s!"{diagnostic.severity.label} [{code}]: {diagnostic.title}"
  | none => s!"{diagnostic.severity.label}: {diagnostic.title}"

/-- The line that tells a diagnostic's place. -/
def placeLine? (sources : Option SourceFiles) (span : SourceSpan) : Option String :=
  match sources with
  | some sources => (sources.describe? span).map fun place => s!"  at {place}"
  | none => do
      let line ← span.line?
      let column ← span.column?
      return s!"  at {line}:{column}"

/-- The lines of a diagnostic up to its problem, when no source text is drawn. -/
def plainLines? (sources : Option SourceFiles) (diagnostic : Diagnostic) :
    Option (List String) := do
  let place ← diagnostic.location.mapM (placeLine? sources)
  return diagnostic.headline :: place.toList ++ (diagnostic.problem.map Content.text).toList

/-- The line of a detail. -/
def detailLine (detail : Detail) : String := s!"{detail.kind.bullet} {detail.content.text}"

/-- The line of a hint. -/
def hintLine (hint : Content) : String := s!"? {hint.text}"

/-- The label of a message for a span, if the span falls on character boundaries of the text. -/
def labelRequest? (text : List Char) (span : SourceSpan) (message : String) :
    Option LabelRequest := do
  let before ← Text.takeBytes? span.start text
  let through ← Text.takeBytes? span.stop text
  return ⟨before.length, through.length, message⟩

/-- The heading of a diagnostic's snippet. -/
def snippetHeading (diagnostic : Diagnostic) : String :=
  match diagnostic.code with
  | some code => s!"{diagnostic.severity.snippetLabel}: [{code}] {diagnostic.title}"
  | none => s!"{diagnostic.severity.snippetLabel}: {diagnostic.title}"

/-- Whether a detail is located in a file. -/
def isLocatedIn (file : FileId) (detail : Detail) : Bool :=
  detail.location.any fun span => span.file = file

/-- The labels of the details that are located in a file with the given text. -/
def detailLabels (file : FileId) (text : List Char) (details : List Detail) :
    List LabelRequest :=
  details.filterMap fun detail =>
    (detail.location.filter fun span => span.file = file).bind fun span =>
      labelRequest? text span detail.content.text

/-- The snippet of a diagnostic located at a span, if the text of its file is at hand. -/
def snippet? (sources : SourceFiles) (diagnostic : Diagnostic) (span : SourceSpan) :
    Option SnippetRequest := do
  let source ← sources.get? span.file
  let content ← source.content
  let text := content.toList
  let main ← labelRequest? text span ((diagnostic.problem.map Content.text).getD diagnostic.title)
  return {
    heading := diagnostic.snippetHeading
    path := source.path
    text
    location := main.start
    labels := main :: detailLabels span.file text diagnostic.details }

/-- The file of which a diagnostic's snippet is drawn, with the snippet. -/
def drawn? (sources : Option SourceFiles) (diagnostic : Diagnostic) :
    Option (FileId × SnippetRequest) := do
  let span ← diagnostic.location
  let request ← snippet? (← sources) diagnostic span
  return (span.file, request)

/-- The lines of a diagnostic up to its details, unless its place cannot be shown. -/
def opening? (sources : Option SourceFiles) (diagnostic : Diagnostic) : Option (List String) :=
  match drawn? sources diagnostic with
  | some (_, request) => (Snippet.draw? request).map fun snippet => [snippet]
  | none => plainLines? sources diagnostic

/-- The details that are printed as lines: those not located in the file that is drawn. -/
def listedDetails (sources : Option SourceFiles) (diagnostic : Diagnostic) : List Detail :=
  match drawn? sources diagnostic with
  | some (file, _) => diagnostic.details.filter fun detail => !isLocatedIn file detail
  | none => diagnostic.details

/-- A diagnostic as printed, unless its place cannot be shown. -/
def render? (sources : Option SourceFiles) (diagnostic : Diagnostic) : Option String := do
  let opening ← opening? sources diagnostic
  return String.intercalate "\n"
    (opening ++ (listedDetails sources diagnostic).map detailLine ++
      diagnostic.hints.map hintLine)

end Diagnostic
end BundleMarkup
