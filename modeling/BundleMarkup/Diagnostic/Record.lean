import BundleMarkup.Diagnostic.Basic
import BundleMarkup.Source.Record

/-!
# Records and reports of diagnostics

A diagnostic has two JSON forms.  Its record keeps every field and is read back; its report is
made for other programs and leaves out what is absent.
-/

namespace BundleMarkup

namespace Severity

/-- The name of a severity in a record. -/
def name : Severity → String
  | error => "Error"
  | warning => "Warning"
  | info => "Info"
  | note => "Note"

def named? : String → Option Severity
  | "Error" => some error
  | "Warning" => some warning
  | "Info" => some info
  | "Note" => some note
  | _ => none

def toJson (severity : Severity) : Json := .string severity.name

def ofJson? : Json → Option Severity := Json.unitVariant? named?

end Severity

namespace DetailKind

/-- The name of a kind of detail in a record. -/
def name : DetailKind → String
  | error => "Error"
  | info => "Info"
  | note => "Note"

def named? : String → Option DetailKind
  | "Error" => some error
  | "Info" => some info
  | "Note" => some note
  | _ => none

def toJson (kind : DetailKind) : Json := .string kind.name

def ofJson? : Json → Option DetailKind := Json.unitVariant? named?

end DetailKind

namespace Content

/-- The record of a content: its text under the name of its form. -/
def toJson : Content → Json
  | plain text => .object [("Plain", .string text)]
  | markdown text => .object [("Markdown", .string text)]

def ofJson? : Json → Option Content
  | .object [("Plain", .string text)] => some (plain text)
  | .object [("Markdown", .string text)] => some (markdown text)
  | _ => none

/-- The report of a content. -/
def report : Content → Json
  | plain text => .object [("type", .string "plain"), ("content", .string text)]
  | markdown text => .object [("type", .string "markdown"), ("content", .string text)]

end Content

namespace Detail

/-- The record of a detail; an absent location is left out. -/
def toJson (detail : Detail) : Json :=
  .object
    ([("kind", detail.kind.toJson), ("content", detail.content.toJson)] ++
      Json.optionalMember "location" SourceSpan.toJson detail.location)

def ofJson? (value : Json) : Option Detail := do
  let members ← value.record? ["kind", "content", "location"]
  return {
    kind := ← Json.field? "kind" DetailKind.ofJson? members
    content := ← Json.field? "content" Content.ofJson? members
    location := ← Json.optionalField? "location" SourceSpan.ofJson? members }

/-- The report of a detail. -/
def report (detail : Detail) : Json :=
  .object
    ([("kind", .string detail.kind.word), ("content", detail.content.report)] ++
      Json.optionalMember "location" SourceSpan.toJson detail.location)

end Detail

namespace Diagnostic

/-- The record of a diagnostic; an absent code or location is left out. -/
def toJson (diagnostic : Diagnostic) : Json :=
  .object
    (Json.optionalMember "code" .string diagnostic.code ++
      [("title", .string diagnostic.title), ("kind", diagnostic.severity.toJson),
        ("problem", Json.ofOption Content.toJson diagnostic.problem),
        ("details", .array (diagnostic.details.map Detail.toJson)),
        ("hints", .array (diagnostic.hints.map Content.toJson))] ++
      Json.optionalMember "location" SourceSpan.toJson diagnostic.location)

def ofJson? (value : Json) : Option Diagnostic := do
  let members ←
    value.record? ["code", "title", "kind", "problem", "details", "hints", "location"]
  return {
    code := ← Json.optionalField? "code" Json.text? members
    title := ← Json.field? "title" Json.text? members
    severity := ← Json.field? "kind" Severity.ofJson? members
    problem := ← Json.optionalField? "problem" Content.ofJson? members
    details := ← Json.field? "details" (Json.list? Detail.ofJson?) members
    hints := ← Json.field? "hints" (Json.list? Content.ofJson?) members
    location := ← Json.optionalField? "location" SourceSpan.ofJson? members }

/-- A member that lists items and is left out when there are none. -/
def listMember (name : String) (items : List Json) : List (String × Json) :=
  if items.isEmpty then [] else [(name, .array items)]

/-- The report of a diagnostic. -/
def report (diagnostic : Diagnostic) : Json :=
  .object
    ([("kind", .string diagnostic.severity.word), ("title", .string diagnostic.title)] ++
      Json.optionalMember "code" .string diagnostic.code ++
      Json.optionalMember "problem" Content.report diagnostic.problem ++
      listMember "details" (diagnostic.details.map Detail.report) ++
      listMember "hints" (diagnostic.hints.map Content.report) ++
      Json.optionalMember "location" SourceSpan.toJson diagnostic.location)

end Diagnostic
end BundleMarkup
