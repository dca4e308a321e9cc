import BundleMarkup.Diagnostic.Basic

/-!
# Markup errors

What can be wrong with a markup text, with the message of each error and the diagnostic that
reports it.
-/

namespace BundleMarkup

/-- Why a markup text is no document. -/
inductive MarkupError
  | malformed (message : String) (position : Option Nat)
  /-- The text ends inside an element. -/
  | unfinished (expected : String) (location : Option SourceSpan)
  /-- An end tag does not match its start tag. -/
  | mismatchedEnd (expected found : String) (location : Option SourceSpan)
  /-- A qualifier is used that no declaration binds. -/
  | unboundQualifier (qualifier : String) (location : Option SourceSpan)
  | noRoot
  | manyRoots (location : Option SourceSpan)
  deriving DecidableEq, Repr

namespace MarkupError

def message : MarkupError → String
  | malformed message _ => s!"XML syntax error: {message}"
  | unfinished expected _ => s!"Unexpected end of input, expected {expected}"
  | mismatchedEnd expected found _ =>
      s!"Mismatched end tag: expected </{expected}>, found </{found}>"
  | unboundQualifier qualifier _ => s!"Namespace prefix '{qualifier}' is not declared"
  | noRoot => "Empty XML document: no root element found"
  | manyRoots _ => "Invalid XML: multiple root elements"

/-- The place that an error points at. -/
def location : MarkupError → Option SourceSpan
  | malformed _ _ => none
  | unfinished _ location => location
  | mismatchedEnd _ _ location => location
  | unboundQualifier _ location => location
  | noRoot => none
  | manyRoots location => location

def code : MarkupError → String
  | malformed _ _ => "X-9-1"
  | unfinished _ _ => "X-9-2"
  | mismatchedEnd _ _ _ => "X-9-3"
  | unboundQualifier _ _ => "X-9-4"
  | noRoot => "X-9-5"
  | manyRoots _ => "X-9-6"

/-- The title of the diagnostic that reports an error. -/
def title : MarkupError → String
  | malformed _ _ => "Markup syntax error"
  | unfinished _ _ => "Unexpected end of markup"
  | mismatchedEnd _ _ _ => "Mismatched end tag"
  | unboundQualifier _ _ => "Unbound namespace prefix"
  | noRoot => "Empty markup document"
  | manyRoots _ => "Multiple root elements"

/-- What the diagnostic of an error says is wrong. -/
def problem : MarkupError → String
  | malformed message _ => message
  | unfinished expected _ => s!"The document ended unexpectedly; expected {expected}"
  | mismatchedEnd expected found _ =>
      s!"End tag `</{found}>` does not match start tag `<{expected}>`"
  | unboundQualifier qualifier _ => s!"The prefix `{qualifier}` is not declared"
  | noRoot => "The document contains no root element"
  | manyRoots _ => "The document contains multiple root elements"

/-- The particulars in the diagnostic of an error. -/
def details : MarkupError → List Detail
  | malformed _ (some position) =>
      [{ kind := .error, content := .markdown s!"Error at byte offset {position}" }]
  | _ => []

/-- The suggestions in the diagnostic of an error. -/
def hints : MarkupError → List Content
  | mismatchedEnd _ _ _ =>
      [.markdown "Check that all opening tags have matching closing tags?"]
  | unboundQualifier qualifier _ => [.markdown s!"Add an `xmlns:{qualifier}` declaration?"]
  | manyRoots _ => [.markdown "Wrap the elements in a single `Wix` element?"]
  | _ => []

/-- The diagnostic that reports an error. -/
def diagnostic (error : MarkupError) : Diagnostic :=
  { severity := .error
    title := error.title
    code := some error.code
    problem := some (.markdown error.problem)
    details := error.details
    hints := error.hints
    location := error.location }

end MarkupError
end BundleMarkup
