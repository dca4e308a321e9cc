import BundleMarkup.Bundle.Session
import BundleMarkup.Diagnostic.Record
import BundleMarkup.Diagnostic.Render
import BundleMarkup.Markup.Document

/-!
# Compiled documents

The rows and diagnostics of a whole document, in document order, and how they are shown.  A walk
through the host markup hands each piece of extension markup to the session and takes in what comes
of it.
-/

namespace BundleMarkup

/-- What compiling a document gives. -/
structure Output where
  rows : List Row
  diagnostics : List Diagnostic
  deriving DecidableEq, Repr

namespace Output

def empty : Output := ⟨[], []⟩

/-- An output with one more outcome at its end. -/
def absorb (output : Output) (outcome : Outcome) : Output :=
  ⟨output.rows ++ outcome.rows, output.diagnostics ++ outcome.diagnostics⟩

def hasErrors (output : Output) : Bool := Diagnostic.anyError output.diagnostics

def errors (output : Output) : List Diagnostic := output.diagnostics.filter Diagnostic.isError

/-- The diagnostics that are no errors. -/
def warnings (output : Output) : List Diagnostic :=
  output.diagnostics.filter fun diagnostic => !diagnostic.isError

def rowsIn (output : Output) (table : Table) : List Row :=
  output.rows.filter fun row => row.table = table

/-- The rows as printed, one a line. -/
def renderRows (output : Output) : String := String.intercalate "\n" (output.rows.map Row.render)

/-- The diagnostics as printed, with an empty line between them, unless one cannot be printed. -/
def renderDiagnostics? (output : Output) (sources : Option SourceFiles) : Option String :=
  (output.diagnostics.mapM (Diagnostic.render? sources)).map (String.intercalate "\n\n")

/-- The report of an output, if every row has a line to tell. -/
def report? (output : Output) : Option Json := do
  let rows ← output.rows.mapM Row.report?
  return .object
    [("rows", .array rows),
      ("diagnostics", .array (output.diagnostics.map Diagnostic.report))]

end Output

/-- Whether markup in a namespace belongs to the host language. -/
def isHostMarkup (uri : String) : Bool :=
  uri == "" || uri == hostNamespace || uri == xmlNamespace

/-- Whether markup in a namespace belongs to another extension. -/
def isForeignMarkup (uri : String) : Bool := uri != ownNamespace && !isHostMarkup uri

/-- The attributes of the extension on a host element. -/
def Element.ownAttributes (host : Element) : List Attribute :=
  host.attributes.filter fun attr => attr.name.namespaceUri = ownNamespace

namespace Session

variable {σ : Type}

/-- Hand an attribute of a host element to the extension of its namespace. -/
def delegateAttribute (session : Session σ) (host : Element) (attr : Attribute) :
    Outcome × Session σ :=
  let (outcome, extensions) := session.extensions.judgeAttribute host attr
  (outcome.applyPolicy session.policy, { session with extensions })

/-- Hand a child of a host element to the extension of its namespace. -/
def delegateElement (session : Session σ) (host element : Element) : Outcome × Session σ :=
  let (outcome, extensions) := session.extensions.judgeElement host element
  (outcome.applyPolicy session.policy, { session with extensions })

/-- Go through attributes of a host element and delegate the foreign ones. -/
def walkForeignAttributes (session : Session σ) (output : Output) (host : Element) :
    List Attribute → Output × Session σ
  | [] => (output, session)
  | attr :: rest =>
      if isForeignMarkup attr.name.namespaceUri then
        let (outcome, session) := session.delegateAttribute host attr
        walkForeignAttributes session (output.absorb outcome) host rest
      else
        walkForeignAttributes session output host rest

/-- Judge the extension's attributes on a host element, if there are any, together. -/
def walkOwnAttributes (session : Session σ) (output : Output) (host : Element) :
    Output × Session σ :=
  if host.ownAttributes.isEmpty then
    (output, session)
  else
    let (outcome, session) := session.judgeAttributes host host.ownAttributes
    (output.absorb outcome, session)

mutual

/-- Visit a host element: its attributes, foreign ones first, and then its children. -/
def walk (session : Session σ) (output : Output) (host : Element) : Output × Session σ :=
  let (output, session) := session.walkForeignAttributes output host host.attributes
  let (output, session) := session.walkOwnAttributes output host
  walkChildren session output host host.childElements
termination_by sizeOf host
decreasing_by exact Element.sizeOf_childElements_lt host

/-- Go through children of a host element; those of the host language are visited in turn. -/
def walkChildren (session : Session σ) (output : Output) (host : Element) :
    List Element → Output × Session σ
  | [] => (output, session)
  | child :: rest =>
      let uri := child.name.namespaceUri
      if uri = ownNamespace then
        let (outcome, session) := session.judgeElement host child
        walkChildren session (output.absorb outcome) host rest
      else if isHostMarkup uri then
        let (output, session) := walk session output child
        walkChildren session output host rest
      else
        let (outcome, session) := session.delegateElement host child
        walkChildren session (output.absorb outcome) host rest
termination_by children => sizeOf children
decreasing_by
  all_goals
    rw [List.cons.sizeOf_spec]
    omega

end

/-- Compile a document within a session. -/
def compile (session : Session σ) (document : Document) : Output × Session σ :=
  session.walk .empty document.root

end Session

/-- A compiled source file. -/
structure CompiledSource where
  /-- The files that places in the output point into. -/
  sources : SourceFiles
  output : Output

/-- A source file that is no markup document. -/
structure UnreadableSource where
  path : String
  /-- What is wrong with its text. -/
  error : MarkupError
  deriving DecidableEq, Repr

/-- The message about an unreadable source file. -/
def UnreadableSource.message (unreadable : UnreadableSource) : String :=
  s!"failed to parse {unreadable.path}: {unreadable.error.message}"

/-- Compile the text of a single file under a policy, without other extensions. -/
def CompiledSource.ofText (policy : WarningPolicy) (path content : String) :
    Except UnreadableSource CompiledSource :=
  let (file, sources) := SourceFiles.empty.add .bare path (some content)
  match Document.read file content.toList with
  | .ok document =>
      let session : Session Unit := .start policy .empty
      .ok ⟨sources, (session.compile document).1⟩
  | .error error => .error ⟨path, error⟩

end BundleMarkup
