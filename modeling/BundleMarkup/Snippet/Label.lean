import BundleMarkup.Snippet.SourceLine

/-!
# Labels of snippets

A label marks an extent of the text with a message.  It is inline if it lies on one line; else it
spans lines and is drawn in the margin, its message below its last character.
-/

namespace BundleMarkup

/-- A message for an extent of the text, in characters. -/
structure LabelRequest where
  start : Nat
  stop : Nat
  /-- What is said about it. -/
  message : String
  deriving DecidableEq, Repr

/-- Whether an extent stops before it starts. -/
def LabelRequest.isBackwards (request : LabelRequest) : Bool := request.stop < request.start

/-- A label of a snippet. -/
structure SnippetLabel where
  /-- Number of labels before this one. -/
  order : Nat
  start : Nat
  stop : Nat
  message : String
  /-- Whether the label spans lines. -/
  spansLines : Bool
  deriving DecidableEq, Repr

namespace SnippetLabel

/-- Characters that a label marks. -/
def size (label : SnippetLabel) : Nat := label.stop - label.start

/-- The offset of the last character that a label marks. -/
def lastOffset (label : SnippetLabel) : Nat := max (label.stop - 1) label.start

/-- Whether a label marks the character at an offset. -/
def marks (label : SnippetLabel) (offset : Nat) : Bool :=
  label.start ≤ offset && offset < label.stop

/-- The label of a request, if its extent lies on lines of the text. -/
def ofRequest? (lines : List SourceLine) (request : LabelRequest) (order : Nat) :
    Option SnippetLabel := do
  let first ← SourceLine.find? lines request.start
  let last ←
    if request.start < request.stop then SourceLine.find? lines (request.stop - 1) else some first
  return {
    order
    start := request.start
    stop := request.stop
    message := request.message
    spansLines := first.index != last.index }

/-- The labels of requests, in order. -/
def ofRequests (lines : List SourceLine) (requests : List LabelRequest) : List SnippetLabel :=
  requests.zipIdx.filterMap fun (request, order) => ofRequest? lines request order

/-- The labels that span lines, longest first. -/
def spanning (labels : List SnippetLabel) : List SnippetLabel :=
  (labels.filter (·.spansLines)).mergeSort fun left right => right.size ≤ left.size

end SnippetLabel

/-- A label at the line where it is attached. -/
structure LineLabel where
  /-- The column at which the label is attached. -/
  column : Nat
  label : SnippetLabel
  /-- Whether the label's message is drawn on this line. -/
  drawsMessage : Bool
  deriving DecidableEq, Repr

namespace LineLabel

/-- The order in which labels are drawn below a line: by column, later starts first. -/
def precedes (left right : LineLabel) : Bool :=
  left.column < right.column ||
    left.column == right.column && right.label.start ≤ left.label.start

/-- Whether two attachments are of one label. -/
def isOf (attached : LineLabel) (label : SnippetLabel) : Bool := attached.label.order == label.order

/-- A spanning label attached to the line of its first character. -/
def atStart? (line : SourceLine) (label : SnippetLabel) : Option LineLabel :=
  if line.covers label.start then some ⟨label.start - line.offset, label, false⟩ else none

/-- A spanning label attached to the line of its last character. -/
def atEnd? (line : SourceLine) (label : SnippetLabel) : Option LineLabel :=
  if line.covers label.lastOffset then some ⟨label.lastOffset - line.offset, label, true⟩ else none

/-- An inline label attached at the middle of its extent on its line. -/
def inline? (line : SourceLine) (label : SnippetLabel) : Option LineLabel :=
  if !label.spansLines && line.offset ≤ label.start && label.stop ≤ line.stop then
    let middle := max ((label.start + label.stop) / 2) label.start
    some ⟨middle - line.offset, label, true⟩
  else
    none

/-- The spanning label that a line's margin points at. -/
def margin? (line : SourceLine) (spanning : List SnippetLabel) : Option LineLabel :=
  let candidates := spanning.filterMap fun label => (atStart? line label).or (atEnd? line label)
  (candidates.mergeSort precedes).head?

/-- A spanning label attached to a line, unless it starts there and the margin points at it. -/
def spanning? (line : SourceLine) (margin : Option LineLabel) (label : SnippetLabel) :
    Option LineLabel :=
  let start := (atStart? line label).filter fun _ => !margin.any (·.isOf label)
  start.or (atEnd? line label)

end LineLabel

/-- A line of a snippet with all that is drawn at it. -/
structure LineView where
  line : SourceLine
  /-- All spanning labels of the snippet, longest first. -/
  spanning : List SnippetLabel
  /-- The spanning label that the margin points at. -/
  margin : Option LineLabel
  /-- The labels drawn below the line, in drawing order. -/
  labels : List LineLabel
  deriving DecidableEq, Repr

namespace LineView

/-- The view of a line among the labels of a snippet. -/
def ofLine (labels : List SnippetLabel) (line : SourceLine) : LineView :=
  let spanning := SnippetLabel.spanning labels
  let margin := LineLabel.margin? line spanning
  let attached :=
    spanning.filterMap (LineLabel.spanning? line margin) ++
      labels.filterMap (LineLabel.inline? line)
  { line, spanning, margin, labels := attached.mergeSort LineLabel.precedes }

/-- Whether nothing is attached to a line. -/
def isBare (view : LineView) : Bool := view.labels.isEmpty && view.margin.isNone

/-- Whether a line lies inside a spanning label. -/
def isWithin (view : LineView) : Bool := view.spanning.any (·.marks view.line.offset)

/-- Whether the margin points at a label. -/
def isMargin (view : LineView) (label : SnippetLabel) : Bool := view.margin.any (·.isOf label)

end LineView
end BundleMarkup
