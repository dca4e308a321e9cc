import BundleMarkup.Snippet.Label

/-!
# Margins of snippets

Left of each line a snippet shows the line's number and the lines of the labels that span it.
-/

namespace BundleMarkup

/-- Which row of a line a margin stands beside. -/
inductive MarginRow
  /-- The row with the line's text, or with an ellipsis for it. -/
  | source (isEllipsis : Bool)
  /-- The row above the arrow of the label with the given number. -/
  | above (number : Nat)
  /-- The row with the arrow of the label with the given number. -/
  | arrow (number : Nat)
  deriving DecidableEq, Repr

/-- What is drawn in one column of a margin. -/
structure MarginMarks where
  /-- The corner of a label that starts here or, if `false`, ends here. -/
  corner : Option Bool := none
  /-- Whether a label's line passes across. -/
  across : Bool := false
  /-- Whether a label's line passes down. -/
  down : Bool := false
  /-- The label that the margin points at starts here or, if `false`, ends here. -/
  pointer : Option Bool := none
  deriving DecidableEq, Repr

namespace MarginMarks

/-- Add a label's line passing down, if it belongs to the column. -/
def addDown (marks : MarginMarks) (isOwn : Bool) : MarginMarks :=
  { marks with down := marks.down || isOwn }

/-- Add a label to the marks beside the row with a line's text. -/
def addAtSource (view : LineView) (marks : MarginMarks) (label : SnippetLabel) (isOwn : Bool) :
    MarginMarks :=
  let isStart := view.line.covers label.start
  if view.isMargin label then { marks with pointer := some isStart }
  else if isStart then marks
  else marks.addDown isOwn

/-- Add a label to the marks beside a row of its own, the arrow or the row above it. -/
def addAtOwnRow (view : LineView) (isArrow : Bool) (marks : MarginMarks) (label : SnippetLabel)
    (isOwn : Bool) : MarginMarks :=
  let isStart := view.line.covers label.start
  let isMargin := view.isMargin label
  let marks := if isMargin then { marks with down := isOwn } else marks
  if isMargin && isStart then marks
  else if isArrow then
    { marks with across := true, corner := if isOwn then some isStart else marks.corner }
  else if isStart then marks
  else marks.addDown isOwn

/-- Add a label to the marks beside a row below a line. -/
def addAtRow (view : LineView) (number : Nat) (isArrow : Bool) (marks : MarginMarks)
    (label : SnippetLabel) (isOwn : Bool) : MarginMarks :=
  let isStart := view.line.covers label.start
  let isEnd := view.line.covers label.lastOffset
  if !isStart && !isEnd then marks.addDown isOwn
  else
    let own := (view.labels.findIdx? (·.isOf label)).getD 0
    if number = own then addAtOwnRow view isArrow marks label isOwn
    else marks.addDown (isOwn && isStart != decide (number < own))

/-- Add the label at an index of the spanning labels to the marks in a column. -/
def add (view : LineView) (row : MarginRow) (column : Nat) (marks : MarginMarks)
    (entry : SnippetLabel × Nat) : MarginMarks :=
  let (label, index) := entry
  if label.start ≤ view.line.stop && view.line.offset < label.stop then
    match row with
    | .source _ => addAtSource view marks label (index == column)
    | .above number => addAtRow view number false marks label (index == column)
    | .arrow number => addAtRow view number true marks label (index == column)
  else
    marks

/-- The marks in a column of a margin. -/
def ofColumn (view : LineView) (row : MarginRow) (column : Nat) : MarginMarks :=
  (view.spanning.take (column + 1)).zipIdx.foldl (add view row column) {}

/-- The two characters for the margin's pointer in a column. -/
def drawPointer (view : LineView) (column : Nat) (isStart : Bool) : List Char :=
  match view.spanning[column]? with
  | none => ['▶', ' ']
  | some label =>
      if view.isMargin label then [if isStart then '╭' else '├', '─'] else ['─', '─']

/-- The two characters of a column of a margin. -/
def draw (view : LineView) (row : MarginRow) (column : Nat) : List Char :=
  let marks := ofColumn view row column
  let bar := if row = .source true then '┆' else '│'
  match marks.corner with
  | some isStart => [if isStart then '╭' else '╰', '─']
  | none =>
      if marks.across then ['─', '─']
      else if marks.down then [bar, ' ']
      else
        match marks.pointer with
        | some isStart => drawPointer view column isStart
        | none => [' ', ' ']

end MarginMarks

namespace Margin

/-- Characters for a margin without a line number. -/
def blank (width : Nat) (bar : Char) : List Char := List.replicate (width + 2) ' ' ++ [bar, ' ']

/-- Characters for a margin with the number of a line. -/
def numbered (width : Nat) (line : SourceLine) : List Char :=
  let number := (toString (line.index + 1)).toList
  ' ' :: (List.replicate (width - number.length) ' ' ++ number ++ [' ', '│', ' '])

/-- The columns of a margin for the spanning labels, one more than there are labels. -/
def columns (view : LineView) (row : MarginRow) : List Char :=
  if view.spanning.isEmpty then []
  else (List.range (view.spanning.length + 1)).flatMap (MarginMarks.draw view row)

/-- The margin beside a row of a line. -/
def draw (width : Nat) (view : LineView) (row : MarginRow) : List Char :=
  let front :=
    match row with
    | .source false => numbered width view.line
    | .source true => blank width '┆'
    | _ => blank width '│'
  front ++ columns view row

end Margin
end BundleMarkup
