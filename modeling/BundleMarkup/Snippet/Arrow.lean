import BundleMarkup.Snippet.Label
import BundleMarkup.Text.Blank
import BundleMarkup.Text.Width

/-!
# Arrows of snippets

Below a line each label has two rows: one with the bars that lead down to the labels still to come,
the first of them with underlines, and one with the arrow from the label's column to its message.
-/

namespace BundleMarkup
namespace LineView

/-- Columns after which a tab ends. -/
def tabWidth : Nat := 4

/-- The character that stands for one at a column, and how many columns it takes. -/
def cellOf (column : Nat) (char : Char) : Char × Nat :=
  if char = '\t' then (' ', (column / tabWidth + 1) * tabWidth - column)
  else if Text.isBlank char then (' ', 1)
  else (char, Text.displayWidth char)

/-- The line's text as far as it is shown. -/
def shownText (view : LineView) : List Char := Text.trimEnd view.line.text

/-- The characters that stand for one of the line's characters. -/
def drawCell (column : Nat) (char : Char) : List Char :=
  let (shown, width) := cellOf column char
  if Text.isBlank shown then List.replicate width shown else [shown]

/-- The line's text as drawn. -/
def drawText (view : LineView) : List Char :=
  view.shownText.zipIdx.flatMap fun (char, column) => drawCell column char

/-- How many columns the character at a place of the line takes. -/
def widthAt (view : LineView) (column : Nat) : Nat :=
  match view.shownText[column]? with
  | some char => (cellOf column char).2
  | none => 1

/-- Two columns past the last label: where the messages start. -/
def arrowLength (view : LineView) : Nat :=
  view.labels.foldl
    (fun length attached =>
      if attached.label.spansLines then view.line.text.length
      else max length (attached.label.stop - view.line.offset)) 0 + 2

/-- The label whose bar passes a column on the way down to a row. -/
def barAt (view : LineView) (column row : Nat) : Option LineLabel :=
  (view.labels.zipIdx.find? fun (attached, index) =>
    !view.isMargin attached.label && attached.column == column && row ≤ index).map (·.1)

/-- Whether an inline label underlines a column. -/
def isUnderlined (view : LineView) (column : Nat) : Bool :=
  view.labels.any fun attached =>
    !attached.label.spansLines && attached.label.marks (view.line.offset + column)

/-- A character drawn over the columns of a place, repeated as another one. -/
def fill (width : Nat) (first other : Char) : List Char :=
  match width with
  | 0 => []
  | rest + 1 => first :: List.replicate rest other

/-- What is drawn at a column in the row above an arrow. -/
def barCell (view : LineView) (row column : Nat) : Char × Char :=
  let underlined := row == 0 && view.isUnderlined column
  match view.barAt column row with
  | some attached =>
      if underlined then ('┬', '─')
      else if attached.label.spansLines && row == 0 then ('▲', ' ')
      else ('│', ' ')
  | none => if underlined then ('─', '─') else (' ', ' ')

/-- What is drawn at a column in the row of a label's arrow. -/
def arrowCell (view : LineView) (attached : LineLabel) (row column : Nat) : Char × Char :=
  let isLine :=
    (decide (attached.column < column) ^^ attached.label.spansLines) ||
      (attached.drawsMessage && attached.column < column)
  if column = attached.column && !view.isMargin attached.label then
    let head :=
      if !attached.label.spansLines then '╰' else if attached.drawsMessage then '┴' else '╯'
    (head, '─')
  else if isLine then ('─', '─')
  else if (view.barAt column row).isSome then ('│', ' ')
  else (' ', ' ')

/-- A row below the line, drawn column by column. -/
def drawRow (view : LineView) (cell : Nat → Char × Char) : List Char :=
  (List.range view.arrowLength).flatMap fun column =>
    let (first, other) := cell column
    fill (view.widthAt column) first other

/-- The row above the arrow of the label with a given number. -/
def drawBars (view : LineView) (row : Nat) : List Char := view.drawRow (view.barCell row)

/-- The row of a label's arrow, with its message. -/
def drawArrow (view : LineView) (attached : LineLabel) (row : Nat) : List Char :=
  view.drawRow (view.arrowCell attached row) ++
    if attached.drawsMessage then ' ' :: attached.label.message.toList else []

end LineView
end BundleMarkup
