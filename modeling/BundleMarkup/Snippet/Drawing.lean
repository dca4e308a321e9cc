import BundleMarkup.Snippet.Arrow
import BundleMarkup.Snippet.Margin

/-!
# Snippets

A snippet is a heading, the place it is about and the lines of the text from the first label to the
last.  Lines without labels are left out, and an ellipsis stands for a gap.
-/

namespace BundleMarkup

/-- What a snippet shows. -/
structure SnippetRequest where
  heading : String
  path : String
  text : List Char
  /-- The offset that the snippet is about. -/
  location : Nat
  /-- What is said about the text. -/
  labels : List LabelRequest
  deriving DecidableEq, Repr

namespace Snippet

def digits (number : Nat) : Nat := (toString number).length

/-- The indices of the first line that is shown and of the one after the last. -/
def lineRange (lines : List SourceLine) (labels : List SnippetLabel) : Nat × Nat :=
  let start := (labels.map SnippetLabel.start).min?.getD 0
  let stop := (labels.map SnippetLabel.stop).max?.getD 0
  let first := ((SourceLine.find? lines start).map SourceLine.index).getD 0
  let last := SourceLine.find? lines (max (stop - 1) start)
  (first, (last.map fun line => line.index + 1).getD lines.length)

/-- The rows of a line that labels are attached to. -/
def drawLabelled (width : Nat) (view : LineView) : List (List Char) :=
  let source := Margin.draw width view (.source false) ++ view.drawText
  source ::
    view.labels.zipIdx.flatMap fun (attached, row) =>
      [Margin.draw width view (.above row) ++ view.drawBars row,
        Margin.draw width view (.arrow row) ++ view.drawArrow attached row]

/-- The rows of a line without labels, and whether an ellipsis stands for it and those after it. -/
def drawBare (width : Nat) (view : LineView) (isEllipsis : Bool) : List (List Char) :=
  if isEllipsis then []
  else if view.isWithin then [Margin.draw width view (.source true)]
  else [Margin.blank width '│']

/-- The rows of lines, given whether an ellipsis stands before them. -/
def drawLines (width : Nat) (labels : List SnippetLabel) :
    Bool → List SourceLine → List (List Char)
  | _, [] => []
  | isEllipsis, line :: rest =>
      let view := LineView.ofLine labels line
      if view.isBare then
        drawBare width view isEllipsis ++ drawLines width labels true rest
      else
        drawLabelled width view ++ drawLines width labels false rest

/-- The row that tells which place a snippet is about. -/
def placeRow (width : Nat) (request : SnippetRequest) (lines : List SourceLine) : List Char :=
  let place :=
    match SourceLine.find? lines request.location with
    | some line =>
        let column := request.location - line.offset + 1
        s!":{line.index + 1}:{column}"
    | none => ":?:?"
  List.replicate (width + 2) ' ' ++ ['╭', '─', '['] ++ (request.path ++ place).toList ++ [']']

/-- The rows of a snippet below its heading. -/
def body (request : SnippetRequest) (lines : List SourceLine) (labels : List SnippetLabel) :
    List (List Char) :=
  let (first, last) := lineRange lines labels
  let width := digits last
  let shown := (lines.drop first).take (last - first)
  [placeRow width request lines, List.replicate (width + 2) ' ' ++ ['│']] ++
    drawLines width labels false shown ++ [List.replicate (width + 2) '─' ++ ['╯']]

/-- A snippet as printed; without labels only its heading is left. -/
def draw (request : SnippetRequest) : String :=
  let lines := SourceLine.ofText request.text
  let labels := SnippetLabel.ofRequests lines request.labels
  let rows := if labels.isEmpty then [] else body request lines labels
  let printed := (request.heading.toList :: rows).intersperse ['\n']
  String.ofList (Text.trimEnd printed.flatten)

/-- A snippet as printed, unless one of its labels stops before it starts. -/
def draw? (request : SnippetRequest) : Option String :=
  if request.labels.any LabelRequest.isBackwards then none else some (draw request)

/-- A snippet is printed exactly if every label starts before it stops or where it stops. -/
theorem draw?_eq_some_iff {request : SnippetRequest} {text : String} :
    draw? request = some text ↔
      (∀ label ∈ request.labels, label.start ≤ label.stop) ∧ text = draw request := by
  simp only [draw?, LabelRequest.isBackwards, Option.ite_none_left_eq_some, Option.some.injEq,
    List.any_eq_true, decide_eq_true_eq, not_exists, not_and, Nat.not_lt]
  rw [@eq_comm _ (draw request)]

end Snippet
end BundleMarkup
