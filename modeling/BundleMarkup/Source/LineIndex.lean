import BundleMarkup.Source.Bisection
import BundleMarkup.Source.Location
import BundleMarkup.Text.Bytes

/-!
# Line index

The offsets of a text's line breaks are enough to give every byte offset its row and column
without keeping the text.  A line break belongs to the line that it ends.
-/

namespace BundleMarkup

/-- Where the line breaks of a text are. -/
structure LineIndex where
  /-- Offsets of the line feeds, in increasing order. -/
  breaks : List Nat
  /-- Bytes in the whole text. -/
  size : Nat
  deriving DecidableEq, Repr

namespace LineIndex

/-- Offsets of the line feeds of a text that starts at `offset`. -/
def breaksFrom (offset : Nat) : List Char → List Nat
  | [] => []
  | char :: rest =>
      if char = '\n' then
        offset :: breaksFrom (offset + char.utf8Size) rest
      else
        breaksFrom (offset + char.utf8Size) rest

/-- The index of a text. -/
def ofText (text : List Char) : LineIndex :=
  ⟨breaksFrom 0 text, Text.byteLength text⟩

/-- Number of lines of the indexed text; a text without line breaks has one. -/
def lineCount (index : LineIndex) : Nat := index.breaks.length + 1

/-- The row of an offset: as many as there are line breaks before it. -/
def row (index : LineIndex) (offset : Nat) : Nat := (Rank.among index.breaks offset).position

/-- The offset at which a row starts; rows but the first start behind a line break. -/
def rowStart? (index : LineIndex) : Nat → Option Nat
  | 0 => some 0
  | row + 1 => index.breaks[row]?.map (· + 1)

/-- Row and column of an offset, unless it lies beyond the end of the text. -/
def location? (index : LineIndex) (offset : Nat) : Option Location :=
  if index.size < offset then
    none
  else
    (index.rowStart? (index.row offset)).map fun start =>
      { offset, row := index.row offset, column := offset - start }

/-- The extent between two offsets, unless one lies beyond the end of the text. -/
def extent? (index : LineIndex) (start stop : Nat) : Option Extent := do
  return ⟨← index.location? start, ← index.location? stop⟩

/-- The span between two offsets of a file; offsets beyond its end carry no row and column. -/
def span (index : LineIndex) (file : FileId) (start stop : Nat) : SourceSpan :=
  match index.extent? start stop with
  | some extent => ⟨file, extent⟩
  | none => .ofOffsets file start stop

variable (index : LineIndex) (file : FileId) (start stop : Nat)

theorem offset_of_location? {offset : Nat} {location : Location}
    (found : index.location? offset = some location) : location.offset = offset := by
  unfold location? at found
  split at found
  · cases found
  · obtain ⟨_, _, rfl⟩ := Option.map_eq_some_iff.mp found
    rfl

theorem offsets_of_extent? {extent : Extent} (found : index.extent? start stop = some extent) :
    extent.start.offset = start ∧ extent.stop.offset = stop := by
  obtain ⟨first, atStart, found⟩ := Option.bind_eq_some_iff.mp found
  obtain ⟨last, atStop, found⟩ := Option.bind_eq_some_iff.mp found
  obtain rfl := Option.some.inj found
  exact ⟨index.offset_of_location? atStart, index.offset_of_location? atStop⟩

/-- Whether or not they have rows, spans keep the offsets that they are made from. -/
@[simp]
theorem start_span : (index.span file start stop).start = start := by
  unfold span
  split
  · rename_i found
    exact (index.offsets_of_extent? start stop found).1
  · rfl

@[simp]
theorem stop_span : (index.span file start stop).stop = stop := by
  unfold span
  split
  · rename_i found
    exact (index.offsets_of_extent? start stop found).2
  · rfl

@[simp]
theorem file_span : (index.span file start stop).file = file := by
  unfold span
  split <;> rfl

end LineIndex
end BundleMarkup
