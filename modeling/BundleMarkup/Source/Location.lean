import BundleMarkup.Word

/-!
# Places in source text

A location is a byte offset with the row and column it falls on, an extent is a pair of locations
and a span is an extent within a numbered file.  Rows and columns are stored from zero and shown
from one, as far as a machine word goes.
-/

namespace BundleMarkup

/-- The number under which a source file is registered. -/
structure FileId where
  /-- Position of the file in the order of registration. -/
  index : Nat
  deriving DecidableEq, Repr, Inhabited

/-- A place in a source text. -/
structure Location where
  /-- Bytes before the place. -/
  offset : Nat
  /-- Line breaks before the place. -/
  row : Nat
  /-- Bytes between the start of the row and the place. -/
  column : Nat
  deriving DecidableEq, Repr, Ord

/-- The text from one location up to another. -/
structure Extent where
  /-- First location inside. -/
  start : Location
  /-- First location after the text. -/
  stop : Location
  deriving DecidableEq, Repr

/-- An extent of a registered file. -/
structure SourceSpan where
  /-- The file that the extent lies in. -/
  file : FileId
  extent : Extent
  deriving DecidableEq, Repr

namespace Location

/-- A location that knows only its offset: row and column are zero. -/
def ofOffset (offset : Nat) : Location := ⟨offset, 0, 0⟩

end Location

namespace Extent

/-- Bytes covered by an extent, zero if it ends before it starts. -/
def size (extent : Extent) : Nat := extent.stop.offset - extent.start.offset

def isEmpty (extent : Extent) : Bool := extent.size == 0

end Extent

namespace SourceSpan

/-- A span that knows only its byte offsets. -/
def ofOffsets (file : FileId) (start stop : Nat) : SourceSpan :=
  ⟨file, .ofOffset start, .ofOffset stop⟩

instance : Inhabited SourceSpan := ⟨ofOffsets ⟨0⟩ 0 0⟩

/-- The offset at which a span starts. -/
def start (span : SourceSpan) : Nat := span.extent.start.offset

/-- The offset at which a span ends. -/
def stop (span : SourceSpan) : Nat := span.extent.stop.offset

/-- The line on which a span starts, counted from one. -/
def line? (span : SourceSpan) : Option Nat := Word.next? span.extent.start.row

/-- The column at which a span starts, counted from one. -/
def column? (span : SourceSpan) : Option Nat := Word.next? span.extent.start.column

end SourceSpan
end BundleMarkup
