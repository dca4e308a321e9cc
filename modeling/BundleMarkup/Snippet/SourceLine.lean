/-!
# Lines of source text

A snippet shows whole lines.  A line ends with its terminator, and a carriage return with a line
feed after it is one terminator.  Offsets count characters.
-/

namespace BundleMarkup

/-- A line of a text. -/
structure SourceLine where
  /-- Lines before this one. -/
  index : Nat
  /-- Characters before this line. -/
  offset : Nat
  /-- The line with its terminator. -/
  text : List Char
  deriving DecidableEq, Repr

namespace SourceLine

/-- Whether a character ends a line. -/
def isTerminator (char : Char) : Bool :=
  char = '\r' || char = '\n' || char = '\x0b' || char = '\x0c' || char = '\u0085' ||
    char = '\u2028' || char = '\u2029'

/-- Split a text into lines, given the characters of the line so far, latest first. -/
def splitFrom (current : List Char) : List Char → List (List Char)
  | [] => if current.isEmpty then [] else [current.reverse]
  | '\r' :: '\n' :: rest => ('\n' :: '\r' :: current).reverse :: splitFrom [] rest
  | char :: rest =>
      if isTerminator char then
        (char :: current).reverse :: splitFrom [] rest
      else
        splitFrom (char :: current) rest

/-- Number lines from an index and an offset on. -/
def numberFrom (index offset : Nat) : List (List Char) → List SourceLine
  | [] => []
  | text :: rest => ⟨index, offset, text⟩ :: numberFrom (index + 1) (offset + text.length) rest

/-- The lines of a text. -/
def ofText (text : List Char) : List SourceLine := numberFrom 0 0 (splitFrom [] text)

/-- The offset after a line. -/
def stop (line : SourceLine) : Nat := line.offset + line.text.length

/-- Whether the character at an offset belongs to a line. -/
def covers (line : SourceLine) (offset : Nat) : Bool :=
  line.offset ≤ offset && offset < line.stop

/-- The line of an offset; the end of the text belongs to the last line. -/
def find? (lines : List SourceLine) (offset : Nat) : Option SourceLine := do
  let last ← lines.getLast?
  if offset ≤ last.stop then (lines.filter (·.offset ≤ offset)).getLast? else none

end SourceLine
end BundleMarkup
