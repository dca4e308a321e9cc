import BundleMarkup.Toml.Scalar
import BundleMarkup.Toml.Text

/-!
# Configuration texts

A configuration text is read in two steps: its lines give headings and assignments, and these give
the table that the text stands for.  Nothing may be defined twice.
-/

namespace BundleMarkup
namespace Toml

/-- How deep brackets and braces may be nested, and how many parts a key may have. -/
def maxDepth : Nat := 79

/-- Whether a character is a space within a line. -/
def isSpace (char : Char) : Bool := char = ' ' || char = '\t'

/-- A text without the spaces at its start. -/
def skipSpaces (input : List Char) : List Char := input.dropWhile isSpace

/-- What follows the end of a line, before which there may be spaces and a comment. -/
def afterLine? (input : List Char) : Option (List Char) :=
  let rest := skipSpaces input
  let rest := if rest.head? = some '#' then rest.dropWhile isPlain else rest
  match rest with
  | [] => some []
  | char :: rest => if char = '\n' then some rest else none

/-- What follows spaces, line breaks and comments. -/
def skipLines? (inComment : Bool) : List Char → Option (List Char)
  | [] => if inComment then none else some []
  | char :: rest =>
      if char = '\n' then skipLines? false rest
      else if inComment then
        if isPlain char then skipLines? true rest else none
      else if isSpace char then skipLines? false rest
      else if char = '#' then skipLines? true rest
      else some (char :: rest)

/-- Whether a character may stand in a key without quotes. -/
def isBare (char : Char) : Bool := char.isAlphanum || char = '-' || char = '_'

/-- Read one part of a key. -/
def readKeyPart (input : List Char) : Option (String × List Char) :=
  match input.takeWhile isBare with
  | [] => (readShortText input).map fun (text, rest) => (String.ofList text, rest)
  | first :: others => some (String.ofList (first :: others), input.dropWhile isBare)

/-- Read the parts of a key, at most as many as given, down to the last. -/
def readKeyParts : Nat → List Char → Option ((List String × String) × List Char)
  | 0, _ => none
  | more + 1, input => do
      let (part, rest) ← readKeyPart (skipSpaces input)
      match skipSpaces rest with
      | '.' :: rest =>
          let ((path, last), rest) ← readKeyParts more rest
          return ((part :: path, last), rest)
      | rest => return (([], part), rest)

/-- Read a key: the parts before its last and the last. -/
def readKey (input : List Char) : Option ((List String × String) × List Char) :=
  readKeyParts maxDepth input

mutual

/-- Read a value, with brackets and braces nested up to a depth. -/
def readValue (depth : Nat) (input : List Char) : Option (Value × List Char) :=
  match input with
  | [] => none
  | char :: rest =>
      if char = '"' ∨ char = '\'' then
        (readText input).map fun (text, rest) => (.string (String.ofList text), rest)
      else if char = '[' then
        match depth with
        | 0 => none
        | inner + 1 =>
            (readItems inner (rest.length + 1) rest).map fun (items, rest) => (.array items, rest)
      else if char = '{' then
        match depth with
        | 0 => none
        | inner + 1 =>
            match skipSpaces rest with
            | '}' :: rest => some (.table (.empty .inline), rest)
            | _ =>
                (readMembers inner (rest.length + 1) (.empty .inline) rest).map
                  fun (table, rest) => (.table table, rest)
      else
        readScalar input
termination_by (depth, 0)

/-- Read the items of an array up to its closing bracket, at most as many as given. -/
def readItems (depth : Nat) (more : Nat) (input : List Char) :
    Option (List Value × List Char) :=
  match more with
  | 0 => none
  | more + 1 => do
      match ← skipLines? false input with
      | ']' :: rest => return ([], rest)
      | input =>
          let (item, rest) ← readValue depth input
          match ← skipLines? false rest with
          | ',' :: rest =>
              let (items, rest) ← readItems depth more rest
              return (item :: items, rest)
          | ']' :: rest => return ([item], rest)
          | _ => none
termination_by (depth, more)

/-- Read the members of a table in braces up to the closing one, at most as many as given. -/
def readMembers (depth : Nat) (more : Nat) (table : Table) (input : List Char) :
    Option (Table × List Char) :=
  match more with
  | 0 => none
  | more + 1 => do
      let ((path, key), rest) ← readKey input
      match rest with
      | '=' :: rest =>
          let (value, rest) ← readValue depth (skipSpaces rest)
          let table ← table.assign path key value
          match skipSpaces rest with
          | ',' :: rest => readMembers depth more table rest
          | '}' :: rest => return (table, rest)
          | _ => none
      | _ => none
termination_by (depth, more)

end

/-- What a line of a configuration text is. -/
inductive Line
  | assignment (path : List String) (key : String) (value : Value)
  | heading (path : List String) (key : String)
  /-- A heading that may be repeated. -/
  | repeatedHeading (path : List String) (key : String)

/-- Read a heading that may be repeated, after its opening brackets. -/
def readRepeatedHeading (input : List Char) : Option (Line × List Char) := do
  let ((path, key), rest) ← readKey input
  match rest with
  | ']' :: ']' :: rest => return (.repeatedHeading path key, rest)
  | _ => none

/-- Read a heading, after its opening bracket. -/
def readHeading (input : List Char) : Option (Line × List Char) := do
  let ((path, key), rest) ← readKey input
  match rest with
  | ']' :: rest => return (.heading path key, rest)
  | _ => none

/-- Read an assignment. -/
def readAssignment (input : List Char) : Option (Line × List Char) := do
  let ((path, key), rest) ← readKey input
  match rest with
  | '=' :: rest =>
      let (value, rest) ← readValue maxDepth (skipSpaces rest)
      return (.assignment path key value, rest)
  | _ => none

/-- Read what a line that is not empty consists of. -/
def readLine : List Char → Option (Line × List Char)
  | '[' :: '[' :: rest => readRepeatedHeading rest
  | '[' :: rest => readHeading rest
  | input => readAssignment input

/-- Read lines, at most as many as given. -/
def readLines : Nat → List Char → Option (List Line)
  | 0, _ => none
  | more + 1, input =>
      match skipSpaces input with
      | [] => some []
      | char :: rest =>
          if char = '\n' ∨ char = '#' then do
            readLines more (← afterLine? (char :: rest))
          else do
            let (line, rest) ← readLine (char :: rest)
            let later ← readLines more (← afterLine? rest)
            return line :: later

/-- A table that is filled, and the path of the heading that is in force. -/
structure Filling where
  /-- The table of the whole text. -/
  root : Table
  /-- The path of the heading. -/
  path : List String

namespace Filling

/-- Go on with the next line. -/
def step (filling : Filling) : Line → Option Filling
  | .assignment path key value => do
      let root ← filling.root.update .surrounding (Table.assign path key value) filling.path
      return { filling with root }
  | .heading path key => do
      return ⟨← filling.root.addHeading path key, path ++ [key]⟩
  | .repeatedHeading path key => do
      return ⟨← filling.root.addRepeated path key, path ++ [key]⟩

end Filling

/-- A text with every line break written as a line feed alone. -/
def unifyBreaks : List Char → List Char
  | '\r' :: '\n' :: rest => '\n' :: unifyBreaks rest
  | char :: rest => char :: unifyBreaks rest
  | [] => []

/-- A text without the byte-order mark at its start. -/
def withoutMark : List Char → List Char
  | [] => []
  | char :: rest => if char = '\ufeff' then rest else char :: rest

/-- The table that a configuration text stands for, if it is well formed. -/
def read? (text : String) : Option Table := do
  let input := unifyBreaks (withoutMark text.toList)
  let lines ← readLines (input.length + 1) input
  let filling ← lines.foldlM Filling.step ⟨.empty .headed, []⟩
  return filling.root

end Toml
end BundleMarkup
