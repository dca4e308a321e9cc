/-!
# Storage

Texts are read from storage by their paths.  A path is followed part by part: an empty part and a
dot stay where they are, two dots go to the directory above, and any other part is the name of
something in the directory that is reached.
-/

namespace BundleMarkup

/-- Why storage gives no text for a path. -/
inductive ReadFailure
  | missing
  | directory
  /-- The path goes on below a text. -/
  | notDirectory
  | tooLong
  | nullCharacter
  deriving DecidableEq, Repr

namespace ReadFailure

def message : ReadFailure → String
  | missing => "No such file or directory (os error 2)"
  | directory => "Is a directory (os error 21)"
  | notDirectory => "Not a directory (os error 20)"
  | tooLong => "File name too long (os error 36)"
  | nullCharacter => "file name contained an unexpected NUL byte"

end ReadFailure

/-- What reading a path from storage gives. -/
def Storage := String → Except ReadFailure String

/-- Something that storage holds. -/
inductive StoredItem
  | directory
  | text (content : String)
  deriving DecidableEq, Repr

/-- What storage holds at a place, given by the names that lead to it from the root. -/
def Inventory := List String → Option StoredItem

namespace Inventory

/-- The root, a working directory without a name, and the null device in its directory. -/
def bare : Inventory
  | [] => some .directory
  | [""] => some .directory
  | ["dev"] => some .directory
  | ["dev", "null"] => some (.text "")
  | _ => none

/-- The most bytes that a name has. -/
def maxNameSize : Nat := 255

/-- The most bytes that a path has. -/
def maxPathSize : Nat := 4095

/-- The place that one part of a path leads to from a place. -/
def follow (inventory : Inventory) (place : List String) (part : String) :
    Except ReadFailure (List String) :=
  match inventory place with
  | none => .error .missing
  | some (.text _) => .error .notDirectory
  | some .directory =>
      if part = "" ∨ part = "." then .ok place
      else if part = ".." then .ok place.dropLast
      else if maxNameSize < part.utf8ByteSize then .error .tooLong
      else if (inventory (place ++ [part])).isSome then .ok (place ++ [part])
      else .error .missing

/-- The place that a path leads to; a path that does not start at the root starts at the working
directory. -/
def resolve (inventory : Inventory) (path : String) : Except ReadFailure (List String) :=
  (path.splitOn "/").foldlM inventory.follow (if path.startsWith "/" then [] else [""])

/-- Read the text at a path. -/
def read (inventory : Inventory) : Storage := fun path =>
  if path.contains '\x00' then .error .nullCharacter
  else if path = "" then .error .missing
  else if maxPathSize < path.utf8ByteSize then .error .tooLong
  else do
    match inventory (← inventory.resolve path) with
    | none => .error .missing
    | some .directory => .error .directory
    | some (.text content) => .ok content

end Inventory

/-- Storage that holds no text but the null device. -/
def Storage.bare : Storage := Inventory.bare.read

end BundleMarkup
