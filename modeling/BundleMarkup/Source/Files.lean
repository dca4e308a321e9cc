import BundleMarkup.Source.LineIndex
import BundleMarkup.Source.Storage

/-!
# Registered source files

Files are numbered in the order of their registration.  A file is registered with its text or by
its path alone; in the second case its line index is built from what storage holds at that path,
and the text itself is not kept.
-/

namespace BundleMarkup

/-- A registered source file. -/
structure SourceFile where
  /-- The path or name under which the file was registered. -/
  path : String
  /-- The text, kept for files that were registered with it. -/
  content : Option String
  /-- The line index, present whenever the text could be had. -/
  index : Option LineIndex
  deriving DecidableEq, Repr

/-- The files that a compilation reads from. -/
structure SourceFiles where
  /-- The files by their numbers. -/
  files : List SourceFile
  deriving DecidableEq, Repr

namespace SourceFiles

def empty : SourceFiles := ⟨[]⟩

/-- Register a file and return its number. -/
def add (sources : SourceFiles) (storage : Storage) (path : String) (content : Option String) :
    FileId × SourceFiles :=
  let index :=
    match content with
    | some text => some (LineIndex.ofText text.toList)
    | none => (storage path).toOption.map fun text => LineIndex.ofText text.toList
  (⟨sources.files.length⟩, ⟨sources.files ++ [⟨path, content, index⟩]⟩)

/-- The file registered under a number. -/
def get? (sources : SourceFiles) (file : FileId) : Option SourceFile :=
  sources.files[file.index]?

/-- The span between two offsets of a registered file that has a line index. -/
def span? (sources : SourceFiles) (file : FileId) (start stop : Nat) : Option SourceSpan := do
  let source ← sources.get? file
  let index ← source.index
  let extent ← index.extent? start stop
  return ⟨file, extent⟩

/-- A span as `path(line)`. -/
def describe? (sources : SourceFiles) (span : SourceSpan) : Option String := do
  let line ← span.line?
  match sources.get? span.file with
  | some source => return s!"{source.path}({line})"
  | none => return s!"<unknown>({line})"

end SourceFiles
end BundleMarkup
