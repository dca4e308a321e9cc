import BundleMarkup.Json
import BundleMarkup.Source.Files

/-!
# Records of source places

The JSON records in which locations, spans, line indexes and registered files are kept, each with
the reader of what it writes.
-/

namespace BundleMarkup

/-- The record of a file number: the number itself. -/
def FileId.toJson (file : FileId) : Json := .ofNat file.index

def FileId.ofJson? (value : Json) : Option FileId := value.nat?.map FileId.mk

namespace Location

def toJson (location : Location) : Json :=
  .object
    [("offset", .ofNat location.offset), ("row", .ofNat location.row),
      ("column", .ofNat location.column)]

def ofJson? (value : Json) : Option Location := do
  let members ← value.record? ["offset", "row", "column"]
  return {
    offset := ← Json.field? "offset" Json.nat? members
    row := ← Json.field? "row" Json.nat? members
    column := ← Json.field? "column" Json.nat? members }

end Location

namespace Extent

def toJson (extent : Extent) : Json :=
  .object [("start", extent.start.toJson), ("end", extent.stop.toJson)]

def ofJson? (value : Json) : Option Extent := do
  let members ← value.record? ["start", "end"]
  return {
    start := ← Json.field? "start" Location.ofJson? members
    stop := ← Json.field? "end" Location.ofJson? members }

end Extent

namespace SourceSpan

def toJson (span : SourceSpan) : Json :=
  .object [("file_id", span.file.toJson), ("range", span.extent.toJson)]

def ofJson? (value : Json) : Option SourceSpan := do
  let members ← value.record? ["file_id", "range"]
  return {
    file := ← Json.field? "file_id" FileId.ofJson? members
    extent := ← Json.field? "range" Extent.ofJson? members }

end SourceSpan

namespace LineIndex

def toJson (index : LineIndex) : Json :=
  .object
    [("line_breaks", .array (index.breaks.map .ofNat)), ("total_length", .ofNat index.size)]

def ofJson? (value : Json) : Option LineIndex := do
  let members ← value.record? ["line_breaks", "total_length"]
  return {
    breaks := ← Json.field? "line_breaks" (Json.list? Json.nat?) members
    size := ← Json.field? "total_length" Json.nat? members }

end LineIndex

namespace SourceFile

/-- The record of a registered file; text and index are left out when absent. -/
def toJson (source : SourceFile) : Json :=
  .object
    (("path", .string source.path) ::
      Json.optionalMember "content" .string source.content ++
      Json.optionalMember "file_info" LineIndex.toJson source.index)

def ofJson? (value : Json) : Option SourceFile := do
  let members ← value.record? ["path", "content", "file_info"]
  return {
    path := ← Json.field? "path" Json.text? members
    content := ← Json.optionalField? "content" Json.text? members
    index := ← Json.optionalField? "file_info" LineIndex.ofJson? members }

end SourceFile

namespace SourceFiles

def toJson (sources : SourceFiles) : Json :=
  .object [("files", .array (sources.files.map SourceFile.toJson))]

def ofJson? (value : Json) : Option SourceFiles := do
  let members ← value.record? ["files"]
  return { files := ← Json.field? "files" (Json.list? SourceFile.ofJson?) members }

end SourceFiles
end BundleMarkup
