import BundleMarkup.Policy
import BundleMarkup.Proofs.Records.Members

/-!
# Records read back

A record loses nothing: what is read from it is the value that it was made of.  Numbers have to fit
a machine word, as all numbers that are kept do; nothing else is asked of a value.
-/

namespace BundleMarkup

open Json (Keeps)

/-- Offset, row and column of a location fit a machine word. -/
structure Location.Fits (location : Location) : Prop where
  offset : location.offset ≤ Word.largest
  row : location.row ≤ Word.largest
  column : location.column ≤ Word.largest

structure Extent.Fits (extent : Extent) : Prop where
  start : extent.start.Fits
  stop : extent.stop.Fits

/-- The numbers in a span fit a machine word. -/
structure SourceSpan.Fits (span : SourceSpan) : Prop where
  file : span.file.index ≤ Word.largest
  extent : span.extent.Fits

structure LineIndex.Fits (index : LineIndex) : Prop where
  breaks : ∀ lineBreak ∈ index.breaks, lineBreak ≤ Word.largest
  size : index.size ≤ Word.largest

theorem FileId.keeps {file : FileId} (fits : file.index ≤ Word.largest) :
    Keeps toJson ofJson? file := by
  refine ⟨?_, nofun⟩
  rw [ofJson?, toJson, (Json.keeps_ofNat fits).read_write]
  rfl

theorem Location.keeps {location : Location} (fits : location.Fits) :
    Keeps toJson ofJson? location := by
  refine ⟨?_, nofun⟩
  have offset := (Json.keeps_ofNat fits.offset).read_write
  have row := (Json.keeps_ofNat fits.row).read_write
  have column := (Json.keeps_ofNat fits.column).read_write
  simp [ofJson?, toJson, Json.record?, Json.field?, offset, row, column]

theorem Extent.keeps {extent : Extent} (fits : extent.Fits) : Keeps toJson ofJson? extent := by
  refine ⟨?_, nofun⟩
  have start := (Location.keeps fits.start).read_write
  have stop := (Location.keeps fits.stop).read_write
  simp [ofJson?, toJson, Json.record?, Json.field?, start, stop]

theorem SourceSpan.keeps {span : SourceSpan} (fits : span.Fits) : Keeps toJson ofJson? span := by
  refine ⟨?_, nofun⟩
  have file := (FileId.keeps fits.file).read_write
  have extent := (Extent.keeps fits.extent).read_write
  simp [ofJson?, toJson, Json.record?, Json.field?, file, extent]

theorem LineIndex.keeps {index : LineIndex} (fits : index.Fits) : Keeps toJson ofJson? index := by
  refine ⟨?_, nofun⟩
  have breaks := (Json.keeps_array fun lineBreak among =>
    Json.keeps_ofNat (fits.breaks lineBreak among)).read_write
  have size := (Json.keeps_ofNat fits.size).read_write
  simp [ofJson?, toJson, Json.record?, Json.field?, breaks, size]

/-- The line index of a registered file fits, if there is one. -/
def SourceFile.Fits (source : SourceFile) : Prop := ∀ index ∈ source.index, index.Fits

def SourceFiles.Fits (sources : SourceFiles) : Prop := ∀ source ∈ sources.files, source.Fits

theorem SourceFile.keeps {source : SourceFile} (fits : source.Fits) :
    Keeps toJson ofJson? source := by
  refine ⟨?_, nofun⟩
  let members := ("path", Json.string source.path) ::
    Json.optionalMember "content" .string source.content ++
    Json.optionalMember "file_info" LineIndex.toJson source.index
  have path : Json.field? "path" Json.text? members = some source.path :=
    Json.field?_eq (Json.keeps_string _) (by simp [members])
  have content : Json.optionalField? "content" Json.text? members = some source.content :=
    Json.optionalField?_eq (fun text _ => Json.keeps_string text)
      (by simp [members])
  have index : Json.optionalField? "file_info" LineIndex.ofJson? members = some source.index :=
    Json.optionalField?_eq (fun index among => LineIndex.keeps (fits index among))
      (by simp [members])
  have record : source.toJson.record? ["path", "content", "file_info"] = some members := rfl
  simp [ofJson?, record, path, content, index]

theorem SourceFiles.keeps {sources : SourceFiles} (fits : sources.Fits) :
    Keeps toJson ofJson? sources := by
  refine ⟨?_, nofun⟩
  have files := (Json.keeps_array fun source among =>
    SourceFile.keeps (fits source among)).read_write
  simp [ofJson?, toJson, Json.record?, Json.field?, files]

def Detail.Fits (detail : Detail) : Prop := ∀ span ∈ detail.location, span.Fits

/-- The places in a diagnostic fit. -/
structure Diagnostic.Fits (diagnostic : Diagnostic) : Prop where
  details : ∀ detail ∈ diagnostic.details, detail.Fits
  location : ∀ span ∈ diagnostic.location, span.Fits

theorem Severity.keeps (severity : Severity) : Keeps toJson ofJson? severity := by
  refine ⟨?_, nofun⟩
  cases severity <;> rfl

theorem DetailKind.keeps (kind : DetailKind) : Keeps toJson ofJson? kind := by
  refine ⟨?_, nofun⟩
  cases kind <;> rfl

theorem Content.keeps (content : Content) : Keeps toJson ofJson? content := by
  cases content <;> exact ⟨rfl, nofun⟩

theorem Detail.keeps {detail : Detail} (fits : detail.Fits) : Keeps toJson ofJson? detail := by
  refine ⟨?_, nofun⟩
  let members := [("kind", detail.kind.toJson), ("content", detail.content.toJson)] ++
    Json.optionalMember "location" SourceSpan.toJson detail.location
  have kind : Json.field? "kind" DetailKind.ofJson? members = some detail.kind :=
    Json.field?_eq detail.kind.keeps (by simp [members])
  have content : Json.field? "content" Content.ofJson? members = some detail.content :=
    Json.field?_eq detail.content.keeps (by simp [members])
  have location : Json.optionalField? "location" SourceSpan.ofJson? members =
      some detail.location :=
    Json.optionalField?_eq (fun span among => SourceSpan.keeps (fits span among))
      (by simp [members])
  have record : detail.toJson.record? ["kind", "content", "location"] = some members := rfl
  simp [ofJson?, record, kind, content, location]

theorem Diagnostic.keeps {diagnostic : Diagnostic} (fits : diagnostic.Fits) :
    Keeps toJson ofJson? diagnostic := by
  refine ⟨?_, nofun⟩
  let members := Json.optionalMember "code" .string diagnostic.code ++
    [("title", .string diagnostic.title), ("kind", diagnostic.severity.toJson),
      ("problem", Json.ofOption Content.toJson diagnostic.problem),
      ("details", .array (diagnostic.details.map Detail.toJson)),
      ("hints", .array (diagnostic.hints.map Content.toJson))] ++
    Json.optionalMember "location" SourceSpan.toJson diagnostic.location
  have code : Json.optionalField? "code" Json.text? members = some diagnostic.code :=
    Json.optionalField?_eq (fun text _ => Json.keeps_string text)
      (by simp [members])
  have title : Json.field? "title" Json.text? members = some diagnostic.title :=
    Json.field?_eq (Json.keeps_string _)
      (by simp [members])
  have severity : Json.field? "kind" Severity.ofJson? members = some diagnostic.severity :=
    Json.field?_eq diagnostic.severity.keeps
      (by simp [members])
  have problem : Json.optionalField? "problem" Content.ofJson? members =
      some diagnostic.problem :=
    Json.optionalField?_ofOption (fun content _ => content.keeps)
      (by simp [members])
  have details : Json.field? "details" (Json.list? Detail.ofJson?) members =
      some diagnostic.details :=
    Json.field?_eq (Json.keeps_array fun detail among => Detail.keeps (fits.details detail among))
      (by simp [members])
  have hints : Json.field? "hints" (Json.list? Content.ofJson?) members =
      some diagnostic.hints :=
    Json.field?_eq (Json.keeps_array fun content _ => content.keeps)
      (by simp [members])
  have location : Json.optionalField? "location" SourceSpan.ofJson? members =
      some diagnostic.location :=
    Json.optionalField?_eq (fun span among => SourceSpan.keeps (fits.location span among))
      (by simp [members])
  have record : diagnostic.toJson.record?
      ["code", "title", "kind", "problem", "details", "hints", "location"] = some members := rfl
  simp [ofJson?, record, code, title, severity, problem, details, hints, location]

theorem CodeSet.place_eq_append {code : String} {codes : List String}
    (greater : ∀ other ∈ codes, other < code) : place code codes = codes ++ [code] := by
  induction codes with
  | nil => rfl
  | cons first rest ih =>
      have before := greater first List.mem_cons_self
      have later := ih fun other among => greater other (List.mem_cons_of_mem first among)
      rw [place, if_neg (String.lt_asymm before), if_neg (String.ne_of_lt before).symm, later]
      rfl

theorem CodeSet.codes_foldl_insert (set : CodeSet) {codes : List String}
    (increasing : (set.codes ++ codes).Pairwise (· < ·)) :
    (codes.foldl insert set).codes = set.codes ++ codes := by
  induction codes generalizing set with
  | nil => simp
  | cons first rest ih =>
      have greater : ∀ other ∈ set.codes, other < first := fun other among =>
        (List.pairwise_append.mp increasing).2.2 other among first List.mem_cons_self
      have inserted : (set.insert first).codes = set.codes ++ [first] := place_eq_append greater
      rw [List.foldl_cons, ih, inserted, List.append_assoc]
      · rfl
      · rw [inserted, List.append_assoc]
        exact increasing

/-- The codes of a set make the same set. -/
theorem CodeSet.ofList_codes (set : CodeSet) : ofList set.codes = set := by
  have same := codes_foldl_insert empty (show ([] ++ set.codes).Pairwise (· < ·) from
    set.increasing)
  obtain ⟨codes, increasing⟩ := set
  unfold ofList
  generalize codes.foldl insert empty = made at same
  obtain ⟨others, _⟩ := made
  obtain rfl : others = codes := same
  rfl

theorem WarningPolicy.keeps (policy : WarningPolicy) : Keeps toJson ofJson? policy := by
  refine ⟨?_, nofun⟩
  have codes : (Json.ofTexts policy.suppressed.codes).list? Json.text? =
      some policy.suppressed.codes :=
    (Json.keeps_array fun text _ => Json.keeps_string text).read_write
  simp [ofJson?, toJson, setField?, Json.bool?, codes, CodeSet.ofList_codes]

end BundleMarkup
