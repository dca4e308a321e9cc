import BundleMarkup.Proofs.Records.ReadBack

/-!
# Registries over time

Files are registered one after another, and in between the registry may be written as a record and
read back.  The registry is then the list of the files in the order of their registration, whenever
it was read back; so a number that was given to a file stays its number.
-/

namespace BundleMarkup

/-- Something done with a registry. -/
inductive RegistryStep
  /-- A file is registered, with its text or by its path alone. -/
  | add (storage : Storage) (path : String) (content : Option String)
  /-- The registry is written as a record and read back. -/
  | reload

namespace RegistryStep

/-- The text of a file that is registered, as far as it can be had. -/
def text? (storage : Storage) (path : String) (content : Option String) : Option String :=
  content.or (storage path).toOption

/-- The file that a step registers. -/
def file? : RegistryStep → Option SourceFile
  | add storage path content =>
      let index := (text? storage path content).map fun text => LineIndex.ofText text.toList
      some ⟨path, content, index⟩
  | reload => none

/-- A text that is registered has no more bytes than a machine word can count. -/
def Fits : RegistryStep → Prop
  | add storage path content =>
      ∀ text ∈ text? storage path content, Text.byteLength text.toList ≤ Word.largest
  | reload => True

end RegistryStep

namespace SourceFiles

/-- Do steps one after another, up to a record that cannot be read; the numbers given to files. -/
def run? (sources : SourceFiles) : List RegistryStep → Option (List FileId × SourceFiles)
  | [] => some ([], sources)
  | .add storage path content :: rest => do
      let (file, sources) := sources.add storage path content
      let (later, sources) ← run? sources rest
      return (file :: later, sources)
  | .reload :: rest => do
      let sources ← ofJson? sources.toJson
      run? sources rest

end SourceFiles

theorem LineIndex.lt_of_mem_breaksFrom {text : List Char} {start lineBreak : Nat}
    (among : lineBreak ∈ breaksFrom start text) : lineBreak < start + Text.byteLength text := by
  induction text generalizing start with
  | nil => cases among
  | cons char rest ih =>
      have positive := char.utf8Size_pos
      rw [Text.byteLength_cons]
      rw [breaksFrom] at among
      have later (inside : lineBreak ∈ breaksFrom (start + char.utf8Size) rest) :
          lineBreak < start + (char.utf8Size + Text.byteLength rest) := by
        have := ih inside
        omega
      split at among
      · rcases List.mem_cons.mp among with rfl | inside
        · omega
        · exact later inside
      · exact later among

theorem LineIndex.fits_ofText {text : List Char} (size : Text.byteLength text ≤ Word.largest) :
    (ofText text).Fits where
  breaks lineBreak among := by
    have inside := lt_of_mem_breaksFrom among
    omega
  size := size

theorem RegistryStep.Fits.file {step : RegistryStep} (fits : step.Fits) :
    ∀ source ∈ step.file?, source.Fits := by
  cases step with
  | reload => nofun
  | add storage path content =>
      rintro _ ⟨⟩ index among
      obtain ⟨text, had, rfl⟩ := Option.map_eq_some_iff.mp among
      exact LineIndex.fits_ofText (fits text had)

namespace SourceFiles

theorem add_eq (sources : SourceFiles) (storage : Storage) (path : String)
    (content : Option String) :
    ∃ source, (RegistryStep.add storage path content).file? = some source ∧
      sources.add storage path content =
        (⟨sources.files.length⟩, ⟨sources.files ++ [source]⟩) := by
  refine ⟨_, rfl, ?_⟩
  cases content <;> rfl

/-- A run gives the next numbers to the files it registers and puts them at the end. -/
theorem run?_eq {sources : SourceFiles} (fits : sources.Fits) {steps : List RegistryStep}
    (stepsFit : ∀ step ∈ steps, step.Fits) :
    let added := steps.filterMap RegistryStep.file?
    sources.run? steps =
      some ((List.range' sources.files.length added.length).map FileId.mk,
        ⟨sources.files ++ added⟩) := by
  induction steps generalizing sources with
  | nil => simp [run?]
  | cons step rest ih =>
      have restFit : ∀ step ∈ rest, step.Fits := fun step among =>
        stepsFit step (List.mem_cons_of_mem _ among)
      cases step with
      | reload =>
          have later := ih fits restFit
          rw [run?, (keeps fits).read_write, List.filterMap_cons_none rfl]
          exact later
      | add storage path content =>
          obtain ⟨source, file, added⟩ := sources.add_eq storage path content
          have grownFit : Fits ⟨sources.files ++ [source]⟩ := by
            intro other among
            rcases List.mem_append.mp among with before | last
            · exact fits other before
            · obtain rfl := List.mem_singleton.mp last
              exact (stepsFit _ List.mem_cons_self).file other file
          have later := ih grownFit restFit
          rw [run?, added, List.filterMap_cons_some file]
          simp [later, List.range'_succ]

theorem run?_empty {steps : List RegistryStep} (fits : ∀ step ∈ steps, step.Fits) :
    empty.run? steps =
      let added := steps.filterMap RegistryStep.file?
      some ((List.range added.length).map FileId.mk, ⟨added⟩) := by
  have none_yet : empty.Fits := List.forall_mem_nil _
  rw [run?_eq none_yet fits]
  simp only [List.range_eq_range']
  rfl

section

variable {left right : SourceFiles} {file : FileId} (same : left.get? file = right.get? file)

include same

theorem span?_congr (start stop : Nat) :
    left.span? file start stop = right.span? file start stop := by
  rw [span?, span?, same]

theorem describe?_congr {span : SourceSpan} (inside : span.file = file) :
    left.describe? span = right.describe? span := by
  rw [describe?, describe?, inside, same]

end

/-- What is registered later does not change what a number stands for. -/
theorem get?_append {files : List SourceFile} {file : FileId} (given : file.index < files.length)
    (later : List SourceFile) : get? ⟨files ++ later⟩ file = get? ⟨files⟩ file :=
  List.getElem?_append_left given

/--
Records lose nothing: diagnostics, spans, line indexes, policies and registries are read back as
they are.  So a registry that is now and then written and read back holds the files in the order
they were registered, numbered from zero; writing it and reading it back changes nothing; and what
a number once stood for, with all spans and descriptions in that file, it stands for ever after.
-/
theorem records_read_back :
    ((∀ diagnostic : Diagnostic, diagnostic.Fits →
        Diagnostic.ofJson? diagnostic.toJson = some diagnostic) ∧
      (∀ span : SourceSpan, span.Fits → SourceSpan.ofJson? span.toJson = some span) ∧
      (∀ index : LineIndex, index.Fits → LineIndex.ofJson? index.toJson = some index) ∧
      (∀ policy : WarningPolicy, WarningPolicy.ofJson? policy.toJson = some policy) ∧
      ∀ sources : SourceFiles, sources.Fits → ofJson? sources.toJson = some sources) ∧
    ∀ steps : List RegistryStep, (∀ step ∈ steps, step.Fits) →
      let added := steps.filterMap RegistryStep.file?
      empty.run? steps = some ((List.range added.length).map FileId.mk, ⟨added⟩) ∧
      ∀ front back, steps = front ++ back → ∃ given earlier,
        empty.run? front = some (given, earlier) ∧
        empty.run? (front ++ [.reload]) = some (given, earlier) ∧
        ∀ file ∈ given, ∃ source, earlier.get? file = some source ∧
          get? ⟨added⟩ file = some source ∧
          (∀ start stop, span? ⟨added⟩ file start stop = earlier.span? file start stop) ∧
          ∀ span, span.file = file → describe? ⟨added⟩ span = earlier.describe? span := by
  refine ⟨⟨fun _ fits => (Diagnostic.keeps fits).read_write,
    fun _ fits => (SourceSpan.keeps fits).read_write,
    fun _ fits => (LineIndex.keeps fits).read_write,
    fun policy => policy.keeps.read_write, fun _ fits => (keeps fits).read_write⟩, ?_⟩
  intro steps fits added
  refine ⟨run?_empty fits, ?_⟩
  rintro front back rfl
  have frontFits : ∀ step ∈ front, step.Fits := fun step among =>
    fits step (List.mem_append_left back among)
  have reloadFits : ∀ step ∈ front ++ [.reload], step.Fits := by
    intro step among
    rcases List.mem_append.mp among with before | last
    · exact frontFits step before
    · obtain rfl := List.mem_singleton.mp last
      trivial
  refine ⟨_, _, run?_empty frontFits, ?_, ?_⟩
  · have same : (front ++ [RegistryStep.reload]).filterMap RegistryStep.file? =
        front.filterMap RegistryStep.file? := by
      rw [List.filterMap_append, List.filterMap_cons_none rfl, List.filterMap_nil, List.append_nil]
    rw [run?_empty reloadFits, same]
  · rintro _ among
    obtain ⟨index, inside, rfl⟩ := List.mem_map.mp among
    have inside := List.mem_range.mp inside
    have same : get? ⟨added⟩ ⟨index⟩ = get? ⟨front.filterMap RegistryStep.file?⟩ ⟨index⟩ := by
      have split : added = front.filterMap RegistryStep.file? ++
          back.filterMap RegistryStep.file? := List.filterMap_append
      rw [split]
      exact get?_append inside _
    have found := List.getElem?_eq_getElem inside
    exact ⟨_, found, same.trans found, span?_congr same, fun span => describe?_congr same⟩

/-- A warning about the second of two files; the registry is read back after each of them. -/
theorem records_read_back_twoFiles :
    let span : SourceSpan := ⟨⟨1⟩, ⟨5, 1, 0⟩, ⟨7, 1, 2⟩⟩
    let diagnostic : Diagnostic :=
      { severity := .warning
        title := "Unused"
        problem := some (.plain "")
        details := [{ kind := .note, content := .markdown "here", location := some span }]
        hints := [.plain "Drop it?"] }
    let index : LineIndex := ⟨[3], 8⟩
    let sources : SourceFiles := ⟨[⟨"b.wxs", none, some index⟩]⟩
    let storage : Storage := fun path =>
      if path = "b.wxs" then .ok "<b>\n</b>" else .error .missing
    let steps : List RegistryStep :=
      [.add storage "a.wxs" (some "<a/>"), .reload, .add storage "b.wxs" none, .reload]
    (diagnostic.Fits ∧ Diagnostic.ofJson? diagnostic.toJson = some diagnostic) ∧
      (span.Fits ∧ SourceSpan.ofJson? span.toJson = some span) ∧
      (index.Fits ∧ LineIndex.ofJson? index.toJson = some index) ∧
      (sources.Fits ∧ ofJson? sources.toJson = some sources) ∧
      (∀ step ∈ steps, step.Fits) ∧
      empty.run? steps = some ([⟨0⟩, ⟨1⟩],
        ⟨[⟨"a.wxs", some "<a/>", some ⟨[], 4⟩⟩, ⟨"b.wxs", none, some index⟩]⟩) := by
  intro span diagnostic index sources storage steps
  have spanFits : span.Fits :=
    ⟨by decide, ⟨⟨by decide, by decide, by decide⟩, ⟨by decide, by decide, by decide⟩⟩⟩
  have diagnosticFits : diagnostic.Fits := by
    refine ⟨fun detail among => ?_, nofun⟩
    obtain rfl := List.mem_singleton.mp among
    rintro _ ⟨⟩
    exact spanFits
  have indexFits : index.Fits := ⟨by decide, by decide⟩
  have sourcesFits : sources.Fits := by
    intro source among
    obtain rfl := List.mem_singleton.mp among
    rintro _ ⟨⟩
    exact indexFits
  have fits : ∀ step ∈ steps, step.Fits := by
    have first : (RegistryStep.add storage "a.wxs" (some "<a/>")).Fits := by
      rintro _ ⟨⟩
      decide
    have second : (RegistryStep.add storage "b.wxs" none).Fits := by
      rintro _ ⟨⟩
      decide
    intro step among
    simp only [steps, List.mem_cons, List.not_mem_nil, or_false] at among
    rcases among with rfl | rfl | rfl | rfl
    · exact first
    · trivial
    · exact second
    · trivial
  obtain ⟨⟨diagnostics, spans, indexes, _, registries⟩, runs⟩ := records_read_back
  refine ⟨⟨diagnosticFits, diagnostics diagnostic diagnosticFits⟩, ⟨spanFits, spans span spanFits⟩,
    ⟨indexFits, indexes index indexFits⟩, ⟨sourcesFits, registries sources sourcesFits⟩, fits, ?_⟩
  exact (runs steps fits).1.trans (by decide +kernel)

end SourceFiles
end BundleMarkup
