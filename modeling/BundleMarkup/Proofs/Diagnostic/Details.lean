import BundleMarkup.Diagnostic.Render
import BundleMarkup.Proofs.Snippet.Messages

/-!
# Details of printed diagnostics

A printed diagnostic presents each of its details once: as a label of the snippet that is drawn, if
the detail is located in the file of the snippet, and else as a line after it.  A detail that is
located in that file but not on characters of its text gets neither, so it is lost.
-/

namespace BundleMarkup

/-- A label marks the characters that a span takes up in a text. -/
def LabelRequest.Marks (label : LabelRequest) (text : List Char) (span : SourceSpan)
    (message : String) : Prop :=
  ∃ front part back, text = front ++ part ++ back ∧
    Text.byteLength front = span.start ∧ Text.byteLength (front ++ part) = span.stop ∧
    label = ⟨front.length, (front ++ part).length, message⟩

/-- A span takes up characters of a text. -/
def SourceSpan.Occupies (span : SourceSpan) (text : List Char) : Prop :=
  span.start ≤ span.stop ∧ ∃ part, Text.slice? text span.start span.stop = some part

theorem LabelRequest.Marks.bounds {label : LabelRequest} {text : List Char} {span : SourceSpan}
    {message : String} (marks : label.Marks text span message) :
    label.start ≤ label.stop ∧ label.stop ≤ text.length := by
  obtain ⟨front, part, back, rfl, -, -, rfl⟩ := marks
  simp

theorem SourceSpan.Occupies.exists_marks {span : SourceSpan} {text : List Char}
    (occupies : span.Occupies text) (message : String) :
    ∃ label : LabelRequest, label.Marks text span message := by
  obtain ⟨forward, part, sliced⟩ := occupies
  obtain ⟨front, back, whole, before, size⟩ := Text.slice?_eq_some_iff.mp sliced
  refine ⟨_, front, part, back, whole, before, ?_, rfl⟩
  rw [Text.byteLength_append]
  omega

namespace Diagnostic

/-- A span that does not stop before it starts has a label exactly if it takes up characters. -/
theorem labelRequest?_eq_some_iff {text : List Char} {span : SourceSpan} {message : String}
    {label : LabelRequest} (forward : span.start ≤ span.stop) :
    labelRequest? text span message = some label ↔ label.Marks text span message := by
  constructor
  · intro requested
    simp only [labelRequest?, Option.bind_eq_bind, Option.bind_eq_some_iff, Option.pure_def,
      Option.some.injEq] at requested
    obtain ⟨before, taken, through, further, rfl⟩ := requested
    obtain ⟨part, rfl⟩ := Text.prefix_of_takeBytes? taken further forward
    obtain ⟨⟨back, whole⟩, stops⟩ := Text.eq_append_of_takeBytes? further
    exact ⟨before, part, back, whole, (Text.eq_append_of_takeBytes? taken).2, stops, rfl⟩
  · rintro ⟨front, part, back, rfl, starts, stops, rfl⟩
    have taken : Text.takeBytes? span.start (front ++ part ++ back) = some front := by
      rw [← starts, List.append_assoc, Text.takeBytes?_append]
    have further : Text.takeBytes? span.stop (front ++ part ++ back) = some (front ++ part) := by
      rw [← stops, Text.takeBytes?_append]
    rw [labelRequest?, taken, further]
    rfl

/-- A snippet is drawn exactly if the text of the diagnostic's file is at hand and the diagnostic's
place takes up characters of it. -/
theorem drawn?_eq_some_iff {sources : Option SourceFiles} {diagnostic : Diagnostic}
    (forward : ∀ span, diagnostic.location = some span → span.start ≤ span.stop)
    {file : FileId} {request : SnippetRequest} :
    drawn? sources diagnostic = some (file, request) ↔
      ∃ span files source content main, diagnostic.location = some span ∧
        sources = some files ∧ files.get? file = some source ∧ source.content = some content ∧
        span.file = file ∧
        main.Marks content.toList span
          ((diagnostic.problem.map Content.text).getD diagnostic.title) ∧
        request = {
          heading := diagnostic.snippetHeading
          path := source.path
          text := content.toList
          location := main.start
          labels := main :: detailLabels file content.toList diagnostic.details } := by
  simp only [drawn?, snippet?, Option.bind_eq_bind, Option.bind_eq_some_iff, Option.pure_def,
    Option.some.injEq, Prod.mk.injEq]
  constructor
  · rintro ⟨span, located, files, rfl, _, ⟨source, found, content, kept, main, marks, rfl⟩, rfl,
      rfl⟩
    exact ⟨span, files, source, content, main, located, rfl, found, kept, rfl,
      (labelRequest?_eq_some_iff (forward span located)).mp marks, rfl⟩
  · rintro ⟨span, files, source, content, main, located, rfl, found, kept, rfl, marks, rfl⟩
    exact ⟨span, located, files, rfl, _, ⟨source, found, content, kept, main,
      (labelRequest?_eq_some_iff (forward span located)).mpr marks, rfl⟩, rfl, rfl⟩

/-- The labels of a snippet are one for the diagnostic's place and those of its details. -/
theorem exists_labels_eq_cons {sources : Option SourceFiles} {diagnostic : Diagnostic}
    (forward : ∀ span, diagnostic.location = some span → span.start ≤ span.stop)
    {file : FileId} {request : SnippetRequest}
    (drawn : drawn? sources diagnostic = some (file, request)) :
    ∃ main, request.labels = main :: detailLabels file request.text diagnostic.details ∧
      ∃ span message, main.Marks request.text span message := by
  obtain ⟨span, _, _, _, main, _, _, _, _, _, marks, rfl⟩ := (drawn?_eq_some_iff forward).mp drawn
  exact ⟨main, rfl, span, _, marks⟩

/-- How details are presented, given the file that is drawn with its snippet. -/
inductive Presented (drawn : Option (FileId × SnippetRequest)) :
    List Detail → List LabelRequest → List String → Prop
  | nil : Presented drawn [] [] []
  /-- A detail located in the file that is drawn is a label there. -/
  | label {detail : Detail} {span : SourceSpan} {request : SnippetRequest} {label : LabelRequest}
      {details : List Detail} {labels : List LabelRequest} {lines : List String} :
      detail.location = some span → drawn = some (span.file, request) →
      label.Marks request.text span detail.content.text →
      Presented drawn details labels lines →
      Presented drawn (detail :: details) (label :: labels) lines
  /-- Any other detail is a line. -/
  | line {detail : Detail} {details : List Detail} {labels : List LabelRequest}
      {lines : List String} :
      (∀ span, detail.location = some span → ∀ request, drawn ≠ some (span.file, request)) →
      Presented drawn details labels lines →
      Presented drawn (detail :: details) labels (detailLine detail :: lines)

/-- Without a snippet every detail is a line. -/
theorem presented_of_not_drawn (details : List Detail) :
    Presented none details [] (details.map detailLine) := by
  induction details with
  | nil => exact .nil
  | cons detail rest ih => exact .line (fun _ _ _ drawn => nomatch drawn) ih

/-- With a snippet the details that are located in its file are its labels and the others lines. -/
theorem presented_of_drawn {file : FileId} {request : SnippetRequest} {details : List Detail}
    (occupy : ∀ detail ∈ details, ∀ span, detail.location = some span → span.file = file →
      span.Occupies request.text) :
    Presented (some (file, request)) details (detailLabels file request.text details)
      ((details.filter fun detail => !isLocatedIn file detail).map detailLine) := by
  induction details with
  | nil => exact .nil
  | cons detail rest ih =>
      have later := ih fun other among => occupy other (List.mem_cons_of_mem _ among)
      by_cases here : ∃ span, detail.location = some span ∧ span.file = file
      · obtain ⟨span, located, rfl⟩ := here
        have occupies := occupy detail List.mem_cons_self span located rfl
        obtain ⟨label, marks⟩ := occupies.exists_marks detail.content.text
        have requested := (labelRequest?_eq_some_iff occupies.1).mpr marks
        have labels : detailLabels span.file request.text (detail :: rest) =
            label :: detailLabels span.file request.text rest := by
          refine List.filterMap_cons_some ?_
          rw [located, Option.filter_some, if_pos (by simp), Option.bind_some, requested]
        have skipped : isLocatedIn span.file detail = true := by simp [isLocatedIn, located]
        rw [labels, List.filter_cons_of_neg (by simp [skipped])]
        exact .label located rfl marks later
      · have labels : detailLabels file request.text (detail :: rest) =
            detailLabels file request.text rest := by
          cases located : detail.location <;> simp_all [detailLabels]
        have listed : isLocatedIn file detail = false := by
          cases located : detail.location <;> simp_all [isLocatedIn]
        rw [labels, List.filter_cons_of_pos (by simp [listed]), List.map_cons]
        refine .line (fun span located other drawn => here ⟨span, located, ?_⟩) later
        exact (Prod.mk.inj (Option.some.inj drawn)).1.symm

theorem Presented.exists_marks {file : FileId} {request : SnippetRequest} {details : List Detail}
    {labels : List LabelRequest} {lines : List String}
    (presented : Presented (some (file, request)) details labels lines) :
    ∀ label ∈ labels, ∃ span message, label.Marks request.text span message := by
  induction presented with
  | nil => simp
  | label _ drawn marks _ ih =>
      obtain ⟨rfl, rfl⟩ := drawn
      exact List.forall_mem_cons.mpr ⟨⟨_, _, marks⟩, ih⟩
  | line _ _ ih => exact ih

/-- A diagnostic that can be shown.  If a snippet is drawn, the diagnostic's place does not stop
before it starts, and the details located in its file take up characters of the text there; else
the line of the place can be told, and its column where no files are at hand. -/
structure Showable (sources : Option SourceFiles) (diagnostic : Diagnostic) : Prop where
  forward : ∀ shown, drawn? sources diagnostic = some shown →
    ∀ span, diagnostic.location = some span → span.start ≤ span.stop
  occupy : ∀ file request, drawn? sources diagnostic = some (file, request) →
    ∀ detail ∈ diagnostic.details, ∀ span, detail.location = some span → span.file = file →
      span.Occupies request.text
  row_lt : drawn? sources diagnostic = none →
    ∀ span, diagnostic.location = some span → span.extent.start.row < Word.largest
  column_lt : sources = none →
    ∀ span, diagnostic.location = some span → span.extent.start.column < Word.largest

/-- Where no snippet is drawn, the place of the diagnostic can be told in words. -/
theorem exists_plainLines? {sources : Option SourceFiles} {diagnostic : Diagnostic}
    (showable : Showable sources diagnostic) (plain : drawn? sources diagnostic = none) :
    ∃ lines, plainLines? sources diagnostic = some lines := by
  cases located : diagnostic.location with
  | none => simp [plainLines?, located]
  | some span =>
      have line : span.line? = some (span.extent.start.row + 1) :=
        Word.next?_eq_some_iff.mpr ⟨showable.row_lt plain span located, rfl⟩
      obtain ⟨place, told⟩ : ∃ place, placeLine? sources span = some place := by
        cases sources with
        | none =>
            have column : span.column? = some (span.extent.start.column + 1) :=
              Word.next?_eq_some_iff.mpr ⟨showable.column_lt rfl span located, rfl⟩
            simp [placeLine?, line, column]
        | some files =>
            cases found : files.get? span.file <;>
              simp [placeLine?, SourceFiles.describe?, line, found]
      simp [plainLines?, located, told]

/-- A diagnostic that can be shown is printed, and each of its details once: as a label of the
snippet, if one is drawn, or as a line after it. -/
theorem render?_presents {sources : Option SourceFiles} {diagnostic : Diagnostic}
    (showable : Showable sources diagnostic) :
    ∃ opening labels lines,
      render? sources diagnostic = some (String.intercalate "\n"
        (opening ++ lines ++ diagnostic.hints.map hintLine)) ∧
      Presented (drawn? sources diagnostic) diagnostic.details labels lines ∧
      (∀ file request, drawn? sources diagnostic = some (file, request) →
        opening = [Snippet.draw request] ∧ (∃ main, request.labels = main :: labels) ∧
        (request.text ≠ [] → ∀ label ∈ labels,
          label.message.toList <:+: (Snippet.draw request).toList)) ∧
      (drawn? sources diagnostic = none →
        plainLines? sources diagnostic = some opening ∧ labels = [] ∧
        lines = diagnostic.details.map detailLine) := by
  cases drawn : drawn? sources diagnostic with
  | none =>
      obtain ⟨opening, plain⟩ := exists_plainLines? showable drawn
      refine ⟨opening, [], diagnostic.details.map detailLine, ?_, presented_of_not_drawn _,
        ?_, fun _ => ⟨plain, rfl, rfl⟩⟩
      · simp [render?, opening?, listedDetails, drawn, plain]
      · rintro file request ⟨⟩
  | some shown =>
      obtain ⟨file, request⟩ := shown
      have presented := presented_of_drawn (showable.occupy file request drawn)
      obtain ⟨main, made, span, message, marks⟩ :=
        exists_labels_eq_cons (showable.forward _ drawn) drawn
      have inside : ∀ label ∈ request.labels,
          label.start ≤ label.stop ∧ label.stop ≤ request.text.length := by
        rw [made]
        refine List.forall_mem_cons.mpr ⟨marks.bounds, fun label among => ?_⟩
        obtain ⟨span, message, marks⟩ := presented.exists_marks label among
        exact marks.bounds
      have snippet : Snippet.draw? request = some (Snippet.draw request) :=
        Snippet.draw?_eq_some_iff.mpr ⟨fun label among => (inside label among).1, rfl⟩
      refine ⟨[Snippet.draw request], _, _, ?_, presented, ?_, fun none => nomatch none⟩
      · simp [render?, opening?, listedDetails, drawn, snippet]
      · rintro file request ⟨⟩
        refine ⟨rfl, ⟨main, made⟩, fun nonempty label among => ?_⟩
        exact Snippet.message_infix_draw nonempty inside (made ▸ List.mem_cons_of_mem _ among)

/-- One file, with the shortest element for its text. -/
def shortFile : SourceFiles := ⟨[⟨"a.wxs", some "<a/>", some (.ofText "<a/>".toList)⟩]⟩

/-- A diagnostic about the start of the element, with a detail at a place of the file and one that
has no place. -/
def detailedAt (start stop : Nat) : Diagnostic where
  severity := .error
  title := "Mutually exclusive"
  problem := some (.markdown "p")
  details := [⟨.error, .markdown "lost detail", some (.ofOffsets ⟨0⟩ start stop)⟩,
    ⟨.note, .markdown "Choose one", none⟩]
  location := some (.ofOffsets ⟨0⟩ 0 2)

theorem drawn?_detailedAt : drawn? (some shortFile) (detailedAt 2 4) = some (⟨0⟩, {
    heading := "Error: Mutually exclusive"
    path := "a.wxs"
    text := "<a/>".toList
    location := 0
    labels := [⟨0, 2, "p"⟩, ⟨2, 4, "lost detail"⟩] }) := by
  decide

theorem showable_detailedAt : Showable (some shortFile) (detailedAt 2 4) where
  forward := by
    rintro _ _ span ⟨⟩
    decide
  occupy := by
    rw [drawn?_detailedAt]
    rintro _ _ ⟨⟩ detail among span located -
    obtain rfl | rfl : detail = _ ∨ detail = _ := by simpa [detailedAt] using among
    · obtain rfl := Option.some.inj located
      exact ⟨by decide, "/>".toList, by decide⟩
    · cases located
  row_lt := by
    rintro _ span ⟨⟩
    decide
  column_lt := by
    rintro _ span ⟨⟩
    decide

theorem render?_presents_detailedAt :
    Showable (some shortFile) (detailedAt 2 4) ∧
      ∃ opening, render? (some shortFile) (detailedAt 2 4) =
          some (String.intercalate "\n" [opening, "• Choose one"]) ∧
        "lost detail".toList <:+: opening.toList := by
  refine ⟨showable_detailedAt, ?_⟩
  obtain ⟨opening, labels, lines, printed, presented, snippet, -⟩ :=
    render?_presents showable_detailedAt
  obtain ⟨rfl, ⟨main, made⟩, shown⟩ := snippet _ _ drawn?_detailedAt
  obtain ⟨rfl, rfl⟩ := List.cons.inj made
  cases presented with
  | line elsewhere _ => exact absurd drawn?_detailedAt (elsewhere _ rfl _)
  | label _ _ _ later =>
      cases later with
      | line _ last =>
          cases last with
          | nil => exact ⟨_, printed, shown (by decide) _ List.mem_cons_self⟩

/-- A detail located in the file that is drawn but outside its text is lost: it has no label, and
its line is not printed. -/
theorem render?_detailedAt_outside :
    (detailedAt 50 51).details.map detailLine = ["✖ lost detail", "• Choose one"] ∧
      (drawn? (some shortFile) (detailedAt 50 51)).map (·.2.labels) = some [⟨0, 2, "p"⟩] ∧
      render? (some shortFile) (detailedAt 50 51) = some (String.intercalate "\n"
        ["Error: Mutually exclusive",
          "   ╭─[a.wxs:1:1]",
          "   │",
          " 1 │ <a/>",
          "   │ ─┬  ",
          "   │  ╰── p",
          "───╯",
          "• Choose one"]) := by
  exact ⟨by decide, by decide, by decide +kernel⟩

end Diagnostic
end BundleMarkup
