import BundleMarkup.Proofs.Snippet.Lines
import BundleMarkup.Snippet.Drawing

/-!
# Messages in snippets

A snippet shows the lines from its first label to its last.  Each label is attached to one of them
where its message is drawn, so the printed snippet holds the message of every label, if its text is
not empty.
-/

namespace BundleMarkup

namespace SnippetLabel

/-- The lines of a label's first and last character; the label tells whether they are one. -/
structure IsOn (lines : List SourceLine) (label : SnippetLabel) (first last : SourceLine) :
    Prop where
  forward : label.start ≤ label.stop
  begins : SourceLine.find? lines label.start = some first
  ends : SourceLine.find? lines label.lastOffset = some last
  spansLines_eq : label.spansLines = (first.index != last.index)

variable {lines : List SourceLine} {stop : Nat}

/-- A request that lies within the lines has its label. -/
theorem exists_ofRequest? (adjoin : SourceLine.Adjoin 0 0 lines stop) (nonempty : lines ≠ [])
    {request : LabelRequest} (forward : request.start ≤ request.stop)
    (inside : request.stop ≤ stop) (order : Nat) :
    ∃ label first last, ofRequest? lines request order = some label ∧
      label.IsOn lines first last ∧ label.stop = request.stop ∧
      label.message = request.message := by
  obtain ⟨first, _, begins, _⟩ :=
    adjoin.exists_find? nonempty (Nat.zero_le _) (Nat.le_trans forward inside)
  by_cases proper : request.start < request.stop
  · obtain ⟨last, _, ends, _⟩ :=
      adjoin.exists_find? nonempty (Nat.zero_le (request.stop - 1)) (by omega)
    have offset : max (request.stop - 1) request.start = request.stop - 1 := by omega
    refine ⟨⟨order, request.start, request.stop, request.message, first.index != last.index⟩,
      first, last, ?_, ⟨forward, begins, ?_, rfl⟩, rfl, rfl⟩
    · simp [ofRequest?, begins, proper, ends]
    · rw [lastOffset, offset]
      exact ends
  · have offset : max (request.stop - 1) request.start = request.start := by omega
    refine ⟨⟨order, request.start, request.stop, request.message, first.index != first.index⟩,
      first, first, ?_, ⟨forward, begins, ?_, rfl⟩, rfl, rfl⟩
    · simp [ofRequest?, begins, proper]
    · rw [lastOffset, offset]
      exact begins

/-- The requests of a snippet have labels on its lines. -/
theorem isOn_of_mem_ofRequests (adjoin : SourceLine.Adjoin 0 0 lines stop) (nonempty : lines ≠ [])
    {requests : List LabelRequest}
    (inside : ∀ request ∈ requests, request.start ≤ request.stop ∧ request.stop ≤ stop)
    {label : SnippetLabel} (among : label ∈ ofRequests lines requests) :
    (∃ first last, label.IsOn lines first last) ∧ label.stop ≤ stop := by
  obtain ⟨⟨request, order⟩, numbered, gives⟩ := List.mem_filterMap.mp among
  obtain ⟨forward, bounded⟩ := inside request (List.fst_mem_of_mem_zipIdx numbered)
  obtain ⟨made, first, last, gives', isOn, stops, _⟩ :=
    exists_ofRequest? adjoin nonempty forward bounded order
  obtain rfl := Option.some.inj (gives.symm.trans gives')
  exact ⟨⟨first, last, isOn⟩, stops ▸ bounded⟩

theorem exists_mem_ofRequests (adjoin : SourceLine.Adjoin 0 0 lines stop) (nonempty : lines ≠ [])
    {requests : List LabelRequest}
    (inside : ∀ request ∈ requests, request.start ≤ request.stop ∧ request.stop ≤ stop)
    {request : LabelRequest} (among : request ∈ requests) :
    ∃ label ∈ ofRequests lines requests, label.message = request.message := by
  obtain ⟨order, found⟩ := List.mem_iff_getElem?.mp among
  obtain ⟨forward, bounded⟩ := inside request among
  obtain ⟨label, _, _, gives, _, _, message⟩ :=
    exists_ofRequest? adjoin nonempty forward bounded order
  exact ⟨label, List.mem_filterMap.mpr
    ⟨(request, order), List.mk_mem_zipIdx_iff_getElem?.mpr found, gives⟩, message⟩

/-- A label's message is drawn below a line: that of the whole label, or else of its end alone. -/
def IsDrawnAt (line : SourceLine) (label : SnippetLabel) : Prop :=
  if label.spansLines then
    line.covers label.lastOffset = true ∧ line.covers label.start = false
  else
    line.offset ≤ label.start ∧ label.stop ≤ line.stop

variable {label : SnippetLabel} {first last : SourceLine}

/-- A label is drawn at the line of its last character. -/
theorem IsOn.isDrawnAt_last (isOn : label.IsOn lines first last)
    (adjoin : SourceLine.Adjoin 0 0 lines stop) (inside : label.stop ≤ stop) :
    label.IsDrawnAt last := by
  obtain ⟨forward, begins, ends, spans⟩ := isOn
  obtain ⟨among, starts, _, _⟩ := adjoin.of_find? begins
  obtain ⟨beside, before, reaches, goes⟩ := adjoin.of_find? ends
  unfold lastOffset at ends before reaches goes
  unfold IsDrawnAt
  by_cases same : first = last
  · obtain rfl := same
    rw [if_neg (by simp [spans])]
    exact ⟨starts, by omega⟩
  · have apart : label.start ≠ max (label.stop - 1) label.start := fun equal => by
      rw [← equal] at ends
      exact same (Option.some.inj (begins.symm.trans ends))
    have indices : first.index ≠ last.index := fun equal => by
      have here := (adjoin.getElem?_index among).2
      have there := (adjoin.getElem?_index beside).2
      rw [equal] at here
      exact same (Option.some.inj (here.symm.trans there))
    rw [if_pos (by simpa [spans] using indices)]
    constructor
    · have beyond : max (label.stop - 1) label.start < last.stop := goes (by omega)
      exact Bool.and_eq_true_iff.mpr ⟨decide_eq_true before, decide_eq_true beyond⟩
    · refine Bool.eq_false_iff.mpr fun covers => same ?_
      exact Option.some.inj (begins.symm.trans (adjoin.find?_of_covers beside covers))

end SnippetLabel

/-- A label that is drawn at a line is attached to it with its message. -/
theorem LineView.exists_attached {labels : List SnippetLabel} {label : SnippetLabel}
    (among : label ∈ labels) {line : SourceLine} (drawn : label.IsDrawnAt line) :
    ∃ attached ∈ (ofLine labels line).labels,
      attached.label = label ∧ attached.drawsMessage = true := by
  unfold SnippetLabel.IsDrawnAt at drawn
  simp only [ofLine, List.mem_mergeSort, List.mem_append, List.mem_filterMap]
  split at drawn
  · rename_i spans
    obtain ⟨ends, begins⟩ := drawn
    refine ⟨⟨label.lastOffset - line.offset, label, true⟩, .inl ⟨label, ?_, ?_⟩, rfl, rfl⟩
    · simp [SnippetLabel.spanning, among, spans]
    · simp [LineLabel.spanning?, LineLabel.atStart?, LineLabel.atEnd?, ends, begins]
  · rename_i inline
    exact ⟨_, .inr ⟨label, among, by simp [LineLabel.inline?, inline, drawn]; rfl⟩, rfl, rfl⟩

namespace Snippet

variable {lines : List SourceLine} {stop : Nat} {labels : List SnippetLabel}

/-- The lines that are shown reach from the line of the least start to that of the last character
before the greatest stop. -/
theorem exists_lineRange (adjoin : SourceLine.Adjoin 0 0 lines stop)
    (placed : ∀ label ∈ labels, ∃ first last, label.IsOn lines first last)
    (inside : ∀ label ∈ labels, label.stop ≤ stop) (nonempty : labels ≠ []) :
    ∃ low high first last, (∀ label ∈ labels, low ≤ label.start ∧ label.stop ≤ high) ∧
      low ≤ high ∧ high ≤ stop ∧
      SourceLine.find? lines low = some first ∧
      SourceLine.find? lines (max (high - 1) low) = some last ∧
      lineRange lines labels = (first.index, last.index + 1) := by
  obtain ⟨low, least⟩ := Option.isSome_iff_exists.mp
    (List.isSome_min?_of_ne_nil (l := labels.map SnippetLabel.start) (by simpa using nonempty))
  obtain ⟨high, greatest⟩ := Option.isSome_iff_exists.mp
    (List.isSome_max?_of_ne_nil (l := labels.map SnippetLabel.stop) (by simpa using nonempty))
  obtain ⟨isStart, below⟩ := List.min?_eq_some_iff.mp least
  obtain ⟨isStop, above⟩ := List.max?_eq_some_iff.mp greatest
  obtain ⟨lowest, among, rfl⟩ := List.mem_map.mp isStart
  obtain ⟨highest, beside, rfl⟩ := List.mem_map.mp isStop
  obtain ⟨first, _, isOn⟩ := placed lowest among
  have ordered : lowest.start ≤ highest.stop :=
    Nat.le_trans isOn.forward (above _ (List.mem_map_of_mem among))
  have bounded := inside highest beside
  obtain ⟨last, _, ends, _⟩ := adjoin.exists_find?
    (List.ne_nil_of_mem (adjoin.of_find? isOn.begins).1)
    (Nat.zero_le (max (highest.stop - 1) lowest.start)) (by omega)
  refine ⟨lowest.start, highest.stop, first, last, fun label member => ?_, ordered, bounded,
    isOn.begins, ends, ?_⟩
  · exact ⟨below _ (List.mem_map_of_mem member), above _ (List.mem_map_of_mem member)⟩
  · simp [lineRange, least, greatest, isOn.begins, ends]

/-- The lines that a snippet with the given labels shows. -/
def shownLines (lines : List SourceLine) (labels : List SnippetLabel) : List SourceLine :=
  (lines.drop (lineRange lines labels).1).take
    ((lineRange lines labels).2 - (lineRange lines labels).1)

theorem mem_shownLines (adjoin : SourceLine.Adjoin 0 0 lines stop) {first last line : SourceLine}
    (range : lineRange lines labels = (first.index, last.index + 1)) (among : line ∈ lines)
    (after : first.index ≤ line.index) (before : line.index ≤ last.index) :
    line ∈ shownLines lines labels := by
  have found := (adjoin.getElem?_index among).2
  refine List.mem_of_getElem? (i := line.index - first.index) ?_
  rw [shownLines, range, List.getElem?_take_of_lt (by simp only; omega), List.getElem?_drop]
  simp only [Nat.sub_zero] at found
  rw [← found]
  congr 1
  omega

/-- Every label is drawn at a line that is shown. -/
theorem exists_isDrawnAt (adjoin : SourceLine.Adjoin 0 0 lines stop)
    (placed : ∀ label ∈ labels, ∃ first last, label.IsOn lines first last)
    (inside : ∀ label ∈ labels, label.stop ≤ stop) {label : SnippetLabel} (among : label ∈ labels) :
    ∃ line ∈ shownLines lines labels, label.IsDrawnAt line := by
  obtain ⟨low, high, top, bottom, bounds, ordered, bounded, begins, ends, range⟩ :=
    exists_lineRange adjoin placed inside (List.ne_nil_of_mem among)
  obtain ⟨first, last, isOn⟩ := placed label among
  obtain ⟨lower, upper⟩ := bounds label among
  have forward := isOn.forward
  by_cases within : label.lastOffset ≤ max (high - 1) low
  · refine ⟨last, ?_, isOn.isDrawnAt_last adjoin (inside label among)⟩
    have after : low ≤ label.lastOffset := Nat.le_trans lower (Nat.le_max_right _ _)
    exact mem_shownLines adjoin range (adjoin.of_find? isOn.ends).1
      (adjoin.index_mono after begins isOn.ends) (adjoin.index_mono within isOn.ends ends)
  · unfold SnippetLabel.lastOffset at within
    obtain ⟨among', starts, _, goes⟩ := adjoin.of_find? ends
    have point : label.lastOffset = label.start := by
      unfold SnippetLabel.lastOffset
      omega
    have inline : label.spansLines = false := by
      have same := isOn.ends
      rw [point, isOn.begins] at same
      obtain rfl := Option.some.inj same
      simp [isOn.spansLines_eq]
    refine ⟨bottom, mem_shownLines adjoin range among' ?_ (Nat.le_refl _), ?_⟩
    · exact adjoin.index_mono (Nat.le_max_right _ _) begins ends
    · rw [SnippetLabel.IsDrawnAt, if_neg (by simp [inline])]
      omega

theorem suffix_drawArrow (view : LineView) (attached : LineLabel) (row : Nat)
    (drawn : attached.drawsMessage = true) :
    attached.label.message.toList <:+ view.drawArrow attached row := by
  rw [LineView.drawArrow, if_pos drawn]
  exact (List.suffix_cons _ _).trans (List.suffix_append _ _)

theorem exists_row_drawLabelled (width : Nat) {view : LineView} {attached : LineLabel}
    (among : attached ∈ view.labels) (drawn : attached.drawsMessage = true) :
    ∃ row ∈ drawLabelled width view, attached.label.message.toList <:+ row := by
  obtain ⟨index, found⟩ := List.mem_iff_getElem?.mp among
  have numbered : (attached, index) ∈ view.labels.zipIdx :=
    List.mk_mem_zipIdx_iff_getElem?.mpr found
  refine ⟨Margin.draw width view (.arrow index) ++ view.drawArrow attached index, ?_, ?_⟩
  · refine List.mem_cons_of_mem _ (List.mem_flatMap.mpr ⟨_, numbered, ?_⟩)
    exact List.mem_cons_of_mem _ List.mem_cons_self
  · exact (suffix_drawArrow view attached index drawn).trans (List.suffix_append _ _)

/-- Where a label is attached with its message, a row ends with the message. -/
theorem exists_row_drawLines (width : Nat) (labels : List SnippetLabel) {lines : List SourceLine}
    {line : SourceLine} (among : line ∈ lines) {attached : LineLabel}
    (beside : attached ∈ (LineView.ofLine labels line).labels)
    (drawn : attached.drawsMessage = true) (isEllipsis : Bool) :
    ∃ row ∈ drawLines width labels isEllipsis lines, attached.label.message.toList <:+ row := by
  induction lines generalizing isEllipsis with
  | nil => cases among
  | cons head rest ih =>
      rw [drawLines]
      rcases List.mem_cons.mp among with rfl | later
      · have busy : (LineView.ofLine labels line).isBare = false := by
          have := List.ne_nil_of_mem beside
          simp [LineView.isBare, this]
        obtain ⟨row, inside, ends⟩ := exists_row_drawLabelled width beside drawn
        simp only [busy]
        exact ⟨row, List.mem_append_left _ inside, ends⟩
      · split
        · obtain ⟨row, inside, ends⟩ := ih later true
          exact ⟨row, List.mem_append_right _ inside, ends⟩
        · obtain ⟨row, inside, ends⟩ := ih later false
          exact ⟨row, List.mem_append_right _ inside, ends⟩

theorem infix_flatten_intersperse {rows : List (List Char)} {row : List Char} (among : row ∈ rows)
    (separator : List Char) : row <:+: (rows.intersperse separator).flatten := by
  obtain ⟨index, found⟩ := List.mem_iff_getElem?.mp among
  have inside : (rows.intersperse separator)[2 * index]? = some row := by
    rw [List.getElem?_intersperse_two_mul, found]
  exact List.infix_of_mem_flatten (List.mem_of_getElem? inside)

theorem exists_append_flatten_intersperse (rows : List (List Char)) (last separator : List Char) :
    ∃ front, ((rows ++ [last]).intersperse separator).flatten = front ++ last := by
  have ends : ((rows ++ [last]).intersperse separator).getLast? = some last := by
    have position : (2 * (rows.length + 1) - 1) - 1 = 2 * rows.length := by omega
    rw [List.getLast?_eq_getElem?, List.length_intersperse, List.length_append,
      List.length_singleton, position, List.getElem?_intersperse_two_mul]
    simp
  obtain ⟨front, whole⟩ := List.getLast?_eq_some_iff.mp ends
  exact ⟨front.flatten, by rw [whole, List.flatten_append, List.flatten_singleton]⟩

/-- What stands in a row of the body stands in the printed snippet. -/
theorem infix_draw {request : SnippetRequest} {lines : List SourceLine}
    {labels : List SnippetLabel} (text : SourceLine.ofText request.text = lines)
    (made : SnippetLabel.ofRequests lines request.labels = labels) (nonempty : labels ≠ [])
    {row part : List Char} (among : row ∈ body request lines labels) (inside : part <:+: row) :
    part <:+: (draw request).toList := by
  have drawn : (if labels.isEmpty then [] else body request lines labels) =
      body request lines labels := by
    simp [nonempty]
  obtain ⟨above, width, frame⟩ : ∃ above width, body request lines labels =
      above ++ [List.replicate width '─' ++ ['╯']] := ⟨_, _, rfl⟩
  obtain ⟨front, whole⟩ := exists_append_flatten_intersperse
    (request.heading.toList :: above) (List.replicate width '─' ++ ['╯']) ['\n']
  rw [List.cons_append, ← frame, ← List.append_assoc] at whole
  have stops : Text.isBlank '╯' = false := by decide
  have kept := Text.trimEnd_concat (front ++ List.replicate width '─') stops
  rw [← whole] at kept
  simp only [draw, text, made, drawn, String.toList_ofList, kept]
  exact inside.trans (infix_flatten_intersperse (List.mem_cons_of_mem _ among) _)

/-- The printed snippet of a text that is not empty holds the message of each label. -/
theorem message_infix_draw {request : SnippetRequest} (nonempty : request.text ≠ [])
    (inside : ∀ label ∈ request.labels,
      label.start ≤ label.stop ∧ label.stop ≤ request.text.length)
    {label : LabelRequest} (among : label ∈ request.labels) :
    label.message.toList <:+: (draw request).toList := by
  have adjoin := SourceLine.adjoin_ofText request.text
  have some : SourceLine.ofText request.text ≠ [] := fun none => by
    rw [none] at adjoin
    exact nonempty (List.length_eq_zero_iff.mp adjoin.eq_of_nil.symm)
  have placed (label : SnippetLabel)
      (made : label ∈ SnippetLabel.ofRequests (SourceLine.ofText request.text) request.labels) :=
    SnippetLabel.isOn_of_mem_ofRequests adjoin some inside made
  obtain ⟨shown, member, message⟩ := SnippetLabel.exists_mem_ofRequests adjoin some inside among
  obtain ⟨line, visible, drawn⟩ := exists_isDrawnAt adjoin
    (fun label among => (placed label among).1) (fun label among => (placed label among).2) member
  obtain ⟨attached, beside, rfl, draws⟩ := LineView.exists_attached member drawn
  obtain ⟨row, among', ends⟩ := exists_row_drawLines (digits (lineRange _ _).2) _ visible
    beside draws false
  rw [← message]
  refine infix_draw rfl rfl (List.ne_nil_of_mem member) ?_ ends.isInfix
  exact List.mem_append_left _ (List.mem_append_right _ among')

end Snippet
end BundleMarkup
