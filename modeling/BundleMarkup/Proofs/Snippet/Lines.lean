import BundleMarkup.Snippet.SourceLine

/-!
# Lines that follow each other

The lines of a text are numbered from zero, leave no gap and are none of them empty.  So each offset
up to the end of the text is found on one line, and later offsets are found on no earlier lines.
-/

namespace BundleMarkup
namespace SourceLine

/-- Lines numbered from an index, one after another between two offsets, none of them empty. -/
inductive Adjoin : Nat → Nat → List SourceLine → Nat → Prop
  | nil {index offset : Nat} : Adjoin index offset [] offset
  | cons {line : SourceLine} {rest : List SourceLine} {stop : Nat} (nonempty : line.text ≠ [])
      (later : Adjoin (line.index + 1) line.stop rest stop) :
      Adjoin line.index line.offset (line :: rest) stop

theorem flatten_splitFrom (current text : List Char) :
    (splitFrom current text).flatten = current.reverse ++ text := by
  induction current, text using splitFrom.induct with
  | case1 current empty =>
      obtain rfl := List.isEmpty_iff.mp empty
      rfl
  | case2 current nonempty => simp [splitFrom, nonempty]
  | case3 current rest ih => simp [splitFrom, ih]
  | case4 current char rest notPair ends ih => simp [splitFrom, ends, ih]
  | case5 current char rest notPair goesOn ih => simp [splitFrom, goesOn, ih]

theorem ne_nil_of_mem_splitFrom {current text line : List Char}
    (among : line ∈ splitFrom current text) : line ≠ [] := by
  induction current, text using splitFrom.induct with
  | case1 current empty => simp [splitFrom, empty] at among
  | case2 current nonempty =>
      obtain rfl : line = current.reverse := by simpa [splitFrom, nonempty] using among
      simpa using nonempty
  | case3 current rest ih =>
      simp only [splitFrom, List.mem_cons] at among
      rcases among with rfl | later
      · simp
      · exact ih later
  | case4 current char rest notPair ends ih =>
      simp only [splitFrom, ends, if_true, List.mem_cons] at among
      rcases among with rfl | later
      · simp
      · exact ih later
  | case5 current char rest notPair goesOn ih =>
      simp only [splitFrom, goesOn, if_false, Bool.false_eq_true] at among
      exact ih among

theorem adjoin_numberFrom (index offset : Nat) {parts : List (List Char)}
    (nonempty : ∀ part ∈ parts, part ≠ []) :
    Adjoin index offset (numberFrom index offset parts) (offset + parts.flatten.length) := by
  induction parts generalizing index offset with
  | nil => exact .nil
  | cons part rest ih =>
      have later := ih (index + 1) (offset + part.length) fun other among =>
        nonempty other (List.mem_cons_of_mem part among)
      rw [Nat.add_assoc, ← List.length_append] at later
      exact @Adjoin.cons ⟨index, offset, part⟩ _ _ (nonempty part List.mem_cons_self) later

theorem adjoin_ofText (text : List Char) : Adjoin 0 0 (ofText text) text.length := by
  have nonempty : ∀ line ∈ splitFrom [] text, line ≠ [] := fun _ => ne_nil_of_mem_splitFrom
  have lines := adjoin_numberFrom 0 0 nonempty
  rwa [flatten_splitFrom, Nat.zero_add] at lines

namespace Adjoin

variable {index first stop : Nat} {lines : List SourceLine}

theorem eq_of_nil (adjoin : Adjoin index first [] stop) : first = stop := by
  cases adjoin
  rfl

theorem le (adjoin : Adjoin index first lines stop) : first ≤ stop := by
  induction adjoin with
  | nil => exact Nat.le_refl _
  | @cons line rest stop _ _ ih => exact Nat.le_trans (Nat.le_add_right _ _) ih

theorem bounds (adjoin : Adjoin index first lines stop) {line : SourceLine} (among : line ∈ lines) :
    first ≤ line.offset ∧ line.offset < line.stop ∧ line.stop ≤ stop := by
  induction adjoin with
  | nil => cases among
  | @cons head rest stop nonempty later ih =>
      have size := List.length_pos_iff.mpr nonempty
      have positive : head.offset < head.stop := Nat.lt_add_of_pos_right size
      rcases List.mem_cons.mp among with rfl | inside
      · exact ⟨Nat.le_refl _, positive, later.le⟩
      · obtain ⟨lower, within, upper⟩ := ih inside
        exact ⟨by omega, within, upper⟩

/-- A line stands at its index. -/
theorem getElem?_index (adjoin : Adjoin index first lines stop) {line : SourceLine}
    (among : line ∈ lines) : index ≤ line.index ∧ lines[line.index - index]? = some line := by
  induction adjoin with
  | nil => cases among
  | @cons head rest stop nonempty later ih =>
      rcases List.mem_cons.mp among with rfl | inside
      · simp
      · obtain ⟨after, found⟩ := ih inside
        have position : line.index - head.index = line.index - (head.index + 1) + 1 := by omega
        rw [position, List.getElem?_cons_succ]
        exact ⟨by omega, found⟩

/-- Lines with smaller indices end before those with larger ones begin. -/
theorem stop_le_offset (adjoin : Adjoin index first lines stop) {line other : SourceLine}
    (among : line ∈ lines) (beside : other ∈ lines) (before : line.index < other.index) :
    line.stop ≤ other.offset := by
  induction adjoin with
  | nil => cases among
  | @cons head rest stop nonempty later ih =>
      rcases List.mem_cons.mp among with rfl | inside
      · rcases List.mem_cons.mp beside with rfl | elsewhere
        · exact absurd before (Nat.lt_irrefl _)
        · exact (later.bounds elsewhere).1
      · rcases List.mem_cons.mp beside with rfl | elsewhere
        · have := (later.getElem?_index inside).1
          omega
        · exact ih inside elsewhere

theorem exists_getLast? (adjoin : Adjoin index first lines stop) (nonempty : lines ≠ []) :
    ∃ last, lines.getLast? = some last ∧ last.stop = stop := by
  induction adjoin with
  | nil => exact absurd rfl nonempty
  | @cons head rest stop _ later ih =>
      rw [List.getLast?_cons]
      by_cases single : rest = []
      · subst single
        exact ⟨head, rfl, later.eq_of_nil⟩
      · obtain ⟨last, found, ends⟩ := ih single
        exact ⟨last, by rw [found]; rfl, ends⟩

/-- Of the lines that begin up to an offset the last one reaches it. -/
theorem exists_getLast?_filter (adjoin : Adjoin index first lines stop) (nonempty : lines ≠ [])
    {offset : Nat} (after : first ≤ offset) (before : offset ≤ stop) :
    ∃ line ∈ lines, (lines.filter (·.offset ≤ offset)).getLast? = some line ∧
      line.offset ≤ offset ∧ offset ≤ line.stop ∧ (offset < stop → offset < line.stop) := by
  induction adjoin with
  | nil => exact absurd rfl nonempty
  | @cons head rest stop _ later ih =>
      rw [List.filter_cons_of_pos (by simpa using after), List.getLast?_cons]
      by_cases inside : offset < head.stop
      · have none : rest.filter (·.offset ≤ offset) = [] := by
          refine List.filter_eq_nil_iff.mpr fun line among => ?_
          have := (later.bounds among).1
          simp only [decide_eq_true_eq]
          omega
        rw [none]
        exact ⟨head, List.mem_cons_self, rfl, after, Nat.le_of_lt inside, fun _ => inside⟩
      · by_cases single : rest = []
        · subst single
          obtain rfl := later.eq_of_nil
          exact ⟨head, List.mem_cons_self, rfl, after, before, id⟩
        · obtain ⟨line, among, found, rest⟩ := ih single (by omega) before
          exact ⟨line, List.mem_cons_of_mem head among, by rw [found]; rfl, rest⟩

/-- Every offset up to the end has its line, and but for the end itself the line goes beyond it. -/
theorem exists_find? (adjoin : Adjoin index first lines stop) (nonempty : lines ≠ [])
    {offset : Nat} (after : first ≤ offset) (before : offset ≤ stop) :
    ∃ line ∈ lines, find? lines offset = some line ∧
      line.offset ≤ offset ∧ offset ≤ line.stop ∧ (offset < stop → offset < line.stop) := by
  obtain ⟨last, ends, reaches⟩ := adjoin.exists_getLast? nonempty
  obtain ⟨line, among, found, rest⟩ := adjoin.exists_getLast?_filter nonempty after before
  refine ⟨line, among, ?_, rest⟩
  simp [find?, ends, reaches, before, found]

theorem of_find? (adjoin : Adjoin index first lines stop) {line : SourceLine} {offset : Nat}
    (found : find? lines offset = some line) :
    line ∈ lines ∧ line.offset ≤ offset ∧ offset ≤ line.stop ∧
      (offset < stop → offset < line.stop) := by
  obtain ⟨last, ends, chosen⟩ := Option.bind_eq_some_iff.mp found
  split at chosen
  · rename_i before
    have among := List.mem_of_getLast? chosen
    obtain ⟨inside, begins⟩ := List.mem_filter.mp among
    have nonempty := List.ne_nil_of_mem inside
    obtain ⟨other, same, reaches⟩ := adjoin.exists_getLast? nonempty
    obtain rfl := Option.some.inj (ends.symm.trans same)
    have after := Nat.le_trans (adjoin.bounds inside).1 (of_decide_eq_true begins)
    obtain ⟨line', beside, found', rest⟩ := adjoin.exists_find? nonempty after (reaches ▸ before)
    obtain rfl := Option.some.inj (found.symm.trans found')
    exact ⟨beside, rest⟩
  · cases chosen

/-- A line is the line of each offset that it covers. -/
theorem find?_of_covers (adjoin : Adjoin index first lines stop) {line : SourceLine}
    (among : line ∈ lines) {offset : Nat} (covers : line.covers offset = true) :
    find? lines offset = some line := by
  obtain ⟨begins, ends⟩ : line.offset ≤ offset ∧ offset < line.stop := by
    simpa [SourceLine.covers] using covers
  obtain ⟨lower, _, upper⟩ := adjoin.bounds among
  obtain ⟨other, beside, found, starts, _, goes⟩ :=
    adjoin.exists_find? (List.ne_nil_of_mem among) (Nat.le_trans lower begins)
      (Nat.le_trans (Nat.le_of_lt ends) upper)
  have inside := goes (by omega)
  rw [found]
  rcases Nat.lt_trichotomy line.index other.index with less | same | more
  · have := adjoin.stop_le_offset among beside less
    omega
  · have here := (adjoin.getElem?_index among).2
    have there := (adjoin.getElem?_index beside).2
    rw [same] at here
    exact there.symm.trans here
  · have := adjoin.stop_le_offset beside among more
    omega

/-- Later offsets are found on no earlier lines. -/
theorem index_mono (adjoin : Adjoin index first lines stop) {low high : Nat}
    {line other : SourceLine} (ordered : low ≤ high) (found : find? lines low = some line)
    (beside : find? lines high = some other) : line.index ≤ other.index := by
  obtain ⟨among, begins, _, _⟩ := adjoin.of_find? found
  obtain ⟨inside, _, ends, _⟩ := adjoin.of_find? beside
  refine Nat.le_of_not_lt fun before => ?_
  have apart := adjoin.stop_le_offset inside among before
  obtain rfl : low = high := by omega
  obtain rfl := Option.some.inj (found.symm.trans beside)
  exact Nat.lt_irrefl _ before

end Adjoin
end SourceLine
end BundleMarkup
