import BundleMarkup.Source.LineIndex
import Mathlib.Data.List.DropRight
import Mathlib.Data.Prod.Lex

/-!
# Lines

The line index of a text holds the places of the line feeds among its bytes, all of them and in
order.  An offset, be it inside a character, is on the row that as many line feeds stand before, and
its column counts the bytes behind the last of them.  Rows and columns tell offsets apart and put
them in order.
-/

namespace BundleMarkup

namespace Text

/-- The bytes of a text in UTF-8. -/
def bytes (text : List Char) : List UInt8 := text.flatMap String.utf8EncodeChar

/-- The byte that breaks a line. -/
def lineFeed : UInt8 := 10

/-- The bytes of a text before an offset. -/
def bytesBefore (text : List Char) (offset : Nat) : List UInt8 := (bytes text).take offset

/-- Line feeds before an offset. -/
def lineFeedsBefore (text : List Char) (offset : Nat) : Nat :=
  (bytesBefore text offset).count lineFeed

/-- Bytes before an offset that stand behind all line feeds before it. -/
def bytesInLine (text : List Char) (offset : Nat) : Nat :=
  ((bytesBefore text offset).rtakeWhile (· != lineFeed)).length

@[simp]
theorem length_bytes (text : List Char) : (bytes text).length = byteLength text := by
  induction text with
  | nil => rfl
  | cons char rest ih =>
      rw [bytes, List.flatMap_cons, List.length_append, String.length_utf8EncodeChar, ← bytes, ih,
        byteLength_cons]

theorem length_bytesBefore {text : List Char} {offset : Nat} (inside : offset ≤ byteLength text) :
    (bytesBefore text offset).length = offset := by
  rw [bytesBefore, List.length_take, length_bytes, Nat.min_eq_left inside]

/-- The bytes of a character are its number alone or have their highest bit set. -/
theorem toNat_of_mem_utf8EncodeChar {char : Char} {byte : UInt8}
    (among : byte ∈ String.utf8EncodeChar char) :
    byte.toNat = char.toNat ∨ 128 ≤ byte.toNat := by
  rw [← Char.toNat_val]
  unfold String.utf8EncodeChar at among
  simp only at among
  split at among
  · rw [List.mem_singleton.mp among, UInt8.toNat_ofNat']
    omega
  · right
    repeat' split at among
    all_goals
      simp only [List.mem_cons, List.not_mem_nil, or_false] at among
      rcases among with rfl | rfl | rfl | rfl <;> rw [UInt8.toNat_ofNat'] <;> omega

/-- No character but the line feed has its byte. -/
theorem lineFeed_notMem_utf8EncodeChar {char : Char} (other : char ≠ '\n') :
    lineFeed ∉ String.utf8EncodeChar char := by
  intro among
  have number : lineFeed.toNat = '\n'.toNat := rfl
  rcases toNat_of_mem_utf8EncodeChar among with same | high
  · exact other (Char.toNat_inj.mp (same.symm.trans number))
  · rw [number] at high
    exact absurd high (by decide)

/-- Bytes have no line feed, or what stands behind their last one is a line. -/
theorem eq_or_exists_line (list : List UInt8) :
    lineFeed ∉ list ∧ list.rtakeWhile (· != lineFeed) = list ∨
      ∃ front line, list = front ++ lineFeed :: line ∧ lineFeed ∉ line ∧
        list.rtakeWhile (· != lineFeed) = line := by
  have whole := List.rdropWhile_append_rtakeWhile (p := (· != lineFeed)) (l := list)
  have line : lineFeed ∉ list.rtakeWhile (· != lineFeed) := fun among => by
    simpa using List.mem_rtakeWhile_imp among
  have last := List.rdropWhile_last_not (· != lineFeed) list
  rcases List.eq_nil_or_concat (list.rdropWhile (· != lineFeed)) with empty | ⟨front, byte, split⟩
  · rw [empty, List.nil_append] at whole
    rw [whole] at line
    exact .inl ⟨line, whole⟩
  · obtain rfl : byte = lineFeed := by simpa [split] using last
    refine .inr ⟨front, _, ?_, line, rfl⟩
    rw [split, List.concat_eq_append] at whole
    rw [List.append_cons, whole]

theorem lineFeedsBefore_mono (text : List Char) {offset later : Nat} (before : offset ≤ later) :
    lineFeedsBefore text offset ≤ lineFeedsBefore text later :=
  (List.take_sublist_take_left before).count_le lineFeed

end Text

namespace LineIndex

open Text

/-- The line breaks of a text are the places of the line feeds among its bytes. -/
theorem breaksFrom_eq (start : Nat) (text : List Char) :
    breaksFrom start text = (bytes text).idxsOf lineFeed start := by
  induction text generalizing start with
  | nil => rfl
  | cons char rest ih =>
      rw [breaksFrom, bytes, List.flatMap_cons, List.idxsOf_append, ← bytes,
        String.length_utf8EncodeChar, ih]
      split
      · rename_i same
        subst same
        rfl
      · rename_i other
        have none : (String.utf8EncodeChar char).idxsOf lineFeed start = [] := by
          refine List.idxsOf_eq_nil_iff.mpr fun byte among => beq_false_of_ne ?_
          rintro rfl
          exact lineFeed_notMem_utf8EncodeChar other among
        rw [none, List.nil_append]

/-- Of the line breaks of a text, those before an offset come first. -/
theorem breaks_eq_append {text : List Char} {offset : Nat} (inside : offset ≤ byteLength text) :
    (ofText text).breaks = (bytesBefore text offset).idxsOf lineFeed ++
      ((bytes text).drop offset).idxsOf lineFeed offset := by
  have split := List.take_append_drop offset (bytes text)
  calc (ofText text).breaks
      = (bytes text).idxsOf lineFeed := breaksFrom_eq 0 text
    _ = (bytesBefore text offset ++ (bytes text).drop offset).idxsOf lineFeed := by
        rw [bytesBefore, split]
    _ = _ := by rw [List.idxsOf_append, length_bytesBefore inside, Nat.zero_add]

theorem increasing_breaks (text : List Char) : (ofText text).breaks.Pairwise (· < ·) := by
  rw [ofText, breaksFrom_eq]
  exact List.pairwise_idxsOf

/-- The search among the line breaks ends at the row that as many line feeds stand before. -/
theorem row_ofText {text : List Char} {offset : Nat} (inside : offset ≤ byteLength text) :
    (ofText text).row offset = lineFeedsBefore text offset := by
  have before : ((bytesBefore text offset).idxsOf lineFeed).countP (· < offset) =
      ((bytesBefore text offset).idxsOf lineFeed).length := by
    refine List.countP_eq_length.mpr fun place among => decide_eq_true ?_
    have bound := List.lt_add_of_mem_idxsOf place among
    rwa [length_bytesBefore inside, Nat.add_zero] at bound
  have behind : (((bytes text).drop offset).idxsOf lineFeed offset).countP (· < offset) = 0 := by
    refine List.countP_eq_zero.mpr fun place among => ?_
    have bound := (List.mem_idxsOf_iff_getElem_sub_pos.mp among).1
    simpa using bound
  rw [row, Rank.position_among (increasing_breaks text), breaks_eq_append inside,
    List.countP_append, before, behind, List.length_idxsOf, Nat.add_zero, lineFeedsBefore]

/-- A row starts where the bytes of its line do. -/
theorem exists_rowStart {text : List Char} {offset : Nat} (inside : offset ≤ byteLength text) :
    ∃ start, (ofText text).rowStart? (lineFeedsBefore text offset) = some start ∧
      start + bytesInLine text offset = offset := by
  have whole := length_bytesBefore inside
  have breaks := breaks_eq_append inside
  rw [lineFeedsBefore, bytesInLine]
  rcases eq_or_exists_line (bytesBefore text offset) with
    ⟨free, line⟩ | ⟨front, line, split, free, last⟩
  · rw [List.count_eq_zero_of_not_mem free, line, whole]
    exact ⟨0, rfl, Nat.zero_add offset⟩
  · rw [last]
    rw [split] at whole breaks ⊢
    have place : (ofText text).breaks[front.count lineFeed]? = some front.length := by
      rw [breaks, List.idxsOf_append, List.idxsOf_cons, if_pos (beq_self_eq_true lineFeed),
        List.append_assoc, List.cons_append, List.getElem?_append_right List.length_idxsOf.le,
        List.length_idxsOf, Nat.sub_self, Nat.zero_add, List.getElem?_cons_zero]
    refine ⟨front.length + 1, ?_, ?_⟩
    · rw [List.count_append, List.count_cons_self, List.count_eq_zero_of_not_mem free, rowStart?,
        Nat.add_zero, place, Option.map_some]
    · rw [List.length_append, List.length_cons] at whole
      omega

variable {text : List Char} {offset later : Nat} {location other : Location}

theorem location?_eq_some (inside : offset ≤ byteLength text) :
    (ofText text).location? offset =
      some ⟨offset, lineFeedsBefore text offset, bytesInLine text offset⟩ := by
  obtain ⟨start, found, whole⟩ := exists_rowStart inside
  have within : ¬(ofText text).size < offset := Nat.not_lt.mpr inside
  have column : offset - start = bytesInLine text offset := by omega
  rw [location?, if_neg within, row_ofText inside, found, Option.map_some, column]

theorem location?_eq_none : (ofText text).location? offset = none ↔ byteLength text < offset := by
  rcases Nat.lt_or_ge (byteLength text) offset with beyond | inside
  · have outside : (ofText text).size < offset := beyond
    simp [location?, outside, beyond]
  · simp [location?_eq_some inside, inside]

/-- A location is found up to the end of the text, and it is on a line. -/
theorem eq_of_location? (found : (ofText text).location? offset = some location) :
    offset ≤ byteLength text ∧
      location = ⟨offset, lineFeedsBefore text offset, bytesInLine text offset⟩ := by
  have inside : offset ≤ byteLength text := by
    by_contra beyond
    rw [location?_eq_none.mpr (Nat.lt_of_not_le beyond)] at found
    cases found
  rw [location?_eq_some inside] at found
  exact ⟨inside, (Option.some.inj found).symm⟩

theorem lineFeedsBefore_lt_lineCount (inside : offset ≤ byteLength text) :
    lineFeedsBefore text offset < (ofText text).lineCount := by
  have size := congrArg List.length (breaks_eq_append inside)
  rw [List.length_append, List.length_idxsOf] at size
  rw [lineCount, lineFeedsBefore]
  omega

/-- A later offset is on a later row or, on the same one, in a later column. -/
theorem row_lt_or_column_lt (inside : later ≤ byteLength text) (before : offset < later) :
    lineFeedsBefore text offset < lineFeedsBefore text later ∨
      lineFeedsBefore text offset = lineFeedsBefore text later ∧
        bytesInLine text offset < bytesInLine text later := by
  rcases (lineFeedsBefore_mono text before.le).lt_or_eq with above | same
  · exact .inl above
  · obtain ⟨start, found, whole⟩ := exists_rowStart (before.le.trans inside)
    obtain ⟨start', found', whole'⟩ := exists_rowStart inside
    obtain rfl : start = start' := Option.some.inj (found.symm.trans (same ▸ found'))
    exact .inr ⟨same, by omega⟩

theorem compare_row_column (found : (ofText text).location? offset = some location)
    (found' : (ofText text).location? later = some other) :
    (compare location.row other.row).then (compare location.column other.column) =
      compare offset later := by
  obtain ⟨inside, rfl⟩ := eq_of_location? found
  obtain ⟨inside', rfl⟩ := eq_of_location? found'
  rcases Nat.lt_trichotomy offset later with before | rfl | behind
  · rw [Nat.compare_eq_lt.mpr before]
    rcases row_lt_or_column_lt inside' before with above | ⟨same, left⟩
    · rw [Nat.compare_eq_lt.mpr above]
      rfl
    · rw [same, Nat.compare_eq_eq.mpr rfl, Nat.compare_eq_lt.mpr left]
      rfl
  · simp
  · rw [Nat.compare_eq_gt.mpr behind]
    rcases row_lt_or_column_lt inside behind with above | ⟨same, left⟩
    · rw [Nat.compare_eq_gt.mpr above]
      rfl
    · rw [same, Nat.compare_eq_eq.mpr rfl, Nat.compare_eq_gt.mpr left]
      rfl

/--
Every offset of a text has a location, and no offset beyond.  Its row is the number of line feeds
before it, its column the number of bytes since the last of them, counted from where the row starts.
Locations are in the order of their rows and columns, which is that of their offsets.
-/
theorem location?_ofText (text : List Char) :
    let index := ofText text
    (∀ offset, index.location? offset = none ↔ byteLength text < offset) ∧
    (∀ offset location, index.location? offset = some location →
      location = ⟨offset, lineFeedsBefore text offset, bytesInLine text offset⟩ ∧
      location.row < index.lineCount ∧
      ∃ start, index.rowStart? location.row = some start ∧ start ≤ offset ∧
        location.column = offset - start) ∧
    ∀ offset later location other, index.location? offset = some location →
      index.location? later = some other →
        (offset < later ↔
          toLex (location.row, location.column) < toLex (other.row, other.column)) ∧
        (location.row = other.row → location.column = other.column → offset = later) ∧
        compare location other = compare offset later ∧
        compare location other =
          (compare location.row other.row).then (compare location.column other.column) := by
  intro index
  refine ⟨fun _ => location?_eq_none, ?_, ?_⟩
  · intro offset location found
    obtain ⟨inside, rfl⟩ := eq_of_location? found
    obtain ⟨start, starts, whole⟩ := exists_rowStart inside
    exact ⟨rfl, lineFeedsBefore_lt_lineCount inside, start, starts, by omega, by
      show bytesInLine text offset = _
      omega⟩
  · intro offset later location other found found'
    have order := compare_row_column found found'
    have offsets : location.offset = offset ∧ other.offset = later :=
      ⟨index.offset_of_location? found, index.offset_of_location? found'⟩
    have whole : compare location other = compare offset later := by
      have keys : compare location other = (compare location.offset other.offset).then
          ((compare location.row other.row).then
            ((compare location.column other.column).then .eq)) := rfl
      rw [keys, Ordering.then_eq, order, offsets.1, offsets.2]
      cases compare offset later <;> rfl
    refine ⟨?_, ?_, whole, whole.trans order.symm⟩
    · rw [← Nat.compare_eq_lt, ← order, Ordering.then_eq_lt, Nat.compare_eq_lt, Nat.compare_eq_eq,
        Nat.compare_eq_lt, Prod.Lex.toLex_lt_toLex]
    · intro rows columns
      rw [rows, columns] at order
      simpa using order.symm

/-- An offset on a line feed, and one inside a character behind the line that it ends. -/
theorem location?_ofText_emptyLine :
    let text := "ä\n\nöb".toList
    let index := ofText text
    index.location? 3 = some ⟨3, 1, 0⟩ ∧ index.location? 5 = some ⟨5, 2, 1⟩ ∧
      (index.location? 8 = none ↔ byteLength text < 8) ∧
      (lineFeedsBefore text 5 = 2 ∧ bytesInLine text 5 = 1 ∧ 2 < index.lineCount ∧
        ∃ start, index.rowStart? 2 = some start ∧ start ≤ 5 ∧ 1 = 5 - start) ∧
      (3 < 5 ↔ toLex (1, 0) < toLex (2, 1)) ∧
      compare (⟨3, 1, 0⟩ : Location) ⟨5, 2, 1⟩ = compare 3 5 := by
  intro text index
  have first : index.location? 3 = some ⟨3, 1, 0⟩ := by decide +kernel
  have second : index.location? 5 = some ⟨5, 2, 1⟩ := by decide +kernel
  obtain ⟨beyond, found, ordered⟩ := location?_ofText text
  obtain ⟨place, row, start⟩ := found 5 ⟨5, 2, 1⟩ second
  obtain ⟨_, rows, columns⟩ := Location.mk.inj place
  obtain ⟨places, _, compared, _⟩ := ordered 3 5 ⟨3, 1, 0⟩ ⟨5, 2, 1⟩ first second
  exact ⟨first, second, beyond 8, ⟨rows.symm, columns.symm, row, start⟩, places, compared⟩

end LineIndex
end BundleMarkup
