import BundleMarkup.Text.Interval

/-!
# White space

The characters of the Unicode property `White_Space`, and texts with such characters removed from
their ends.
-/

namespace BundleMarkup
namespace Text

/-- Code points with the Unicode property `White_Space`, as closed intervals. -/
def blankIntervals : List (Nat × Nat) :=
  [(0x09, 0x0D), (0x20, 0x20), (0x85, 0x85), (0xA0, 0xA0), (0x1680, 0x1680), (0x2000, 0x200A),
    (0x2028, 0x2029), (0x202F, 0x202F), (0x205F, 0x205F), (0x3000, 0x3000)]

/-- Whether a character has the Unicode property `White_Space`. -/
def isBlank (char : Char) : Bool := isAmong blankIntervals char

/-- A text without the white space at its end. -/
def trimEnd (text : List Char) : List Char :=
  (text.reverse.dropWhile isBlank).reverse

/-- A text without the white space at its two ends. -/
def trim (text : List Char) : List Char :=
  trimEnd (text.dropWhile isBlank)

/-- Whether a text consists of white space only. -/
def allBlank (text : List Char) : Bool :=
  text.all isBlank

/-- A text neither begins nor ends with white space. -/
structure IsTrimmed (text : List Char) : Prop where
  head : ∀ char ∈ text.head?, isBlank char = false
  last : ∀ char ∈ text.getLast?, isBlank char = false

theorem dropWhile_append_of_allBlank {front : List Char} (blank : allBlank front = true)
    (back : List Char) : (front ++ back).dropWhile isBlank = back.dropWhile isBlank :=
  List.dropWhile_append_of_pos (List.all_eq_true.mp blank)

/-- White space at the start of a text is trimmed off. -/
theorem trim_append_of_allBlank_left {front : List Char} (blank : allBlank front = true)
    (back : List Char) : trim (front ++ back) = trim back := by
  rw [trim, dropWhile_append_of_allBlank blank, trim]

/-- White space at the end of a text is trimmed off. -/
theorem trim_append_of_allBlank_right {back : List Char} (blank : allBlank back = true)
    (front : List Char) : trim (front ++ back) = trim front := by
  have trimEnd_append (inner : List Char) : trimEnd (inner ++ back) = trimEnd inner := by
    have reversed : allBlank back.reverse = true := by rwa [allBlank, List.all_reverse]
    rw [trimEnd, List.reverse_append, dropWhile_append_of_allBlank reversed, trimEnd]
  rw [trim, trim, List.dropWhile_append]
  split
  · rename_i nothing
    have dropped := dropWhile_append_of_allBlank blank []
    rw [List.append_nil] at dropped
    rw [dropped, List.isEmpty_iff.mp nothing]
    rfl
  · exact trimEnd_append _

theorem dropWhile_eq_nil {text : List Char} :
    text.dropWhile isBlank = [] ↔ allBlank text = true := by
  induction text with
  | nil => simp [allBlank]
  | cons char rest ih =>
      rw [allBlank] at ih ⊢
      rw [List.dropWhile_cons, List.all_cons]
      cases blank : isBlank char with
      | true => rwa [if_pos rfl, Bool.true_and]
      | false => simp

/-- Dropping white space stops at something else. -/
theorem isBlank_of_dropWhile_eq_cons {text rest : List Char} {char : Char}
    (dropped : text.dropWhile isBlank = char :: rest) : isBlank char = false := by
  have stops := List.head?_dropWhile_not isBlank text
  rwa [dropped] at stops

theorem trimEnd_eq_nil {text : List Char} : trimEnd text = [] ↔ allBlank text = true := by
  rw [trimEnd, List.reverse_eq_nil_iff, dropWhile_eq_nil, allBlank, List.all_reverse, allBlank]

theorem trimEnd_prefix (text : List Char) : trimEnd text <+: text := by
  have kept := List.reverse_prefix.mpr (List.dropWhile_suffix isBlank (l := text.reverse))
  rwa [List.reverse_reverse] at kept

/-- Nothing is trimmed off a text that ends with no white space. -/
theorem trimEnd_concat (text : List Char) {char : Char} (stops : isBlank char = false) :
    trimEnd (text ++ [char]) = text ++ [char] := by
  rw [trimEnd, List.reverse_concat, List.dropWhile_cons_of_neg (by simp [stops]),
    List.reverse_cons, List.reverse_reverse]

/-- What trimming leaves of a text does not start with white space. -/
theorem isBlank_of_trim_eq_cons {text rest : List Char} {char : Char}
    (trimmed : trim text = char :: rest) : isBlank char = false := by
  obtain ⟨cut, whole⟩ := trimEnd_prefix (text.dropWhile isBlank)
  rw [← trim, trimmed, List.cons_append] at whole
  exact isBlank_of_dropWhile_eq_cons whole.symm

/-- Trimming leaves nothing of a text exactly if it is white space throughout. -/
theorem trim_eq_nil {text : List Char} : trim text = [] ↔ allBlank text = true := by
  rw [trim, trimEnd_eq_nil]
  cases dropped : text.dropWhile isBlank with
  | nil => exact iff_of_true rfl (dropWhile_eq_nil.mp dropped)
  | cons char rest =>
      have stops := isBlank_of_dropWhile_eq_cons dropped
      have notBlank : allBlank text ≠ true := fun blank => by
        rw [dropWhile_eq_nil.mpr blank] at dropped
        cases dropped
      exact iff_of_false (by simp [allBlank, stops]) notBlank

theorem dropWhile_of_head {text : List Char} (head : ∀ char ∈ text.head?, isBlank char = false) :
    text.dropWhile isBlank = text := by
  cases text with
  | nil => rfl
  | cons char rest =>
      have stops : isBlank char = false := head char rfl
      exact List.dropWhile_cons_of_neg (by simp [stops])

/-- Nothing is trimmed off a text without white space at its ends. -/
theorem trim_of_isTrimmed {text : List Char} (trimmed : IsTrimmed text) : trim text = text := by
  have reversed : text.reverse.dropWhile isBlank = text.reverse :=
    dropWhile_of_head (by simpa using trimmed.last)
  rw [trim, dropWhile_of_head trimmed.head, trimEnd, reversed, List.reverse_reverse]

theorem trimEnd_append (text : List Char) :
    ∃ back, trimEnd text ++ back = text ∧ allBlank back = true := by
  refine ⟨(text.reverse.takeWhile isBlank).reverse, ?_, ?_⟩
  · rw [trimEnd, ← List.reverse_append, List.takeWhile_append_dropWhile, List.reverse_reverse]
  · rw [allBlank, List.all_reverse]
    exact List.all_takeWhile

/-- Trimming takes white space off both ends, and nothing else. -/
theorem append_trim_append (text : List Char) :
    ∃ front back, front ++ trim text ++ back = text ∧
      allBlank front = true ∧ allBlank back = true := by
  obtain ⟨back, whole, blank⟩ := trimEnd_append (text.dropWhile isBlank)
  refine ⟨text.takeWhile isBlank, back, ?_, List.all_takeWhile, blank⟩
  rw [List.append_assoc, trim, whole, List.takeWhile_append_dropWhile]

/-- What trimming leaves has no white space at its ends. -/
theorem isTrimmed_trim (text : List Char) : IsTrimmed (trim text) := by
  constructor
  · intro char first
    obtain ⟨rest, trimmed⟩ := List.head?_eq_some_iff.mp first
    exact isBlank_of_trim_eq_cons trimmed
  · intro char last
    rw [trim, trimEnd, List.getLast?_reverse] at last
    obtain ⟨rest, dropped⟩ := List.head?_eq_some_iff.mp last
    exact isBlank_of_dropWhile_eq_cons dropped

end Text
end BundleMarkup
