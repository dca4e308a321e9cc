import BundleMarkup.Bundle.LaunchCondition
import Mathlib.Data.List.Forall2

/-!
# Expressions of launch conditions

The expression of a condition is its text on one line, without white space around it.  Flattening
puts spaces for tabs and line breaks, which are white space as well, so it neither uncovers nor
makes white space at an end, and an expression is its own expression.
-/

namespace BundleMarkup
namespace LaunchCondition

theorem isBlank_flatten (char : Char) : Text.isBlank (flatten char) = Text.isBlank char := by
  unfold flatten
  split
  · rename_i broken
    rcases broken with rfl | rfl | rfl <;> decide
  · rfl

theorem flatten_notMem (char : Char) : flatten char ∉ ['\t', '\r', '\n'] := by
  unfold flatten
  split
  · decide
  · rename_i unbroken
    simpa using unbroken

theorem flatten_of_notMem {char : Char} (unbroken : char ∉ ['\t', '\r', '\n']) :
    flatten char = char :=
  if_neg (by simpa using unbroken)

theorem flatten_of_mem {char : Char} (broken : char ∈ ['\t', '\r', '\n']) : flatten char = ' ' :=
  if_pos (by simpa using broken)

/-- The same text on one line: tabs and line breaks have become spaces, all else has stayed. -/
def IsOnOneLine (text line : List Char) : Prop :=
  List.Forall₂ (fun char char' =>
    (char ∈ ['\t', '\r', '\n'] ∧ char' = ' ') ∨ (char ∉ ['\t', '\r', '\n'] ∧ char' = char))
    text line

theorem isOnOneLine_map_flatten (text : List Char) : IsOnOneLine text (text.map flatten) := by
  induction text with
  | nil => exact .nil
  | cons char rest ih =>
      refine .cons ?_ ih
      by_cases broken : char ∈ ['\t', '\r', '\n']
      · exact .inl ⟨broken, flatten_of_mem broken⟩
      · exact .inr ⟨broken, flatten_of_notMem broken⟩

theorem map_flatten_of_notMem {text : List Char}
    (unbroken : ∀ char ∈ text, char ∉ ['\t', '\r', '\n']) : text.map flatten = text := by
  have same : ∀ char ∈ text, flatten char = id char :=
    fun char among => flatten_of_notMem (unbroken char among)
  rw [List.map_congr_left same, List.map_id]

theorem isTrimmed_map_flatten {text : List Char} (trimmed : Text.IsTrimmed text) :
    Text.IsTrimmed (text.map flatten) := by
  constructor
  · intro char first
    obtain ⟨written, found, rfl⟩ := Option.map_eq_some_iff.mp (List.head?_map .. ▸ first)
    rw [isBlank_flatten]
    exact trimmed.head written found
  · intro char last
    obtain ⟨written, found, rfl⟩ := Option.map_eq_some_iff.mp (List.getLast?_map .. ▸ last)
    rw [isBlank_flatten]
    exact trimmed.last written found

variable {element : Element} {expression : String}

theorem expression?_eq_none :
    expression? element = none ↔ Text.allBlank element.innerText.toList = true := by
  rw [← Text.trim_eq_nil, expression?]
  cases Text.trim element.innerText.toList <;> simp

/-- An expression is what trimming leaves of the text, flattened, if it leaves anything. -/
theorem expression?_eq_some_iff :
    expression? element = some expression ↔ Text.trim element.innerText.toList ≠ [] ∧
      expression.toList = (Text.trim element.innerText.toList).map flatten := by
  unfold expression?
  cases Text.trim element.innerText.toList with
  | nil => simp
  | cons char rest =>
      rw [Option.some_inj, String.ext_iff, String.toList_ofList]
      exact ⟨fun same => ⟨List.cons_ne_nil char rest, same.symm⟩, fun same => same.2.symm⟩

/--
A condition has no expression exactly if its text is white space throughout.  Otherwise the
expression has no white space at its ends, no tab and no line break, and is the text without the
white space at its ends, put on one line character by character.  It is the expression of every
element that has it as its text.
-/
theorem expression?_normal (element : Element) :
    let text := element.innerText.toList
    let trimmed := Text.trim text
    (expression? element = none ↔ ∀ char ∈ text, Text.isBlank char = true) ∧
    (∃ front back, front ++ trimmed ++ back = text ∧ Text.IsTrimmed trimmed ∧
      Text.allBlank front = true ∧ Text.allBlank back = true) ∧
    ∀ expression, expression? element = some expression →
      Text.IsTrimmed expression.toList ∧
      (∀ char ∈ expression.toList, char ∉ ['\t', '\r', '\n']) ∧
      expression.toList.length = trimmed.length ∧
      IsOnOneLine trimmed expression.toList ∧
      ∀ again : Element, again.innerText = expression → expression? again = some expression := by
  intro text trimmed
  have ends : Text.IsTrimmed trimmed := Text.isTrimmed_trim text
  refine ⟨expression?_eq_none.trans List.all_eq_true, ?_, ?_⟩
  · obtain ⟨front, back, whole, blank, blank'⟩ := Text.append_trim_append text
    exact ⟨front, back, whole, ends, blank, blank'⟩
  · intro expression found
    obtain ⟨left, flat⟩ := expression?_eq_some_iff.mp found
    have flatEnds : Text.IsTrimmed expression.toList := flat ▸ isTrimmed_map_flatten ends
    have unbroken : ∀ char ∈ expression.toList, char ∉ ['\t', '\r', '\n'] := by
      intro char among
      rw [flat] at among
      obtain ⟨written, _, rfl⟩ := List.mem_map.mp among
      exact flatten_notMem written
    refine ⟨flatEnds, unbroken, ?_, flat ▸ isOnOneLine_map_flatten trimmed, ?_⟩
    · rw [flat, List.length_map]
    · intro again same
      have kept : Text.trim again.innerText.toList = expression.toList := by
        rw [same, Text.trim_of_isTrimmed flatEnds]
      refine expression?_eq_some_iff.mpr ⟨?_, ?_⟩
      · rw [kept, flat]
        exact fun none => left (List.map_eq_nil_iff.mp none)
      · rw [kept, map_flatten_of_notMem unbroken]

/-- A text around a child, with white space of several kinds at its ends and inside it. -/
theorem expression?_normal_around :
    let element : Element := { (default : Element) with
      children := .mixed
        [.text "\u3000\tA\t" default, .element default, .text "\r\n B\u00a0\n" default] }
    let again : Element := { (default : Element) with children := .text "A    B" default }
    expression? element = some "A    B" ∧ again.innerText = "A    B" ∧
      Text.IsTrimmed "A    B".toList ∧ IsOnOneLine "A\t\r\n B".toList "A    B".toList ∧
      expression? again = some "A    B" := by
  intro element again
  have found : expression? element = some "A    B" := by decide +kernel
  have trimmed : Text.trim element.innerText.toList = "A\t\r\n B".toList := by decide +kernel
  obtain ⟨_, _, normal⟩ := expression?_normal element
  obtain ⟨ends, _, _, line, idempotent⟩ := normal "A    B" found
  rw [trimmed] at line
  exact ⟨found, rfl, ends, line, idempotent again rfl⟩

end LaunchCondition
end BundleMarkup
