/-!
# Machine words

Offsets, rows, columns and indices are kept in machine words, so that there is a largest one.
-/

namespace BundleMarkup
namespace Word

/-- The largest number that fits a machine word. -/
def largest : Nat := 0xffffffffffffffff

/-- The number after a number, unless it fits no machine word. -/
def next? (number : Nat) : Option Nat := if number < largest then some (number + 1) else none

/-- The number after a number is had exactly below the largest. -/
theorem next?_eq_some_iff {number after : Nat} :
    next? number = some after ↔ number < largest ∧ after = number + 1 := by
  simp only [next?, Option.ite_none_right_eq_some, Option.some.injEq]
  rw [@eq_comm _ (number + 1)]

end Word
end BundleMarkup
