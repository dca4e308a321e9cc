/-!
# Intervals of code points

Properties of characters are given as increasing lists of closed intervals of code points.
-/

namespace BundleMarkup
namespace Text

/-- Whether a character lies in one of the intervals. -/
def isAmong (intervals : List (Nat × Nat)) (char : Char) : Bool :=
  intervals.any fun (low, high) => low ≤ char.toNat && char.toNat ≤ high

end Text
end BundleMarkup
