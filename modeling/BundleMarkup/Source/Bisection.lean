/-!
# Bisection

A number is looked for among increasing numbers by halving the stretch that it can be in, until one
place is left.  Whether the number is there or missing, its rank says how many numbers are smaller.
-/

namespace BundleMarkup

/-- What looking for a number comes to. -/
inductive Rank
  | found (position : Nat)
  /-- The number is missing and would have to be put at a position. -/
  | missing (position : Nat)
  deriving DecidableEq, Repr

namespace Rank

/-- Where a number is or would have to be put. -/
def position : Rank → Nat
  | found position => position
  | missing position => position

/-- Halve the `size` places from `base` on; the half that starts beyond the number is given up. -/
def narrow (numbers : List Nat) (wanted base size : Nat) : Nat :=
  if size ≤ 1 then
    base
  else
    let half := size / 2
    let middle := base + half
    if wanted < numbers.getD middle 0 then
      narrow numbers wanted base (size - half)
    else
      narrow numbers wanted middle (size - half)
termination_by size
decreasing_by all_goals omega

/-- Look for a number among increasing numbers. -/
def among (numbers : List Nat) (wanted : Nat) : Rank :=
  if numbers.isEmpty then
    missing 0
  else
    let base := narrow numbers wanted 0 numbers.length
    let number := numbers.getD base 0
    if number = wanted then found base
    else if number < wanted then missing (base + 1)
    else missing base

variable {numbers : List Nat} {wanted : Nat}

/-- A place is the last with a number up to the wanted one, or the first if there is none. -/
structure IsLast (numbers : List Nat) (wanted place : Nat) : Prop where
  bound : place < numbers.length
  reached : 0 < place → numbers.getD place 0 ≤ wanted
  behind : ∀ later < numbers.length, place < later → wanted < numbers.getD later 0

theorem getD_lt_getD (increasing : numbers.Pairwise (· < ·)) {first second : Nat}
    (before : first < second) (bound : second < numbers.length) :
    numbers.getD first 0 < numbers.getD second 0 := by
  have inside : first < numbers.length := Nat.lt_trans before bound
  rw [List.getD_eq_getElem?_getD, List.getD_eq_getElem?_getD, List.getElem?_eq_getElem inside,
    List.getElem?_eq_getElem bound]
  exact List.pairwise_iff_getElem.mp increasing first second inside bound before

/-- Halving keeps the last place that has a number up to the wanted one. -/
theorem isLast_narrow (increasing : numbers.Pairwise (· < ·)) {base size : Nat}
    (nonempty : 0 < size) (bound : base + size ≤ numbers.length)
    (reached : 0 < base → numbers.getD base 0 ≤ wanted)
    (behind : ∀ later < numbers.length, base + size ≤ later → wanted < numbers.getD later 0) :
    IsLast numbers wanted (narrow numbers wanted base size) := by
  fun_induction narrow numbers wanted base size with
  | case1 base size single =>
      exact ⟨by omega, reached, fun later inside beyond => behind later inside (by omega)⟩
  | case2 base size several half middle beyond ih =>
      refine ih (by omega) (by omega) reached fun later inside after => ?_
      rcases Nat.eq_or_lt_of_le (show middle ≤ later by omega) with rfl | further
      · exact beyond
      · exact Nat.lt_trans beyond (getD_lt_getD increasing further inside)
  | case3 base size several half middle reaches ih =>
      exact ih (by omega) (by omega) (fun _ => Nat.le_of_not_lt reaches)
        fun later inside after => behind later inside (by omega)

/-- If numbers fall below the wanted one before a place and not from it on, that many do. -/
theorem countP_eq_of_split {place : Nat} (bound : place ≤ numbers.length)
    (before : ∀ first < place, numbers.getD first 0 < wanted)
    (behind : ∀ later < numbers.length, place ≤ later → wanted ≤ numbers.getD later 0) :
    numbers.countP (· < wanted) = place := by
  have front : (numbers.take place).countP (· < wanted) = (numbers.take place).length := by
    refine List.countP_eq_length.mpr fun number member => decide_eq_true ?_
    obtain ⟨first, inside, rfl⟩ := List.mem_take_iff_getElem.mp member
    have below := before first (by omega)
    rwa [List.getD_eq_getElem?_getD, List.getElem?_eq_getElem (by omega)] at below
  have back : (numbers.drop place).countP (· < wanted) = 0 := by
    refine List.countP_eq_zero.mpr fun number member => ?_
    obtain ⟨further, inside, rfl⟩ := List.mem_drop_iff_getElem.mp member
    have above := behind (place + further) (by omega) (Nat.le_add_right ..)
    rw [List.getD_eq_getElem?_getD, List.getElem?_eq_getElem (by omega)] at above
    simpa using above
  calc numbers.countP (· < wanted)
      = (numbers.take place ++ numbers.drop place).countP (· < wanted) := by
        rw [List.take_append_drop]
    _ = place := by
        rw [List.countP_append, front, back, List.length_take, Nat.min_eq_left bound,
          Nat.add_zero]

/-- Found or missing, a number's rank among increasing numbers is how many are smaller. -/
theorem position_among (increasing : numbers.Pairwise (· < ·)) (wanted : Nat) :
    (among numbers wanted).position = numbers.countP (· < wanted) := by
  unfold among
  split
  · rename_i empty
    rw [List.isEmpty_iff.mp empty]
    rfl
  · rename_i nonempty
    have size : 0 < numbers.length := by
      rwa [List.isEmpty_iff, ← ne_eq, ← List.length_pos_iff] at nonempty
    have last : IsLast numbers wanted (narrow numbers wanted 0 numbers.length) :=
      isLast_narrow increasing size (by omega) (by omega) (by omega)
    generalize narrow numbers wanted 0 numbers.length = base at last ⊢
    have smaller (first : Nat) (before : first < base) : numbers.getD first 0 < wanted :=
      Nat.lt_of_lt_of_le (getD_lt_getD increasing before last.bound)
        (last.reached (Nat.zero_lt_of_lt before))
    have larger (later : Nat) (inside : later < numbers.length) (after : base + 1 ≤ later) :
        wanted ≤ numbers.getD later 0 :=
      Nat.le_of_lt (last.behind later inside after)
    rcases Nat.lt_trichotomy (numbers.getD base 0) wanted with below | same | above
    · rw [if_neg (Nat.ne_of_lt below), if_pos below]
      refine (countP_eq_of_split last.bound (fun first before => ?_) larger).symm
      rcases Nat.eq_or_lt_of_le (Nat.le_of_lt_succ before) with rfl | further
      · exact below
      · exact smaller first further
    · rw [if_pos same]
      have inside := Nat.le_of_lt last.bound
      refine (countP_eq_of_split inside smaller fun later among after => ?_).symm
      rcases Nat.eq_or_lt_of_le after with rfl | further
      · exact Nat.le_of_eq same.symm
      · exact larger later among further
    · rw [if_neg (Nat.ne_of_gt above), if_neg (Nat.lt_asymm above)]
      have inside := Nat.le_of_lt last.bound
      refine (countP_eq_of_split inside smaller fun later among after => ?_).symm
      rcases Nat.eq_or_lt_of_le after with rfl | further
      · exact Nat.le_of_lt above
      · exact larger later among further

end Rank
end BundleMarkup
