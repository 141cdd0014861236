/-
**Proportional shares and clamped allocations.**

Finite sums over lists in a linearly ordered field, in the form an allocator needs them.

* `share total count weight` is the part of one unit that goes to a weight: proportional to it when
  the total weight is positive, and one equal part otherwise. Over a non-empty list the shares add
  up to one (`sum_share`).
* `clamp low high value` raises a value to a floor after cutting it at a ceiling. Clamping takes what
  the ceiling cuts and adds what the floor lifts of the rest (`clamp_eq`), so the sum of a clamped
  allocation is a ledger of three sums (`sum_clamp`).
* `handOut amount total room` is what a recipient gets of an amount that is handed out in proportion to
  how much each recipient can take, up to what all of them can take (`sum_handOut`).
* `orOne total` guards a denominator: zero is read as one. The guarded ratio is monotone in its
  numerator and antitone in the rest of the total (`ratio_le_ratio_of_raise`,
  `ratio_le_ratio_of_other`).
-/

import Mathlib.Algebra.BigOperators.Group.List.Basic
import Mathlib.Algebra.Order.BigOperators.Group.List
import Mathlib.Algebra.BigOperators.Ring.List
import Mathlib.Algebra.Order.Field.Basic
import Mathlib.Tactic.Linarith

set_option linter.unusedSectionVars false

namespace Opendps.Lib

variable {ι K : Type*} [Field K] [LinearOrder K] [IsStrictOrderedRing K]

theorem sum_map_sub (items : List ι) (first second : ι → K) :
    (items.map fun item => first item - second item).sum =
      (items.map first).sum - (items.map second).sum := by
  rw [eq_sub_iff_add_eq, ← List.sum_map_add]
  simp only [sub_add_cancel]

/-- A sum is that of the elements that pass a test and that of the others. -/
theorem sum_filter_add (test : ι → Bool) (value : ι → K) (items : List ι) :
    ((items.filter test).map value).sum + ((items.filter fun item => !test item).map value).sum =
      (items.map value).sum := by
  rw [← List.sum_append, ← List.map_append]
  exact ((List.filter_append_perm test items).map value).sum_eq

/-! ### Clamping -/

/-- Cut a value at a ceiling, then raise it to a floor. -/
def clamp (low high value : K) : K := max low (min high value)

/-- Whatever the order of floor and ceiling, the floor lifts what the ceiling has left. -/
theorem clamp_eq (low high value : K) :
    clamp low high value = value + max 0 (low - min high value) - max 0 (value - high) := by
  have cut : min high value = value - max 0 (value - high) := by
    rcases le_total value high with below | above
    · rw [min_eq_right below, max_eq_left (sub_nonpos.mpr below), sub_zero]
    · rw [min_eq_left above, max_eq_right (sub_nonneg.mpr above), sub_sub_cancel]
  have lift : clamp low high value = min high value + max 0 (low - min high value) := by
    unfold clamp
    rcases le_total low (min high value) with inside | under
    · rw [max_eq_right inside, max_eq_left (sub_nonpos.mpr inside), add_zero]
    · rw [max_eq_left under, max_eq_right (sub_nonneg.mpr under), add_sub_cancel]
  linarith

/-- The ledger of a clamped allocation. -/
theorem sum_clamp (items : List ι) (low : K) (high value : ι → K) :
    (items.map fun item => clamp low (high item) (value item)).sum =
      (items.map value).sum +
          (items.map fun item => max 0 (low - min (high item) (value item))).sum -
        (items.map fun item => max 0 (value item - high item)).sum := by
  have termwise : (items.map fun item => clamp low (high item) (value item)) = items.map fun item =>
      value item + max 0 (low - min (high item) (value item)) - max 0 (value item - high item) :=
    List.map_congr_left fun item _ => clamp_eq low (high item) (value item)
  rw [termwise, sum_map_sub, List.sum_map_add]

/-- With the floor below the ceiling, the floor lifts nothing that the ceiling cuts. -/
theorem lift_eq {low high : K} (ordered : low ≤ high) (value : K) :
    max 0 (low - min high value) = max 0 (low - value) := by
  rcases le_total value high with below | above
  · rw [min_eq_right below]
  · rw [min_eq_left above, max_eq_left (sub_nonpos.mpr ordered),
      max_eq_left (sub_nonpos.mpr (ordered.trans above))]

/-- A ceiling below the floor cuts nothing that the floor does not lift again. -/
theorem clamp_max (low high value : K) : clamp low (max low high) value = clamp low high value := by
  unfold clamp
  rw [min_max_distrib_right, ← max_assoc, max_eq_left (min_le_left low value)]

/-! ### Shares -/

/-- The share of one weight: proportional to it, or equal when the total is not positive. -/
def share (total : K) (count : ℕ) (weight : K) : K :=
  if 0 < total then weight / total else 1 / count

/-- Over a non-empty list the shares of the weights add up to one. -/
theorem sum_share {items : List ι} (nonempty : items ≠ []) (weight : ι → K) :
    (items.map fun item => share (items.map weight).sum items.length (weight item)).sum = 1 := by
  unfold share
  by_cases positive : 0 < (items.map weight).sum
  · simp only [positive, if_true, div_eq_mul_inv]
    rw [List.sum_map_mul_right, mul_inv_cancel₀ positive.ne']
  · have count : (items.length : K) ≠ 0 := by
      rw [Nat.cast_ne_zero]
      exact fun zero => nonempty (List.length_eq_zero_iff.mp zero)
    simp only [positive, if_false, List.map_const', List.sum_replicate, nsmul_eq_mul]
    exact mul_one_div_cancel count

/-- Values scaled by a target over their sum add up to the target. -/
theorem sum_scaled {values : List K} (total : values.sum ≠ 0) (target : K) :
    (values.map fun value => value * (target / values.sum)).sum = target := by
  rw [List.sum_map_mul_right, List.map_id', mul_div_cancel₀ _ total]

/-! ### Handing an amount out -/

/-- The part of an amount for a recipient with some room, out of all the room there is. -/
def handOut (amount total room : K) : K :=
  if 0 < amount ∧ 0 < total then min amount total * room / total else 0

theorem handOut_nonneg (amount total : K) {room : K} (nonneg : 0 ≤ room) :
    0 ≤ handOut amount total room := by
  unfold handOut
  split
  · next some =>
    have given : 0 ≤ min amount total := le_min some.1.le some.2.le
    exact div_nonneg (mul_nonneg given nonneg) some.2.le
  · exact le_rfl

/-- Nobody gets more than there is room for. -/
theorem handOut_le (amount total : K) {room : K} (nonneg : 0 ≤ room) :
    handOut amount total room ≤ room := by
  unfold handOut
  split
  · next some =>
    rw [div_le_iff₀ some.2, mul_comm room]
    exact mul_le_mul_of_nonneg_right (min_le_right amount total) nonneg
  · exact nonneg

/-- All of a non-negative amount is handed out, up to all the room there is. -/
theorem sum_handOut {items : List ι} {room : ι → K} (nonneg : ∀ item ∈ items, 0 ≤ room item)
    {amount : K} (amountNonneg : 0 ≤ amount) :
    (items.map fun item => handOut amount (items.map room).sum (room item)).sum =
      min amount (items.map room).sum := by
  have totalNonneg : 0 ≤ (items.map room).sum := by
    refine List.sum_nonneg fun value inside => ?_
    obtain ⟨item, member, rfl⟩ := List.mem_map.mp inside
    exact nonneg item member
  unfold handOut
  by_cases some : 0 < amount ∧ 0 < (items.map room).sum
  · simp only [some, and_self, if_true, div_eq_mul_inv]
    rw [List.sum_map_mul_right, List.sum_map_mul_left, mul_assoc, mul_inv_cancel₀ some.2.ne', mul_one]
  · simp only [some, if_false, List.map_const', List.sum_replicate, nsmul_eq_mul, mul_zero]
    rcases amountNonneg.eq_or_lt with zero | positive
    · rw [← zero, min_eq_left totalNonneg]
    · have none : (items.map room).sum = 0 :=
        le_antisymm (not_lt.mp fun more => some ⟨positive, more⟩) totalNonneg
      rw [none, min_eq_right amountNonneg]

/-! ### Guarded ratios -/

/-- A denominator that is never zero: zero is read as one. -/
def orOne (total : K) : K := if total = 0 then 1 else total

theorem orOne_pos {total : K} (nonneg : 0 ≤ total) : 0 < orOne total := by
  unfold orOne
  split
  · exact one_pos
  · next nonzero => exact lt_of_le_of_ne nonneg (Ne.symm nonzero)

theorem orOne_of_pos {total : K} (positive : 0 < total) : orOne total = total := by
  rw [orOne, if_neg positive.ne']

/-- Guarded ratios of non-negative parts of a total add up to at most one. -/
theorem self_div_orOne_le_one (total : K) : total / orOne total ≤ 1 := by
  unfold orOne
  split
  · next zero => rw [zero, zero_div]; exact zero_le_one
  · next nonzero => rw [div_self nonzero]

theorem ratio_nonneg {part total : K} (partNonneg : 0 ≤ part) (totalNonneg : 0 ≤ total) :
    0 ≤ part / orOne total :=
  div_nonneg partNonneg (orOne_pos totalNonneg).le

/-- Raising one part, the others unchanged, does not lower its ratio. -/
theorem ratio_le_ratio_of_raise {part raised others : K} (partNonneg : 0 ≤ part)
    (raise : part ≤ raised) (othersNonneg : 0 ≤ others) :
    part / orOne (part + others) ≤ raised / orOne (raised + others) := by
  rcases eq_or_lt_of_le partNonneg with zero | positive
  · rw [← zero, zero_div]
    exact ratio_nonneg (partNonneg.trans raise)
      (add_nonneg (partNonneg.trans raise) othersNonneg)
  · have raisedPositive : 0 < raised := positive.trans_le raise
    have total : 0 < part + others := by linarith
    have raisedTotal : 0 < raised + others := by linarith
    rw [orOne_of_pos total, orOne_of_pos raisedTotal, div_le_div_iff₀ total raisedTotal]
    have cross : part * others ≤ raised * others := mul_le_mul_of_nonneg_right raise othersNonneg
    linarith

/-- Raising a total does not raise the ratio of a part that is counted in it. -/
theorem ratio_le_ratio_of_other {part total raised : K} (partNonneg : 0 ≤ part)
    (counted : part ≤ total) (raise : total ≤ raised) :
    part / orOne raised ≤ part / orOne total := by
  rcases eq_or_lt_of_le partNonneg with zero | positive
  · rw [← zero, zero_div, zero_div]
  · have totalPositive : 0 < total := positive.trans_le counted
    rw [orOne_of_pos totalPositive, orOne_of_pos (totalPositive.trans_le raise)]
    exact div_le_div_of_nonneg_left partNonneg totalPositive raise

end Opendps.Lib
