/-
**Which integers `float()` can convert.**

`PyFloat.ofInt` rounds to the nearest multiple of the spacing that doubles of that size have. The
rounding moves an integer by at most half a spacing (`abs_roundHalfEven_sub_le`) and onto an even
multiple when it is exactly half (`even_roundHalfEven`), so the integers that are too large are those
from half a spacing below `2 ^ 1024` on (`PyFloat.ofInt_eq`).
-/

import Opendps.Lib.Json
import Mathlib.Tactic.Linarith
import Mathlib.Tactic.NormNum

namespace Opendps.Lib

/-! ### Rounding half to even -/

/-- The rounding moves a number by at most a half. -/
theorem abs_roundHalfEven_sub_le (q : ℚ) : |(roundHalfEven q : ℚ) - q| ≤ 1 / 2 := by
  have low := Int.floor_le q
  have high := Int.lt_floor_add_one q
  unfold roundHalfEven
  simp only
  split
  · rw [abs_le]
    constructor <;> linarith
  split
  · push_cast
    rw [abs_le]
    constructor <;> linarith
  split
  · rw [abs_le]
    constructor <;> linarith
  · push_cast
    rw [abs_le]
    constructor <;> linarith

/-- A number that is moved by a half is moved to an even one. -/
theorem even_roundHalfEven {q : ℚ} (tie : |(roundHalfEven q : ℚ) - q| = 1 / 2) :
    Even (roundHalfEven q) := by
  have low := Int.floor_le q
  unfold roundHalfEven at tie ⊢
  simp only at tie ⊢
  split at tie
  · next below =>
    rw [abs_sub_comm, abs_of_nonneg (sub_nonneg.mpr low)] at tie
    exact absurd tie (ne_of_lt below)
  next above =>
  rw [if_neg above]
  split at tie
  · next beyond =>
    push_cast at tie
    rw [abs_of_nonneg (by linarith [Int.lt_floor_add_one q])] at tie
    linarith
  next within =>
  rw [if_neg within]
  split
  · next even => exact Int.even_iff.mpr even
  · next odd => exact Int.even_add_one.mpr fun even => odd (Int.even_iff.mp even)

/-! ### The range of the doubles -/

namespace PyFloat

/-- The integers nearer to a finite double than to `2 ^ 1024`. -/
def InRange (value : ℤ) : Prop := |(value : ℚ)| < 2 ^ 1024 - 2 ^ 970

instance (value : ℤ) : Decidable (InRange value) := Rat.instDecidableLt _ _

/-- The distance of two neighbouring doubles of the size of an integer. -/
def spacing (value : ℤ) : ℚ := 2 ^ (Nat.log2 value.natAbs - 52)

theorem spacing_pos (value : ℤ) : 0 < spacing value := pow_pos (by norm_num) _

/-- The rounding to the spacing moves an integer by at most half of it. -/
theorem abs_nearest_sub_le (value : ℤ) :
    |(roundHalfEven (value / spacing value) : ℚ) * spacing value - value| ≤ spacing value / 2 := by
  have positive := spacing_pos value
  have factor : (roundHalfEven (value / spacing value) : ℚ) * spacing value - value =
      ((roundHalfEven (value / spacing value) : ℚ) - value / spacing value) * spacing value := by
    rw [sub_mul, div_mul_cancel₀ _ positive.ne']
  rw [factor, abs_mul, abs_of_pos positive]
  calc |(roundHalfEven (value / spacing value) : ℚ) - value / spacing value| * spacing value
      ≤ 1 / 2 * spacing value :=
        mul_le_mul_of_nonneg_right (abs_roundHalfEven_sub_le _) positive.le
    _ = spacing value / 2 := by ring

/-- The logarithm that sets the spacing. -/
theorem log2_lt_of_abs_lt {value : ℤ} {exponent : ℕ} (some : exponent ≠ 0)
    (small : |(value : ℚ)| < 2 ^ exponent) : Nat.log2 value.natAbs < exponent := by
  by_cases zero : value.natAbs = 0
  · rw [zero]
    exact Nat.pos_of_ne_zero some
  · rw [Nat.log2_lt zero]
    rw [← Int.cast_abs, ← Nat.cast_natAbs] at small
    exact_mod_cast small

theorem le_log2_of_le_abs {value : ℤ} {exponent : ℕ} (large : (2 : ℚ) ^ exponent ≤ |(value : ℚ)|) :
    exponent ≤ Nat.log2 value.natAbs := by
  rw [← Int.cast_abs, ← Nat.cast_natAbs] at large
  have bound : 2 ^ exponent ≤ value.natAbs := by exact_mod_cast large
  exact (Nat.le_log2 ((Nat.two_pow_pos exponent).trans_le bound).ne').mpr bound

/-- An integer in range stays below `2 ^ 1024` when it is rounded. -/
theorem nearest_lt {value : ℤ} (inRange : InRange value) :
    |(roundHalfEven (value / spacing value) : ℚ) * spacing value| < 2 ^ 1024 := by
  have inRange : |(value : ℚ)| < 2 ^ 1024 - 2 ^ 970 := inRange
  have unit : (0 : ℚ) < 2 ^ 970 := pow_pos (by norm_num) _
  have log := log2_lt_of_abs_lt (by decide) (inRange.trans (sub_lt_self _ unit))
  have spaced : spacing value ≤ 2 ^ 971 := pow_le_pow_right₀ (by norm_num) (by omega)
  have double : (2 : ℚ) ^ 971 = 2 * 2 ^ 970 := pow_succ' 2 970
  have moved := abs_nearest_sub_le value
  have triangle := abs_sub_abs_le_abs_sub
    ((roundHalfEven (value / spacing value) : ℚ) * spacing value) value
  rw [double] at spaced
  generalize (2 : ℚ) ^ 970 = unit at *
  generalize (2 : ℚ) ^ 1024 = top at *
  linarith

/-- An integer out of range is rounded to `2 ^ 1024` or beyond. -/
theorem le_nearest {value : ℤ} (outOfRange : ¬ InRange value) :
    2 ^ 1024 ≤ |(roundHalfEven (value / spacing value) : ℚ) * spacing value| := by
  have large : 2 ^ 1024 - 2 ^ 970 ≤ |(value : ℚ)| := not_lt.mp outOfRange
  have positive := spacing_pos value
  set rounded := roundHalfEven (value / spacing value) with roundedDef
  have moved := abs_roundHalfEven_sub_le (value / spacing value)
  have size : |(value : ℚ) / spacing value| = |(value : ℚ)| / spacing value := by
    rw [abs_div, abs_of_pos positive]
  have triangle := abs_sub_abs_le_abs_sub ((value : ℚ) / spacing value) rounded
  rw [abs_sub_comm, size] at triangle
  rw [abs_mul, abs_of_pos positive]
  by_cases top : 2 ^ 1024 ≤ |(value : ℚ)|
  · -- the power of two below the integer is a multiple of the spacing
    have log := le_log2_of_le_abs top
    have nonzero : value.natAbs ≠ 0 := fun zero => by rw [zero] at log; exact absurd log (by decide)
    have power : (2 : ℚ) ^ Nat.log2 value.natAbs ≤ |(value : ℚ)| := by
      rw [← Int.cast_abs, ← Nat.cast_natAbs]
      exact_mod_cast Nat.log2_self_le nonzero
    have split : (2 : ℚ) ^ Nat.log2 value.natAbs = 2 ^ 52 * spacing value := by
      rw [spacing, ← pow_add, Nat.add_sub_cancel' ((by decide : 52 ≤ 1024).trans log)]
    have scaled : (2 : ℚ) ^ 52 ≤ |(value : ℚ)| / spacing value := by
      rw [le_div_iff₀ positive, ← split]
      exact power
    have whole : (2 : ℚ) ^ 52 ≤ |(rounded : ℚ)| := by
      have close : (2 : ℚ) ^ 52 - 1 < |(rounded : ℚ)| := by linarith
      have integers : (2 : ℤ) ^ 52 - 1 < |rounded| := by exact_mod_cast close
      exact_mod_cast Int.sub_one_lt_iff.mp integers
    calc (2 : ℚ) ^ 1024 ≤ 2 ^ Nat.log2 value.natAbs := pow_le_pow_right₀ (by norm_num) log
      _ = 2 ^ 52 * spacing value := split
      _ ≤ |(rounded : ℚ)| * spacing value := mul_le_mul_of_nonneg_right whole positive.le
  · have spaced : spacing value = 2 ^ 971 := by
      have below := log2_lt_of_abs_lt (by decide) (not_le.mp top)
      have half : (2 : ℚ) ^ 1023 ≤ |(value : ℚ)| := by
        refine le_trans ?_ large
        have double : (2 : ℚ) ^ 1024 = 2 * 2 ^ 1023 := pow_succ' 2 1023
        have small : (2 : ℚ) ^ 970 ≤ 2 ^ 1023 := pow_le_pow_right₀ (by norm_num) (by decide)
        rw [double]
        generalize (2 : ℚ) ^ 970 = unit at *
        generalize (2 : ℚ) ^ 1023 = top at *
        linarith
      have log : Nat.log2 value.natAbs = 1023 :=
        le_antisymm (Nat.le_of_lt_succ below) (le_log2_of_le_abs half)
      rw [spacing, log]
    have scaled : (2 : ℚ) ^ 53 - 1 / 2 ≤ |(value : ℚ)| / spacing value := by
      rw [le_div_iff₀ positive, spaced]
      have top : (2 : ℚ) ^ 53 * 2 ^ 971 = 2 ^ 1024 := (pow_add 2 53 971).symm
      have unit : (1 : ℚ) / 2 * 2 ^ 971 = 2 ^ 970 := by
        rw [pow_succ' 2 970, ← mul_assoc, one_div, inv_mul_cancel₀ two_ne_zero, one_mul]
      rw [sub_mul, top, unit]
      exact large
    have whole : (2 : ℚ) ^ 53 ≤ |(rounded : ℚ)| := by
      by_contra short
      have integers : |rounded| < 2 ^ 53 := by exact_mod_cast not_le.mp short
      have close : (2 : ℤ) ^ 53 - 1 ≤ |rounded| := by
        have bound : (2 : ℚ) ^ 53 - 1 ≤ |(rounded : ℚ)| := by linarith
        exact_mod_cast bound
      have last : |rounded| = 2 ^ 53 - 1 := le_antisymm (Int.le_sub_one_of_lt integers) close
      have rational : |(rounded : ℚ)| = 2 ^ 53 - 1 := by exact_mod_cast congrArg (Int.cast) last
      -- half a spacing away, and still odd
      have tie : |(rounded : ℚ) - value / spacing value| = 1 / 2 := by
        refine le_antisymm moved ?_
        rw [rational] at triangle
        linarith
      have even : Even |rounded| := even_abs.mpr (even_roundHalfEven tie)
      rw [last] at even
      exact absurd even (by decide)
    calc (2 : ℚ) ^ 1024 = 2 ^ 53 * 2 ^ 971 := pow_add 2 53 971
      _ ≤ |(rounded : ℚ)| * spacing value := by
        rw [spaced]
        exact mul_le_mul_of_nonneg_right whole (pow_pos (by norm_num) _).le

/-- **`float()` of an integer** has a result exactly for the integers in range, and overflows for all
others. -/
theorem ofInt_eq (value : ℤ) :
    ofInt value = if InRange value then
        .ok (.finite (roundHalfEven (value / spacing value) * spacing value))
      else .error (.overflowError "int too large to convert to float") := by
  have unfolded : ofInt value =
      if 2 ^ 1024 ≤ |(roundHalfEven (value / spacing value) : ℚ) * spacing value| then
        .error (.overflowError "int too large to convert to float")
      else .ok (.finite (roundHalfEven (value / spacing value) * spacing value)) := rfl
  rw [unfolded]
  by_cases inRange : InRange value
  · rw [if_pos inRange, if_neg (not_le.mpr (nearest_lt inRange))]
  · rw [if_neg inRange, if_pos (le_nearest inRange)]

end PyFloat

end Opendps.Lib
