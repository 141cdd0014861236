/-
**The arithmetic of floats.**

A finite float is the rational it stands for, and the results of finite floats are exact; the infinities
and NaN follow the rules of the format. Division raises at zero, whatever is divided (`div_isOk_iff`),
so a denominator that was found above a positive number is safe (`div_isOk_of_gt`).
-/

import Opendps.Lib.Json
import Mathlib.Algebra.Order.Ring.Rat

namespace Opendps.Lib.PyFloat

def neg : PyFloat → PyFloat
  | .finite value => .finite (-value)
  | .posInf => .negInf
  | .negInf => .posInf
  | .nan => .nan

def add : PyFloat → PyFloat → PyFloat
  | .finite first, .finite second => .finite (first + second)
  | .nan, _ | _, .nan | .posInf, .negInf | .negInf, .posInf => .nan
  | .posInf, _ | _, .posInf => .posInf
  | .negInf, _ | _, .negInf => .negInf

def sub (first second : PyFloat) : PyFloat := first.add second.neg

/-- The sign of a float; a zero and a NaN have none. -/
def sign : PyFloat → ℤ
  | .finite value => if 0 < value then 1 else if value < 0 then -1 else 0
  | .posInf => 1
  | .negInf => -1
  | .nan => 0

/-- The infinity of a sign; without a sign it is a NaN. -/
def infinity (sign : ℤ) : PyFloat :=
  if 0 < sign then .posInf else if sign < 0 then .negInf else .nan

def mul : PyFloat → PyFloat → PyFloat
  | .finite first, .finite second => .finite (first * second)
  | first, second => infinity (first.sign * second.sign)

/-- `first / second`. -/
def div : PyFloat → PyFloat → Except PyError PyFloat
  | .finite first, .finite second =>
    if second = 0 then .error .zeroDivisionError else .ok (.finite (first / second))
  | first, .finite second =>
    if second = 0 then .error .zeroDivisionError
    else .ok (infinity (first.sign * sign (.finite second)))
  | .finite _, .posInf | .finite _, .negInf => .ok (.finite 0)
  | _, _ => .ok .nan

/-- `sum(values)`. -/
def sum (values : List PyFloat) : PyFloat := values.foldl add (.finite 0)

/-- `max(0.0, value)`, which is zero for a NaN. -/
def atLeastZero (value : PyFloat) : PyFloat :=
  if value.gt (.finite 0) then value else .finite 0

/-! ### Division -/

/-- A division has a result exactly when the denominator is not zero. -/
theorem div_isOk_iff {first second : PyFloat} :
    (∃ quotient, first.div second = .ok quotient) ↔ second ≠ .finite 0 := by
  cases second with
  | finite value =>
    rw [Ne, finite.injEq]
    by_cases zero : value = 0
    · cases first <;> simp [div, zero]
    · cases first <;> simp [div, zero]
  | _ => cases first <;> simp [div]

/-- What is above something positive is not zero. -/
theorem div_isOk_of_gt {low high : PyFloat} (above : high.gt low = true)
    (positive : low.gt (.finite 0) = true) (first : PyFloat) :
    ∃ quotient, first.div high = .ok quotient := by
  refine div_isOk_iff.mpr ?_
  rintro rfl
  cases low with
  | finite value =>
    simp only [gt, decide_eq_true_eq] at above positive
    exact absurd above positive.not_gt
  | _ => cases above <;> cases positive

theorem not_gt_atLeastZero (value : PyFloat) : (finite 0).gt value.atLeastZero = false := by
  unfold atLeastZero
  split
  · next positive =>
    cases value with
    | finite value =>
      simp only [gt, decide_eq_true_eq, decide_eq_false_iff_not] at positive ⊢
      exact positive.not_gt
    | _ => first | rfl | cases positive
  · exact decide_eq_false (lt_irrefl 0)

/-! ### Finite floats -/

@[simp] theorem add_finite (first second : ℚ) :
    (finite first).add (.finite second) = .finite (first + second) := rfl

@[simp] theorem sub_finite (first second : ℚ) :
    (finite first).sub (.finite second) = .finite (first - second) :=
  congrArg finite (sub_eq_add_neg first second).symm

@[simp] theorem mul_finite (first second : ℚ) :
    (finite first).mul (.finite second) = .finite (first * second) := rfl

theorem div_finite (first : ℚ) {second : ℚ} (nonzero : second ≠ 0) :
    (finite first).div (.finite second) = .ok (.finite (first / second)) := if_neg nonzero

@[simp] theorem gt_finite (first second : ℚ) :
    (finite first).gt (.finite second) = decide (second < first) := rfl

@[simp] theorem atLeastZero_finite (value : ℚ) :
    (finite value).atLeastZero = .finite (max 0 value) := by
  unfold atLeastZero
  rw [gt_finite]
  by_cases positive : 0 < value
  · rw [decide_eq_true positive, max_eq_right positive.le]
    rfl
  · rw [decide_eq_false positive, max_eq_left (not_lt.mp positive)]
    rfl

@[simp] theorem sum_finite (values : List ℚ) : sum (values.map finite) = .finite values.sum := by
  -- along the loop, for any number to start from
  have along : ∀ start : ℚ, (values.map finite).foldl add (.finite start) =
      .finite (start + values.sum) := by
    induction values with
    | nil => exact fun start => congrArg finite (add_zero start).symm
    | cons value rest ih =>
      intro start
      rw [List.map_cons, List.foldl_cons, add_finite, ih, List.sum_cons, add_assoc]
  exact (along 0).trans (congrArg finite (zero_add _))

end Opendps.Lib.PyFloat
