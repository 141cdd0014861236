/-
**Linear programs.**

A `LinearProgram` minimises an affine expression over the points that satisfy affine inequalities.

The programs an allocator builds are boxes with a budget (`IsBox`): every variable lies between two
bounds, and the variables add up to at most the budget. Such a program has a point at all only if its
lower corner is one (`IsBox.feasible_lower`, `IsBox.exists_feasible_iff`). Where the objective adds up
some of the variables, the optima are the points that have these at their lower bounds
(`IsBox.optimal_iff`). The totals of the points reach up to the budget or to the sum of the upper
bounds, whichever is less, and no further (`IsBox.sum_le`, `IsBox.exists_feasible_sum`).
-/

import Mathlib.Algebra.BigOperators.Ring.List
import Mathlib.Algebra.Order.BigOperators.Group.List
import Mathlib.Algebra.Order.Field.Basic
import Mathlib.Tactic.FieldSimp
import Mathlib.Tactic.Linarith

namespace Opendps.Lib

/-- A sum of multiples of variables, and a constant. -/
structure Affine (ι K : Type*) where
  terms : List (K × ι)
  constant : K
  deriving DecidableEq

/-- Minimise the objective under constraints of the form `left ≤ right`. -/
structure LinearProgram (ι K : Type*) where
  objective : Affine ι K
  constraints : List (Affine ι K × Affine ι K)
  deriving DecidableEq

namespace Affine

variable {ι K : Type*} [Field K]

def const (value : K) : Affine ι K := ⟨[], value⟩

def var (unknown : ι) : Affine ι K := ⟨[(1, unknown)], 0⟩

/-- The variables of a list added up. -/
def sum (unknowns : List ι) : Affine ι K := ⟨unknowns.map fun unknown => (1, unknown), 0⟩

/-- The value of an expression at a point. -/
def eval (expression : Affine ι K) (point : ι → K) : K :=
  (expression.terms.map fun term => term.1 * point term.2).sum + expression.constant

@[simp] theorem eval_const (value : K) (point : ι → K) : (const value).eval point = value := by
  simp [eval, const]

@[simp] theorem eval_var (unknown : ι) (point : ι → K) :
    (var unknown).eval point = point unknown := by
  simp [eval, var]

@[simp] theorem eval_sum (unknowns : List ι) (point : ι → K) :
    (sum unknowns).eval point = (unknowns.map point).sum := by
  simp [eval, sum, Function.comp_def]

end Affine

namespace LinearProgram

variable {ι K : Type*} [Field K] [LinearOrder K]

/-- The point satisfies every constraint. -/
def Feasible (program : LinearProgram ι K) (point : ι → K) : Prop :=
  ∀ constraint ∈ program.constraints, constraint.1.eval point ≤ constraint.2.eval point

/-- A feasible point at which the objective is least. -/
def Optimal (program : LinearProgram ι K) (point : ι → K) : Prop :=
  program.Feasible point ∧
    ∀ other, program.Feasible other → program.objective.eval point ≤ program.objective.eval other

instance (program : LinearProgram ι K) (point : ι → K) : Decidable (program.Feasible point) :=
  inferInstanceAs (Decidable (∀ constraint ∈ program.constraints, _))

/-! ### Boxes with a budget -/

/-- The feasible points are those between the bounds, with a total within the budget. -/
def IsBox (program : LinearProgram ι K) (unknowns : List ι) (lower upper : ι → K) (budget : K) :
    Prop :=
  ∀ point, program.Feasible point ↔
    (∀ unknown ∈ unknowns, lower unknown ≤ point unknown ∧ point unknown ≤ upper unknown) ∧
      (unknowns.map point).sum ≤ budget

variable [IsStrictOrderedRing K] {program : LinearProgram ι K} {unknowns : List ι}
  {lower upper point : ι → K} {budget : K}

/-- A program with any point has its lower corner. -/
theorem IsBox.feasible_lower (box : program.IsBox unknowns lower upper budget)
    (feasible : program.Feasible point) : program.Feasible lower := by
  obtain ⟨bounds, total⟩ := (box point).mp feasible
  refine (box lower).mpr ⟨fun unknown listed => ?_, ?_⟩
  · exact ⟨le_rfl, (bounds unknown listed).1.trans (bounds unknown listed).2⟩
  · exact (List.sum_le_sum fun unknown listed => (bounds unknown listed).1).trans total

/-- A program has a point exactly when the bounds are in order and the lower ones fit. -/
theorem IsBox.exists_feasible_iff (box : program.IsBox unknowns lower upper budget) :
    (∃ point, program.Feasible point) ↔
      (∀ unknown ∈ unknowns, lower unknown ≤ upper unknown) ∧ (unknowns.map lower).sum ≤ budget := by
  constructor
  · rintro ⟨point, feasible⟩
    obtain ⟨bounds, total⟩ := (box lower).mp (box.feasible_lower feasible)
    exact ⟨fun unknown listed => (bounds unknown listed).2, total⟩
  · rintro ⟨ordered, total⟩
    exact ⟨lower, (box lower).mpr ⟨fun unknown listed => ⟨le_rfl, ordered unknown listed⟩, total⟩⟩

/-- **A point is an optimum exactly when it has the unknowns it is charged for at their lower
bounds.** -/
theorem IsBox.optimal_iff (box : program.IsBox unknowns lower upper budget) {charged : List ι}
    (listed : charged ⊆ unknowns) {constant : K}
    (objective : ∀ point, program.objective.eval point = (charged.map point).sum + constant) :
    program.Optimal point ↔
      program.Feasible point ∧ ∀ unknown ∈ charged, point unknown = lower unknown := by
  have above : ∀ other, program.Feasible other → ∀ unknown ∈ charged,
      lower unknown ≤ other unknown := fun other feasible unknown member =>
    (((box other).mp feasible).1 unknown (listed member)).1
  constructor
  · intro optimal
    refine ⟨optimal.1, ?_⟩
    have least := optimal.2 lower (box.feasible_lower optimal.1)
    rw [objective, objective, add_le_add_iff_right] at least
    by_contra apart
    push Not at apart
    obtain ⟨unknown, member, differs⟩ := apart
    have strict : (charged.map lower).sum < (charged.map point).sum :=
      List.sum_lt_sum _ _ (above point optimal.1)
        ⟨unknown, member, lt_of_le_of_ne (above point optimal.1 unknown member) differs.symm⟩
    exact absurd least (not_le.mpr strict)
  · rintro ⟨feasible, atLower⟩
    refine ⟨feasible, fun other otherFeasible => ?_⟩
    rw [objective, objective, add_le_add_iff_right]
    exact List.sum_le_sum fun unknown member =>
      (atLower unknown member).trans_le (above other otherFeasible unknown member)

/-- The total of a point. -/
theorem IsBox.sum_le (box : program.IsBox unknowns lower upper budget)
    (feasible : program.Feasible point) :
    (unknowns.map point).sum ≤ min budget (unknowns.map upper).sum := by
  obtain ⟨bounds, total⟩ := (box point).mp feasible
  exact le_min total (List.sum_le_sum fun unknown listed => (bounds unknown listed).2)

/-- Between two bounds every total between theirs is reached. -/
theorem exists_between_sum {target : K}
    (ordered : ∀ unknown ∈ unknowns, lower unknown ≤ upper unknown)
    (above : (unknowns.map lower).sum ≤ target) (below : target ≤ (unknowns.map upper).sum) :
    ∃ point : ι → K,
      (∀ unknown ∈ unknowns, lower unknown ≤ point unknown ∧ point unknown ≤ upper unknown) ∧
        (unknowns.map point).sum = target := by
  rcases eq_or_lt_of_le (above.trans below) with same | apart
  · exact ⟨lower, fun unknown listed => ⟨le_rfl, ordered unknown listed⟩,
      le_antisymm above (below.trans same.ge)⟩
  · -- the same part of every gap
    have gap : 0 < (unknowns.map upper).sum - (unknowns.map lower).sum := sub_pos.mpr apart
    obtain ⟨part, partDef⟩ : ∃ part, part = (target - (unknowns.map lower).sum) /
      ((unknowns.map upper).sum - (unknowns.map lower).sum) := ⟨_, rfl⟩
    have partNonneg : 0 ≤ part := partDef ▸ div_nonneg (sub_nonneg.mpr above) gap.le
    have partLeOne : part ≤ 1 := by
      rw [partDef, div_le_one gap]
      linarith
    refine ⟨fun unknown => lower unknown + part * (upper unknown - lower unknown),
      fun unknown listed => ?_, ?_⟩
    · have room : 0 ≤ upper unknown - lower unknown := sub_nonneg.mpr (ordered unknown listed)
      have most : part * (upper unknown - lower unknown) ≤ 1 * (upper unknown - lower unknown) :=
        mul_le_mul_of_nonneg_right partLeOne room
      exact ⟨le_add_of_nonneg_right (mul_nonneg partNonneg room), by linarith⟩
    · have gaps : (unknowns.map fun unknown => upper unknown - lower unknown).sum =
          (unknowns.map upper).sum - (unknowns.map lower).sum := by
        rw [eq_sub_iff_add_eq, ← List.sum_map_add]
        simp only [sub_add_cancel]
      rw [List.sum_map_add, List.sum_map_mul_left, gaps, partDef, div_mul_cancel₀ _ gap.ne']
      exact add_sub_cancel _ _

/-- **The largest total is reached**, when the program has a point at all. -/
theorem IsBox.exists_feasible_sum (box : program.IsBox unknowns lower upper budget)
    (feasible : program.Feasible point) :
    ∃ other, program.Feasible other ∧
      (unknowns.map other).sum = min budget (unknowns.map upper).sum := by
  have corner := (box lower).mp (box.feasible_lower feasible)
  have total : (unknowns.map lower).sum ≤ min budget (unknowns.map upper).sum :=
    box.sum_le (box.feasible_lower feasible)
  obtain ⟨other, bounds, reaches⟩ :=
    exists_between_sum (fun unknown listed => (corner.1 unknown listed).2) total (min_le_right _ _)
  exact ⟨other, (box other).mpr ⟨bounds, reaches.le.trans (min_le_left _ _)⟩, reaches⟩

end LinearProgram

end Opendps.Lib
