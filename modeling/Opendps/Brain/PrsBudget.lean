/-
**When a PRS decision stays within the domain budget.**

The module docstring of the brain promises `Σ cap_i ≤ domain budget`, and the metrics call it true
"by construction". It is not: nothing is renormalised after the clamps. This file keeps the exact
account of one decision, in the terms of `PrsInputs`.

Before the raise limiter, the quiet GPUs take what they need and the busy ones are due all that is left
(`sum_part`). The clamp then moves watts both ways, so with a busy GPU the total is

```
budget + max 0 (-left) + lift - cut - withheld
```

with `lift` the watts `min_cap_w` adds to the parts below it, `cut` the watts the ceilings take from the
parts above them, and `withheld` the watts the raise limiter keeps for a later tick (`sum_caps_of_busy`).
Without one, nothing is handed out beyond what the quiet GPUs need. `decide_total_le_budget_iff` is the
condition of both (`Fits`), for every brain and every telemetry.
-/

import Opendps.Brain.PrsInputs

namespace Opendps.Brain

open Opendps.Lib Opendps.Pdn

/-! ### The ledger of one decision -/

namespace PrsInputs

/-- The watts `min_cap_w` adds to the parts that are below it. -/
def lift (inputs : PrsInputs) : ℚ :=
  (inputs.busy.map fun gpu => max 0 (inputs.params.minCapW - inputs.part gpu)).sum

/-- The watts the raise limiter keeps for a later tick. -/
def withheld (inputs : PrsInputs) : ℚ :=
  if 0 < inputs.params.capRaiseRateWPerTick then (inputs.gpus.map inputs.beyondRate).sum else 0

/-- The watts the ceilings take from the parts that are above them. -/
def cut (inputs : PrsInputs) : ℚ :=
  (inputs.busy.map fun gpu => max 0 (inputs.part gpu - inputs.ceiling gpu)).sum

/-- With no busy GPU: what the quiet ones need above the floors fits what the budget leaves above the
floors of all, but for what is withheld. With a busy one: what the quiet ones need beyond the budget and
what `min_cap_w` adds is covered by what the ceilings cut and what is withheld. -/
def Fits (inputs : PrsInputs) : Prop :=
  if inputs.busy = [] then
    (inputs.gpus.map inputs.extra).sum ≤
      inputs.budget - inputs.gpus.length * inputs.params.minCapW + inputs.withheld
  else max 0 (-inputs.left) + inputs.lift ≤ inputs.cut + inputs.withheld

instance (inputs : PrsInputs) : Decidable inputs.Fits := by
  unfold Fits
  infer_instance

variable {inputs : PrsInputs}

/-- The parts of the busy GPUs add up to what is left. -/
theorem sum_part (someBusy : inputs.busy ≠ []) :
    (inputs.busy.map inputs.part).sum = max 0 inputs.left := by
  have unit : (inputs.busy.map fun gpu => share (inputs.busy.map inputs.expected).sum
      inputs.busy.length (inputs.expected gpu)).sum = 1 := sum_share someBusy inputs.expected
  rw [funext inputs.part_eq, List.sum_map_mul_right, unit, one_mul]

/-- What the quiet GPUs ask for, they do not leave. -/
theorem sum_asked_quiet (inputs : PrsInputs) :
    (inputs.quiet.map inputs.asked).sum = inputs.budget - inputs.left := by
  rw [List.map_congr_left fun _ isQuiet => asked_of_quiet isQuiet, List.sum_map_add, List.map_const',
    List.sum_replicate, nsmul_eq_mul, left]
  ring

/-- What the limiter withholds is missing from what is asked for. -/
theorem sum_caps (inputs : PrsInputs) : inputs.caps.values.sum =
    (inputs.quiet.map inputs.asked).sum + (inputs.busy.map inputs.asked).sum - inputs.withheld := by
  have every : ((inputs.quiet ++ inputs.busy).map inputs.asked).sum =
      (inputs.quiet.map inputs.asked).sum + (inputs.busy.map inputs.asked).sum := by
    rw [List.map_append, List.sum_append]
  rw [caps, Dict.values_ofKeys inputs.nodup_quiet_append_busy, ← every, withheld]
  by_cases limited : 0 < inputs.params.capRaiseRateWPerTick
  · have rest : inputs.cap = fun gpu => inputs.asked gpu - inputs.beyondRate gpu :=
      funext fun gpu => if_pos limited
    have all : (inputs.quiet ++ inputs.busy).Perm inputs.gpus :=
      List.perm_append_comm.trans (List.filter_append_perm _ _)
    rw [rest, sum_map_sub, if_pos limited, (all.map inputs.beyondRate).sum_eq]
  · have rest : inputs.cap = inputs.asked := funext fun gpu => if_neg limited
    rw [rest, if_neg limited, sub_zero]

/-- **The account of one decision with a busy GPU.** -/
theorem sum_caps_of_busy (someBusy : inputs.busy ≠ []) :
    inputs.caps.values.sum =
      inputs.budget + max 0 (-inputs.left) + inputs.lift - inputs.cut - inputs.withheld := by
  have ledger := sum_clamp inputs.busy inputs.params.minCapW inputs.ceiling inputs.part
  have lifts : (inputs.busy.map fun gpu =>
      max 0 (inputs.params.minCapW - min (inputs.ceiling gpu) (inputs.part gpu))).sum = inputs.lift :=
    congrArg List.sum (List.map_congr_left fun gpu _ => lift_eq (le_max_left _ _) (inputs.part gpu))
  have overshoot : max 0 (-inputs.left) = max 0 inputs.left - inputs.left := by
    rw [← max_sub_sub_right, zero_sub, sub_self, max_comm]
  rw [sum_part someBusy, lifts] at ledger
  rw [sum_caps, sum_asked_quiet, List.map_congr_left fun _ isBusy => asked_of_busy isBusy, ledger,
    overshoot, cut]
  ring

/-- The account of one decision without a busy GPU. -/
theorem sum_caps_of_quiet (noBusy : inputs.busy = []) :
    inputs.caps.values.sum = inputs.gpus.length * inputs.params.minCapW +
      (inputs.gpus.map inputs.extra).sum - inputs.withheld := by
  have all : inputs.quiet = inputs.gpus := by
    refine List.filter_eq_self.mpr fun gpu present => ?_
    have notBusy := List.filter_eq_nil_iff.mp noBusy gpu present
    simpa using notBusy
  rw [sum_caps, sum_asked_quiet, noBusy, List.map_nil, List.sum_nil, left, all]
  ring

/-- **Within budget exactly when the inputs fit.** -/
theorem sum_caps_le_budget_iff (inputs : PrsInputs) :
    inputs.caps.values.sum ≤ inputs.budget ↔ inputs.Fits := by
  unfold Fits
  by_cases noBusy : inputs.busy = []
  · rw [if_pos noBusy, sum_caps_of_quiet noBusy]
    constructor <;> intro bound <;> linarith
  · rw [if_neg noBusy, sum_caps_of_busy noBusy]
    constructor <;> intro bound <;> linarith

end PrsInputs

/-! ### Every brain -/

/-- **Budget safety of PRS, exactly.** For every brain, every topology and every telemetry, the caps of a
decision add up to at most the domain budget if and only if what it finds fits. -/
theorem decide_total_le_budget_iff {brain next : PRSBrain} {topology : PDNTopology}
    {domainName : String} {state : DomainState} {decision : BrainDecision} {budget : ℚ}
    (answer : topology.domainBudgetW domainName = .ok budget)
    (call : brain.decide topology domainName state = .ok (decision, next)) :
    decision.total ≤ budget ↔ (brain.inputs budget domainName state).Fits := by
  rw [BrainDecision.total, PRSBrain.caps_decide answer call]
  exact (brain.inputs budget domainName state).sum_caps_le_budget_iff

/-- An allocation exists: the floors of all GPUs fit the budget, and every GPU has a known hardware
maximum that is at least the floor. -/
structure Allocatable (params : PRSParams) (budget : ℚ) (state : DomainState) : Prop where
  drawsNonneg : ∀ gpu draw, state.gpuDraws.get? gpu = some draw → 0 ≤ draw
  floorsFit : (state.gpuDraws.keys.length : ℚ) * params.minCapW ≤ budget
  maxKnown : ∀ gpu ∈ state.gpuDraws.keys, ∃ hwMax,
    state.gpuMaxCaps.get? gpu = some hwMax ∧ params.minCapW ≤ hwMax

/-! ### A decision over budget

Two GPUs that run near their caps, drawing 990 W and 10 W of a 1000 W budget: both are hot, the
first is due 990 W, the second 10 W and is raised to the 200 W floor. -/

def skewedTopology : PDNTopology where
  pdus := .ofList [("pdu-A", { name := "pdu-A", capacityW := 10000 })]
  domains := .ofList [("domain-0",
    { name := "domain-0", budgetW := 1000, gpuIndices := [0, 1], pduName := "pdu-A" })]

theorem domainBudgetW_skewed : skewedTopology.domainBudgetW "domain-0" = .ok 1000 := by
  decide +kernel

def skewedState : DomainState where
  domainName := "domain-0"
  gpuDraws := .ofList [(0, 990), (1, 10)]
  gpuCaps := .ofList [(0, 1000), (1, 10)]
  gpuMaxCaps := .ofList [(0, 1000), (1, 1000)]
  ts := 0

theorem skewedState_allocatable : Allocatable defaultParams 1000 skewedState where
  drawsNonneg gpu draw found := by
    have member := Dict.get?_eq_some_iff.mp found
    have items : skewedState.gpuDraws.items = [(0, 990), (1, 10)] := by decide +kernel
    rw [items] at member
    rcases List.mem_cons.mp member with first | rest
    · cases first
      norm_num
    · cases List.mem_singleton.mp rest
      norm_num
  floorsFit := by decide +kernel
  maxKnown gpu member := by
    have keys : skewedState.gpuDraws.keys = [0, 1] := by decide +kernel
    rw [keys] at member
    refine ⟨1000, ?_, by decide +kernel⟩
    rcases List.mem_cons.mp member with rfl | rest
    · decide +kernel
    · cases List.mem_singleton.mp rest
      decide +kernel

/-- An allocation exists, and a freshly built brain hands out 1190 W of 1000 W. -/
theorem decide_total_exceeds_budget :
    PRSBrain.Reachable defaultParams { params := defaultParams } ∧
      skewedTopology.domainBudgetW "domain-0" = .ok 1000 ∧
      Allocatable defaultParams 1000 skewedState ∧
      ∃ decision next,
        PRSBrain.decide { params := defaultParams } skewedTopology "domain-0" skewedState =
          .ok (decision, next) ∧ decision.total = 1190 ∧ (1000 : ℚ) < decision.total := by
  refine ⟨.init, domainBudgetW_skewed, skewedState_allocatable, ?_⟩
  unfold PRSBrain.decide
  rw [domainBudgetW_skewed]
  refine ⟨_, _, rfl, ?_, ?_⟩ <;> decide +kernel

/-- The equivalence at the skewed fleet: `min_cap_w` adds 190 W that nothing covers. -/
theorem decide_total_le_budget_iff_skewed :
    ∃ decision next,
      PRSBrain.decide { params := defaultParams } skewedTopology "domain-0" skewedState =
          .ok (decision, next) ∧
        (decision.total ≤ 1000 ↔
          (PRSBrain.inputs { params := defaultParams } 1000 "domain-0" skewedState).Fits) ∧
        (PRSBrain.inputs { params := defaultParams } 1000 "domain-0" skewedState).lift = 190 := by
  obtain ⟨decision, next, call⟩ :=
    PRSBrain.decide_isOk { params := defaultParams } skewedState domainBudgetW_skewed
  exact ⟨decision, next, call, decide_total_le_budget_iff domainBudgetW_skewed call, by decide +kernel⟩

end Opendps.Brain
