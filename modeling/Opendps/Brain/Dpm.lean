/-
**What a brain reads and what it returns, and the proportional brain.**

`DomainState` is the telemetry of one power domain at one tick, `BrainDecision` the caps a brain
asks for. A GPU is present at a tick when it has a draw; its cap, its hardware maximum and its
thermal flag may each be missing.

`DPMBrain` releases every cap to the hardware maximum while the domain draws no more than its budget,
and splits the budget in proportion to the draws when it draws more. Each share is cut at the cap in
force and raised to `min_cap_w`, so the caps add up to at most the budget and what the floor adds
(`DPMBrain.sum_overBudgetCaps_le`). Where every cap in force leaves room for the floor, the caps stay
between the two, and within the budget exactly when the floor adds no more than the caps in force cut
(`DPMBrain.over_budget_feasible_iff`).
-/

import Opendps.Lib.Shares
import Opendps.Pdn.Model

namespace Opendps.Brain

open Opendps.Lib Opendps.Pdn

/-- Current observed state of one power domain. -/
structure DomainState where
  domainName : String
  gpuDraws : Dict GpuIndex ℚ
  gpuCaps : Dict GpuIndex ℚ
  ts : ℚ
  gpuMaxCaps : Dict GpuIndex ℚ := .empty
  gpuThermalThrottled : Dict GpuIndex Bool := .empty

/-- What the brain wants the actuator to do next tick. -/
structure BrainDecision where
  domain : String
  caps : Dict GpuIndex ℚ
  ts : ℚ
  reason : String

/-- The watts a decision hands out. -/
def BrainDecision.total (decision : BrainDecision) : ℚ := decision.caps.values.sum

/-! ### The proportional brain -/

/-- It remembers nothing from one call to the next. -/
structure DPMBrain where
  minCapW : ℚ := 200

namespace DPMBrain

/-- Within the budget: the hardware maximum, or the reported cap, or the floor. -/
def underBudgetCaps (self : DPMBrain) (state : DomainState) : Dict GpuIndex ℚ :=
  state.gpuDraws.mapVals fun gpu _ =>
    state.gpuMaxCaps.getD gpu (state.gpuCaps.getD gpu self.minCapW)

/-- A GPU's part of the budget, in proportion to its draw. -/
def raw (budget : ℚ) (state : DomainState) (draw : ℚ) : ℚ :=
  draw / state.gpuDraws.values.sum * budget

/-- Over the budget: each part cut at the cap in force and raised to the floor. Without any draw the
budget is split equally. -/
def overBudgetCaps (self : DPMBrain) (budget : ℚ) (state : DomainState) : Dict GpuIndex ℚ :=
  if 0 < state.gpuDraws.values.sum then
    state.gpuDraws.mapVals fun gpu draw =>
      max self.minCapW (min (state.gpuCaps.getD gpu self.minCapW) (raw budget state draw))
  else
    let gpus := state.gpuDraws.keys
    let equalShare := if gpus = [] then 0 else max self.minCapW (budget / (gpus.length : ℕ))
    state.gpuDraws.mapVals fun _ _ => equalShare

/-- Compute new caps for all GPUs of a domain. -/
def decide (self : DPMBrain) (topology : PDNTopology) (domainName : String)
    (state : DomainState) : Except PyError BrainDecision := do
  let budget ← topology.domainBudgetW domainName
  if state.gpuDraws.values.sum ≤ budget then
    pure { domain := domainName, caps := self.underBudgetCaps state, ts := state.ts
           reason := "under_budget" }
  else
    pure { domain := domainName, caps := self.overBudgetCaps budget state, ts := state.ts
           reason := "over_budget" }

section Decide

variable {self : DPMBrain} {topology : PDNTopology} {domainName : String} {state : DomainState}
  {budget : ℚ}

/-- What a call returns. -/
theorem decide_eq (answer : topology.domainBudgetW domainName = .ok budget) :
    self.decide topology domainName state = .ok
      { domain := domainName
        caps := if state.gpuDraws.values.sum ≤ budget then self.underBudgetCaps state
          else self.overBudgetCaps budget state
        ts := state.ts
        reason := if state.gpuDraws.values.sum ≤ budget then "under_budget" else "over_budget" } := by
  unfold decide
  rw [answer]
  by_cases within : state.gpuDraws.values.sum ≤ budget <;>
    simp [within, bind, Except.bind, pure, Except.pure]

/-- What the floor adds to the parts of the budget that are below it. -/
def lift (self : DPMBrain) (budget : ℚ) (state : DomainState) : ℚ :=
  (state.gpuDraws.values.map fun draw => max 0 (max 0 self.minCapW - raw budget state draw)).sum

/-- The parts of the budget add up to it. -/
theorem sum_raw (total : 0 < state.gpuDraws.values.sum) :
    (state.gpuDraws.values.map (raw budget state)).sum = budget := by
  have scaled : ∀ draw ∈ state.gpuDraws.values,
      raw budget state draw = draw * (budget / state.gpuDraws.values.sum) := fun draw _ => by
    rw [raw, div_mul_eq_mul_div, mul_div_assoc]
  rw [List.map_congr_left scaled, sum_scaled total.ne']

/-- **Over the budget, the caps add up to at most the budget and what the floor adds.** A cap below
zero counts as zero, as the actuator has it. -/
theorem sum_overBudgetCaps_le (nonneg : 0 ≤ budget) (exceeds : budget < state.gpuDraws.values.sum) :
    ((self.overBudgetCaps budget state).values.map (max 0)).sum ≤ budget + self.lift budget state := by
  have total : 0 < state.gpuDraws.values.sum := nonneg.trans_lt exceeds
  have each : ∀ item ∈ state.gpuDraws.items,
      max 0 (max self.minCapW (min (state.gpuCaps.getD item.1 self.minCapW)
        (raw budget state item.2))) ≤
      raw budget state item.2 + max 0 (max 0 self.minCapW - raw budget state item.2) := by
    intro item _
    have lifted : max 0 self.minCapW ≤
        raw budget state item.2 + max 0 (max 0 self.minCapW - raw budget state item.2) := by
      have := le_max_right 0 (max 0 self.minCapW - raw budget state item.2)
      linarith
    refine max_le ((le_max_left _ _).trans lifted) (max_le ((le_max_right _ _).trans lifted) ?_)
    exact (min_le_right _ _).trans (le_add_of_nonneg_right (le_max_left _ _))
  calc ((self.overBudgetCaps budget state).values.map (max 0)).sum
      = (state.gpuDraws.items.map fun item => max 0 (max self.minCapW
          (min (state.gpuCaps.getD item.1 self.minCapW) (raw budget state item.2)))).sum := by
        rw [overBudgetCaps, if_pos total, Dict.values, Dict.mapVals, List.map_map, List.map_map]
        rfl
    _ ≤ (state.gpuDraws.items.map fun item => raw budget state item.2 +
          max 0 (max 0 self.minCapW - raw budget state item.2)).sum := List.sum_le_sum each
    _ = (state.gpuDraws.values.map (raw budget state)).sum + self.lift budget state := by
        rw [List.sum_map_add, lift, Dict.values, List.map_map, List.map_map]
        rfl
    _ = budget + self.lift budget state := by rw [sum_raw total]

/-! ### Between the floor and the caps in force, within the budget -/

/-- The cap in force; the floor where none is reported. -/
def maxCap (self : DPMBrain) (state : DomainState) (gpu : GpuIndex) : ℚ :=
  state.gpuCaps.getD gpu self.minCapW

/-- What the floor adds to the parts that are below it. -/
def floorLift (self : DPMBrain) (budget : ℚ) (state : DomainState) : ℚ :=
  (state.gpuDraws.items.map fun item => max 0 (self.minCapW - raw budget state item.2)).sum

/-- What the caps in force cut from the parts that are above them. -/
def ceilingCut (self : DPMBrain) (budget : ℚ) (state : DomainState) : ℚ :=
  (state.gpuDraws.items.map fun item => max 0 (raw budget state item.2 - self.maxCap state item.1)).sum

/-- No cap in force is below the floor. -/
def CapsLeaveRoom (self : DPMBrain) (state : DomainState) : Prop :=
  ∀ gpu reported, state.gpuCaps.get? gpu = some reported → self.minCapW ≤ reported

/-- Every cap is between the floor and the cap in force. -/
def InEnvelope (self : DPMBrain) (state : DomainState) (caps : Dict GpuIndex ℚ) : Prop :=
  ∀ gpu cap, caps.get? gpu = some cap → self.minCapW ≤ cap ∧
    ∀ reported, state.gpuCaps.get? gpu = some reported → cap ≤ reported

theorem CapsLeaveRoom.le_maxCap (room : self.CapsLeaveRoom state) (gpu : GpuIndex) :
    self.minCapW ≤ self.maxCap state gpu :=
  Dict.getD_induction le_rfl (room gpu)

theorem overBudgetCaps_eq_clamp (total : 0 < state.gpuDraws.values.sum) :
    self.overBudgetCaps budget state = state.gpuDraws.mapVals fun gpu draw =>
      clamp self.minCapW (self.maxCap state gpu) (raw budget state draw) := by
  rw [overBudgetCaps, if_pos total]
  rfl

theorem inEnvelope_overBudgetCaps (room : self.CapsLeaveRoom state)
    (total : 0 < state.gpuDraws.values.sum) :
    self.InEnvelope state (self.overBudgetCaps budget state) := by
  intro gpu cap found
  rw [overBudgetCaps_eq_clamp total, Dict.get?_mapVals, Option.map_eq_some_iff] at found
  obtain ⟨draw, _, rfl⟩ := found
  refine ⟨le_max_left _ _, fun reported inForce => ?_⟩
  rw [clamp, maxCap, Dict.getD_of_some inForce]
  exact max_le (room gpu reported inForce) (min_le_left _ _)

/-- **The ledger of the split.** The caps add up to the budget, what the floor adds, less what the caps
in force cut. -/
theorem sum_overBudgetCaps (room : self.CapsLeaveRoom state)
    (total : 0 < state.gpuDraws.values.sum) :
    (self.overBudgetCaps budget state).values.sum =
      budget + self.floorLift budget state - self.ceilingCut budget state := by
  have parts : (state.gpuDraws.items.map fun item => raw budget state item.2).sum = budget := by
    have sum : (state.gpuDraws.values.map (raw budget state)).sum = budget := sum_raw total
    rwa [Dict.values, List.map_map] at sum
  have lifts : ∀ item ∈ state.gpuDraws.items,
      max 0 (self.minCapW - min (self.maxCap state item.1) (raw budget state item.2)) =
        max 0 (self.minCapW - raw budget state item.2) := fun item _ =>
    lift_eq (room.le_maxCap item.1) _
  calc (self.overBudgetCaps budget state).values.sum
      = (state.gpuDraws.items.map fun item =>
          clamp self.minCapW (self.maxCap state item.1) (raw budget state item.2)).sum := by
        rw [overBudgetCaps_eq_clamp total, Dict.values, Dict.mapVals, List.map_map]
        rfl
    _ = budget + self.floorLift budget state - self.ceilingCut budget state := by
        rw [sum_clamp, parts, List.map_congr_left lifts]
        rfl

/-- **Over the budget, the caps are feasible exactly when the floor adds no more than the caps in force
cut.** For every floor, topology and telemetry with a total draw above the budget and no cap in force
below the floor. -/
theorem over_budget_feasible_iff (answer : topology.domainBudgetW domainName = .ok budget)
    (exceeds : budget < state.gpuDraws.values.sum) (room : self.CapsLeaveRoom state) :
    (∃ decision, self.decide topology domainName state = .ok decision ∧
      self.InEnvelope state decision.caps ∧ decision.total ≤ budget) ↔
      self.floorLift budget state ≤ self.ceilingCut budget state := by
  have total : 0 < state.gpuDraws.values.sum :=
    (PDNTopology.domainBudgetW_nonneg answer).trans_lt exceeds
  have decided : self.decide topology domainName state =
      .ok { domain := domainName, caps := self.overBudgetCaps budget state, ts := state.ts
            reason := "over_budget" } := by
    rw [decide_eq answer, if_neg exceeds.not_ge, if_neg exceeds.not_ge]
  have ledger : (self.overBudgetCaps budget state).values.sum =
      budget + self.floorLift budget state - self.ceilingCut budget state :=
    sum_overBudgetCaps room total
  constructor
  · rintro ⟨decision, call, _, within⟩
    cases decided.symm.trans call
    have spent : (self.overBudgetCaps budget state).values.sum ≤ budget := within
    linarith
  · intro covered
    refine ⟨_, decided, inEnvelope_overBudgetCaps room total, ?_⟩
    show (self.overBudgetCaps budget state).values.sum ≤ budget
    linarith

end Decide

/-! ### A busy GPU next to a quiet one -/

def smallTopology : PDNTopology where
  pdus := .ofList [("pdu-A", { name := "pdu-A", capacityW := 100000 })]
  domains := .ofList [("domain-0", { name := "domain-0", budgetW := 600, gpuIndices := [0, 1]
                                     pduName := "pdu-A" })]

/-- They draw 950 W and 50 W. -/
def unevenState : DomainState where
  domainName := "domain-0"
  gpuDraws := .ofList [(0, 950), (1, 50)]
  gpuCaps := .ofList [(0, 1000), (1, 1000)]
  ts := 0

theorem domainBudgetW_small : smallTopology.domainBudgetW "domain-0" = .ok 600 := by
  decide +kernel

theorem capsLeaveRoom_uneven : CapsLeaveRoom { minCapW := 200 } unevenState := by
  intro gpu reported found
  have member : (gpu, reported) ∈ [((0 : GpuIndex), (1000 : ℚ)), (1, 1000)] :=
    Dict.get?_eq_some_iff.mp found
  simp only [List.mem_cons, Prod.mk.injEq, List.not_mem_nil, or_false] at member
  rcases member with ⟨_, rfl⟩ | ⟨_, rfl⟩ <;> norm_num

theorem exceeds_uneven : 600 < unevenState.gpuDraws.values.sum := by
  decide +kernel

/-- The floors need 400 W of 600 W, and the caps add up to 770 W. -/
theorem over_budget_infeasible :
    smallTopology.domainBudgetW "domain-0" = .ok 600 ∧
      (∀ draw ∈ unevenState.gpuDraws.values, 0 ≤ draw) ∧
      600 < unevenState.gpuDraws.values.sum ∧ unevenState.gpuDraws.keys.length * (200 : ℚ) ≤ 600 ∧
      CapsLeaveRoom { minCapW := 200 } unevenState ∧
      ∃ decision, DPMBrain.decide { minCapW := 200 } smallTopology "domain-0" unevenState =
          .ok decision ∧ decision.total = 770 ∧ 600 < decision.total := by
  refine ⟨domainBudgetW_small, by decide +kernel, exceeds_uneven, by decide +kernel,
    capsLeaveRoom_uneven, ?_⟩
  have decided := @decide_eq { minCapW := 200 } _ _ unevenState _ domainBudgetW_small
  exact ⟨_, decided, by decide +kernel, by decide +kernel⟩

theorem over_budget_feasible_iff_uneven :
    (∃ decision, DPMBrain.decide { minCapW := 200 } smallTopology "domain-0" unevenState =
        .ok decision ∧ InEnvelope { minCapW := 200 } unevenState decision.caps ∧
        decision.total ≤ 600) ↔
      floorLift { minCapW := 200 } 600 unevenState ≤ ceilingCut { minCapW := 200 } 600 unevenState :=
  over_budget_feasible_iff domainBudgetW_small exceeds_uneven capsLeaveRoom_uneven

end DPMBrain

end Opendps.Brain
