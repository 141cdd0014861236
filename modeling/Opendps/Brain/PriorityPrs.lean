/-
**Priority tiers on top of PRS.**

`PriorityTieredPRSBrain.decide` runs a PRS brain and then arbitrates among the contended GPUs, those
that draw near their reported cap: what the budget leaves above a floor for each of them is split in
proportion to draw and tier weight, and everything is scaled down if it still exceeds the budget.

With fewer than two contended GPUs the PRS decision is returned as it is, unscaled. The bound on the
sum therefore holds on the arbitrated path (`sum_scaleDown_le`), and on the other one it asks of draws,
caps and maxima what a PRS decision asks of them: `priority_total_le_budget_iff` states this over every
brain and telemetry.
-/

import Opendps.Brain.PrsBudget

namespace Opendps.Brain

open Opendps.Lib Opendps.Pdn

/-- Relative power weight for each tier. -/
def tierWeights : Dict String ℚ :=
  ⟨[("low", 1 / 2), ("normal", 1), ("high", 2), ("critical", 4)], by decide⟩

def defaultTier : String := "normal"

/-- A PRS brain, with a tier map whose tiers are all known, and what contention means. -/
structure PriorityTieredPRSBrain where
  prs : PRSBrain
  tiers : Dict GpuIndex String
  known : ∀ tier ∈ tiers.values, tier ∈ tierWeights.keys
  threshold : ℚ
  minCapW : ℚ

namespace PriorityTieredPRSBrain

/-- The refusal of a tier map, with the tiers that are not known. -/
def unknownTiers (gpuPriorityTiers : Dict GpuIndex String) : PyError :=
  let bad := (gpuPriorityTiers.values.filter fun tier => decide (tier ∉ tierWeights.keys)).dedup
  let shown (tiers : List String) := reprList ((sortedBy id tiers).map reprText)
  .valueError ("unknown priority tier(s) " ++ shown bad ++ "; valid: " ++ shown tierWeights.keys)

/-- The constructor, with its default arguments. The wrapped brain keeps its own default floor:
`min_cap_w` is not handed on to it. -/
def init (gpuPriorityTiers : Dict GpuIndex String) (contentionThreshold : ℚ := 6 / 10)
    (minCapW : ℚ := 200) (ewmaAlpha : ℚ := 3 / 10) (reclaimThreshold : ℚ := 6 / 10)
    (idleFloorMargin : ℚ := 3 / 10) (capRaiseRateWPerTick : ℚ := 0) :
    Except PyError PriorityTieredPRSBrain :=
  if known : ∀ tier ∈ gpuPriorityTiers.values, tier ∈ tierWeights.keys then do
    let prs ← PRSBrain.init 200 ewmaAlpha reclaimThreshold idleFloorMargin capRaiseRateWPerTick
    pure { prs := prs, tiers := gpuPriorityTiers, known := known, threshold := contentionThreshold
           minCapW := minCapW }
  else .error (unknownTiers gpuPriorityTiers)

/-- Replace the tier map. -/
def setTiers (self : PriorityTieredPRSBrain) (gpuPriorityTiers : Dict GpuIndex String) :
    Except PyError PriorityTieredPRSBrain :=
  if known : ∀ tier ∈ gpuPriorityTiers.values, tier ∈ tierWeights.keys then
    .ok { self with tiers := gpuPriorityTiers, known := known }
  else .error (unknownTiers gpuPriorityTiers)

/-- The weight of a GPU. Its tier is known, so the lookup does not miss. -/
def weight (self : PriorityTieredPRSBrain) (gpu : GpuIndex) : ℚ :=
  tierWeights.getD (self.tiers.getD gpu defaultTier) 0

/-- A GPU that draws near its reported cap. -/
def contends (self : PriorityTieredPRSBrain) (state : DomainState) (gpu : GpuIndex) : Bool :=
  decide (0 < state.gpuCaps.getD gpu 0 ∧
    self.threshold ≤ state.gpuDraws.getD gpu 0 / state.gpuCaps.getD gpu 0)

def contended (self : PriorityTieredPRSBrain) (state : DomainState) (caps : Dict GpuIndex ℚ) :
    List GpuIndex :=
  caps.keys.filter (self.contends state)

/-- What the budget leaves above the caps of the other GPUs and a floor for each contended one. -/
def surplus (self : PriorityTieredPRSBrain) (budget : ℚ) (contended : List GpuIndex)
    (caps : Dict GpuIndex ℚ) : ℚ :=
  let reservedIdle := ((caps.keys.filter fun gpu => decide (gpu ∉ contended)).map fun gpu =>
    caps.getD gpu 0).sum
  max 0 (budget - reservedIdle - self.minCapW * (contended.length : ℕ))

/-- Split the surplus among the contended GPUs by draw and tier. -/
def arbitrate (self : PriorityTieredPRSBrain) (budget : ℚ) (state : DomainState)
    (contended : List GpuIndex) (caps : Dict GpuIndex ℚ) : Dict GpuIndex ℚ :=
  let surplus := self.surplus budget contended caps
  let weights gpu := state.gpuDraws.getD gpu 0 * self.weight gpu
  let totalW := orOne (contended.map weights).sum
  contended.foldl (fun caps gpu =>
    caps.set gpu (min (self.minCapW + surplus * weights gpu / totalW)
      (state.gpuMaxCaps.getD gpu (caps.getD gpu 0)))) caps

/-- Scale every cap down when they exceed the budget. -/
def scaleDown (budget : ℚ) (caps : Dict GpuIndex ℚ) : Dict GpuIndex ℚ :=
  let total := caps.values.sum
  if budget ≠ 0 ∧ budget < total then caps.mapVals fun _ cap => cap * (budget / total) else caps

/-- Compute new caps for all GPUs of a domain. -/
def decide (self : PriorityTieredPRSBrain) (topology : PDNTopology) (domainName : String)
    (state : DomainState) : Except PyError (BrainDecision × PriorityTieredPRSBrain) := do
  let (decision, prs) ← self.prs.decide topology domainName state
  let contended := self.contended state decision.caps
  if contended.length < 2 then pure (decision, { self with prs := prs })
  else
    let budget ← topology.domainBudgetW domainName
    if budget = 0 then pure (decision, { self with prs := prs })
    else
      let caps := scaleDown budget (self.arbitrate budget state contended decision.caps)
      pure ({ domain := domainName, caps := caps, ts := state.ts
              reason := "priority-prs:" ++ toString contended.length ++ "contended" },
            { self with prs := prs.noteAppliedCaps domainName caps })

/-! ### What a call does -/

/-- Every GPU has a known tier. -/
theorem tierOf_known (self : PriorityTieredPRSBrain) (gpu : GpuIndex) :
    self.tiers.getD gpu defaultTier ∈ tierWeights.keys :=
  Dict.getD_induction (of_decide_eq_true rfl) fun tier found =>
    self.known tier (List.mem_map.mpr ⟨_, Dict.get?_eq_some_iff.mp found, rfl⟩)

/-- The lookup of a weight does not miss. -/
theorem weight_mem (self : PriorityTieredPRSBrain) (gpu : GpuIndex) :
    self.weight gpu ∈ tierWeights.values := by
  obtain ⟨value, stored⟩ := Dict.mem_keys_iff.mp (self.tierOf_known gpu)
  rw [weight, Dict.getD_of_some stored]
  exact List.mem_map.mpr ⟨_, Dict.get?_eq_some_iff.mp stored, rfl⟩

/-- Whatever the caps, a positive budget is not exceeded after the scaling. -/
theorem sum_scaleDown_le {budget : ℚ} (positive : 0 < budget) (caps : Dict GpuIndex ℚ) :
    (scaleDown budget caps).values.sum ≤ budget := by
  simp only [scaleDown]
  split
  · next exceeds =>
    have total : caps.values.sum ≠ 0 := (positive.trans exceeds.2).ne'
    rw [Dict.values_mapVals, sum_scaled total]
  · next within =>
    rw [not_and, not_lt] at within
    exact within positive.ne'

/-- The GPUs of a decision that contend are, up to their order, those of the telemetry. -/
theorem length_contended (self : PriorityTieredPRSBrain) (tick : Tick) :
    (self.contended tick.state tick.caps).length =
      (tick.state.gpuDraws.keys.filter (self.contends tick.state)).length := by
  have keys : tick.caps.keys.Perm tick.state.gpuDraws.keys :=
    (List.perm_ext_iff_of_nodup tick.caps.keys_nodup tick.state.gpuDraws.keys_nodup).mpr
      fun gpu => Tick.mem_keys_caps
  exact (keys.filter _).length_eq

/-- A call raises nothing when the domain has a budget. -/
theorem decide_isOk (self : PriorityTieredPRSBrain) {topology : PDNTopology} {domainName : String}
    (state : DomainState) {budget : ℚ} (answer : topology.domainBudgetW domainName = .ok budget) :
    ∃ decision next, self.decide topology domainName state = .ok (decision, next) := by
  unfold PriorityTieredPRSBrain.decide
  obtain ⟨inner, prs, innerCall⟩ := PRSBrain.decide_isOk self.prs state answer
  simp only [innerCall, bind, Except.bind, answer]
  by_cases few : (self.contended state inner.caps).length < 2
  · rw [if_pos few]
    exact ⟨_, _, rfl⟩
  · rw [if_neg few]
    by_cases zero : budget = 0
    · rw [if_pos zero]
      exact ⟨_, _, rfl⟩
    · rw [if_neg zero]
      exact ⟨_, _, rfl⟩

/-- What a call returns: the caps of the PRS tick when fewer than two GPUs contend or there is no
budget, and scaled down arbitrated ones otherwise. -/
theorem decide_cases {self next : PriorityTieredPRSBrain} {topology : PDNTopology}
    {domainName : String} {state : DomainState} {decision : BrainDecision} {budget : ℚ}
    (answer : topology.domainBudgetW domainName = .ok budget)
    (call : self.decide topology domainName state = .ok (decision, next)) :
    let tick := self.prs.tick budget domainName state
    let contended := self.contended state tick.caps
    ((contended.length < 2 ∨ budget = 0) ∧ decision.caps = tick.caps) ∨
      (2 ≤ contended.length ∧ budget ≠ 0 ∧
        decision.caps = scaleDown budget (self.arbitrate budget state contended tick.caps)) := by
  intro tick contended
  unfold PriorityTieredPRSBrain.decide at call
  obtain ⟨inner, prs, innerCall⟩ := PRSBrain.decide_isOk self.prs state answer
  have innerCaps : inner.caps = tick.caps := (PRSBrain.decide_ok answer innerCall).1
  rw [innerCall] at call
  simp only [bind, Except.bind, innerCaps, answer] at call
  by_cases few : contended.length < 2
  · rw [if_pos few] at call
    cases call
    exact .inl ⟨.inl few, innerCaps⟩
  · rw [if_neg few] at call
    by_cases zero : budget = 0
    · rw [if_pos zero] at call
      cases call
      exact .inl ⟨.inr zero, innerCaps⟩
    · rw [if_neg zero] at call
      cases call
      exact .inr ⟨not_lt.mp few, zero, rfl⟩

/-- What a call returns, in the terms of what the wrapped brain finds. -/
theorem decide_cases_inputs {self next : PriorityTieredPRSBrain} {topology : PDNTopology}
    {domainName : String} {state : DomainState} {decision : BrainDecision} {budget : ℚ}
    (answer : topology.domainBudgetW domainName = .ok budget)
    (call : self.decide topology domainName state = .ok (decision, next)) :
    let caps := (self.prs.inputs budget domainName state).caps
    let contended := self.contended state caps
    ((contended.length < 2 ∨ budget = 0) ∧ decision.caps = caps) ∨
      (2 ≤ contended.length ∧ budget ≠ 0 ∧
        decision.caps = scaleDown budget (self.arbitrate budget state contended caps)) := by
  rw [self.prs.caps_inputs]
  exact decide_cases answer call

/-- With a positive budget the number of contended GPUs decides. -/
theorem decide_spec {self next : PriorityTieredPRSBrain} {topology : PDNTopology}
    {domainName : String} {state : DomainState} {decision : BrainDecision} {budget : ℚ}
    (answer : topology.domainBudgetW domainName = .ok budget) (positive : 0 < budget)
    (call : self.decide topology domainName state = .ok (decision, next)) :
    let tick := self.prs.tick budget domainName state
    let contended := self.contended state tick.caps
    (contended.length < 2 ∧ decision.caps = tick.caps) ∨
      (2 ≤ contended.length ∧
        decision.caps = scaleDown budget (self.arbitrate budget state contended tick.caps)) := by
  rcases decide_cases answer call with ⟨few | zero, caps⟩ | ⟨enough, _, caps⟩
  · exact .inl ⟨few, caps⟩
  · exact absurd zero positive.ne'
  · exact .inr ⟨enough, caps⟩

/-- **Budget safety of the priority brain, exactly.** Whatever the tiers and the history of the
wrapped brain, the caps of a decision add up to at most a positive budget if and only if at least two
GPUs contend or what the wrapped brain finds fits. -/
theorem priority_total_le_budget_iff {self next : PriorityTieredPRSBrain} {topology : PDNTopology}
    {domainName : String} {state : DomainState} {decision : BrainDecision} {budget : ℚ}
    (answer : topology.domainBudgetW domainName = .ok budget) (positive : 0 < budget)
    (call : self.decide topology domainName state = .ok (decision, next)) :
    decision.total ≤ budget ↔
      2 ≤ (state.gpuDraws.keys.filter (self.contends state)).length ∨
        (self.prs.inputs budget domainName state).Fits := by
  have sameLength : (self.contended state (self.prs.tick budget domainName state).caps).length =
      (state.gpuDraws.keys.filter (self.contends state)).length :=
    self.length_contended (self.prs.tick budget domainName state)
  rw [BrainDecision.total, ← sameLength]
  rcases decide_spec answer positive call with ⟨few, caps⟩ | ⟨enough, caps⟩
  · rw [caps, or_iff_right (not_le.mpr few), ← self.prs.caps_inputs]
    exact (self.prs.inputs budget domainName state).sum_caps_le_budget_iff
  · rw [caps]
    exact iff_of_true (sum_scaleDown_le positive _) (.inl enough)

/-! ### An uncontended decision over budget

Two GPUs that draw half of their caps: neither contends, and each keeps its draw with a margin. -/

def halfLoadState : DomainState where
  domainName := "domain-0"
  gpuDraws := .ofList [(0, 500), (1, 500)]
  gpuCaps := .ofList [(0, 1000), (1, 1000)]
  gpuMaxCaps := .ofList [(0, 1000), (1, 1000)]
  ts := 0

/-- A freshly built brain with two tiers. -/
def freshBrain : PriorityTieredPRSBrain where
  prs := { params := defaultParams }
  tiers := .ofList [(0, "critical"), (1, "low")]
  known := by decide
  threshold := 6 / 10
  minCapW := 200

theorem init_freshBrain :
    PriorityTieredPRSBrain.init (.ofList [(0, "critical"), (1, "low")]) = .ok freshBrain := by
  have prs : PRSBrain.init 200 (3 / 10) (6 / 10) (3 / 10) 0 = .ok { params := defaultParams } := by
    unfold PRSBrain.init
    rw [dif_pos (by norm_num), dif_pos (by norm_num)]
    rfl
  unfold PriorityTieredPRSBrain.init
  rw [dif_pos (by decide), prs]
  rfl

/-- The floors of both GPUs fit, and a freshly built brain hands out 1300 W of 1000 W. -/
theorem priority_total_exceeds_budget :
    PriorityTieredPRSBrain.init (.ofList [(0, "critical"), (1, "low")]) = .ok freshBrain ∧
      skewedTopology.domainBudgetW "domain-0" = .ok 1000 ∧
      (∀ draw ∈ halfLoadState.gpuDraws.values, 0 ≤ draw) ∧
      (halfLoadState.gpuDraws.keys.length : ℚ) * freshBrain.minCapW ≤ 1000 ∧
      ∃ decision next,
        freshBrain.decide skewedTopology "domain-0" halfLoadState = .ok (decision, next) ∧
          decision.total = 1300 ∧ (1000 : ℚ) < decision.total := by
  refine ⟨init_freshBrain, domainBudgetW_skewed, by decide +kernel, by decide +kernel, ?_⟩
  obtain ⟨decision, next, call⟩ := freshBrain.decide_isOk halfLoadState domainBudgetW_skewed
  have total : decision.total = 1300 := by
    rcases decide_spec domainBudgetW_skewed (by norm_num) call with ⟨_, caps⟩ | ⟨enough, _⟩
    · rw [BrainDecision.total, caps]
      decide +kernel
    · exact absurd enough (by decide +kernel)
  refine ⟨decision, next, call, total, ?_⟩
  rw [total]
  norm_num

/-- The equivalence at half load: no GPU contends, and the draws with their margin need 900 W above the
floors, where the budget leaves 600 W. -/
theorem priority_total_le_budget_iff_half_load :
    ∃ decision next,
      freshBrain.decide skewedTopology "domain-0" halfLoadState = .ok (decision, next) ∧
        (decision.total ≤ 1000 ↔
          2 ≤ (halfLoadState.gpuDraws.keys.filter (freshBrain.contends halfLoadState)).length ∨
            (freshBrain.prs.inputs 1000 "domain-0" halfLoadState).Fits) ∧
        ((freshBrain.prs.inputs 1000 "domain-0" halfLoadState).gpus.map
          (freshBrain.prs.inputs 1000 "domain-0" halfLoadState).extra).sum = 900 := by
  obtain ⟨decision, next, call⟩ := freshBrain.decide_isOk halfLoadState domainBudgetW_skewed
  exact ⟨decision, next, call,
    priority_total_le_budget_iff domainBudgetW_skewed (by norm_num) call, by decide +kernel⟩

end PriorityTieredPRSBrain

end Opendps.Brain
