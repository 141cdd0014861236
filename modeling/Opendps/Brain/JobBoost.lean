/-
**What a job boost costs.**

`JobAwarePRSBrain.decide` adds to the cap of every busy GPU, up to its maximum (`addedW`), and scales all
caps down by one factor where their total is over the budget by then (`overshootW`). A GPU near its
maximum gains little and pays the same factor as the others. `decide_ok` is the cap of every GPU.

* `job_boost_never_hurts_iff`: a busy GPU keeps its PRS cap exactly when there is no overshoot, or what
  it gains over its cap is at least the overshoot over the budget.
* `job_boost_keeps_floor_iff`: no cap falls below `min_cap_w` exactly when the watts each GPU has above
  it cover its part of the overshoot; without one, when the busy GPUs' boosts and maxima reach it.
-/

import Opendps.Brain.Family
import Opendps.Brain.PriorityFloor

namespace Opendps.Brain

open Opendps.Lib Opendps.Pdn

namespace JobAwarePRSBrain

open PriorityTieredPRSBrain (scaleFactor scaleDown get?_scaleDown scaleFactor_of_within
  floor_le_scaled_iff)

/-! ### What a call does -/

/-- What the boost adds to the cap of a busy GPU. -/
def addedW (self : JobAwarePRSBrain) (state : DomainState) (gpu : GpuIndex) (proposed : ℚ) : ℚ :=
  min (self.boost * proposed) (state.gpuMaxCaps.getD gpu proposed - proposed)

/-- The cap of a GPU before the scaling. -/
def raisedCap (self : JobAwarePRSBrain) (state : DomainState) (isGpuBusy : GpuIndex → Bool)
    (gpu : GpuIndex) (proposed : ℚ) : ℚ :=
  if isGpuBusy gpu then proposed + self.addedW state gpu proposed else proposed

/-- What the boost adds to all of them. -/
def addedTotalW (self : JobAwarePRSBrain) (state : DomainState) (isGpuBusy : GpuIndex → Bool)
    (caps : Dict GpuIndex ℚ) : ℚ :=
  ((caps.keys.filter isGpuBusy).map fun gpu => self.addedW state gpu (caps.getD gpu 0)).sum

/-- How far the raised caps are over the budget. -/
def overshootW (self : JobAwarePRSBrain) (budget : ℚ) (state : DomainState)
    (isGpuBusy : GpuIndex → Bool) (caps : Dict GpuIndex ℚ) : ℚ :=
  caps.values.sum + self.addedTotalW state isGpuBusy caps - budget

/-- What every cap is multiplied by; without a busy GPU nothing is. -/
def payback (self : JobAwarePRSBrain) (budget : ℚ) (state : DomainState)
    (isGpuBusy : GpuIndex → Bool) (caps : Dict GpuIndex ℚ) : ℚ :=
  if caps.keys.filter isGpuBusy = [] then 1
  else scaleFactor budget (caps.values.sum + self.addedTotalW state isGpuBusy caps)

section Decision

variable {self next : JobAwarePRSBrain} {topology : PDNTopology} {domainName : String}
  {state : DomainState} {isGpuBusy : GpuIndex → Bool} {decision : BrainDecision} {budget : ℚ}
  {caps : Dict GpuIndex ℚ}

/-- The clamp of the source, as an addition. -/
theorem boosted_eq (self : JobAwarePRSBrain) (state : DomainState) (gpu : GpuIndex) (proposed : ℚ) :
    min (proposed * (1 + self.boost)) (state.gpuMaxCaps.getD gpu proposed) =
      proposed + self.addedW state gpu proposed := by
  rw [addedW, ← min_add_add_left, add_sub_cancel]
  ring_nf

/-- The boosted dictionary holds the raised caps. -/
theorem get?_boostCaps (self : JobAwarePRSBrain) (state : DomainState) (isGpuBusy : GpuIndex → Bool)
    (caps : Dict GpuIndex ℚ) (gpu : GpuIndex) :
    (self.boostCaps state (caps.keys.filter isGpuBusy) caps).get? gpu =
      (caps.get? gpu).map (self.raisedCap state isGpuBusy gpu) := by
  have loop : self.boostCaps state (caps.keys.filter isGpuBusy) caps =
      Dict.storeEach id (fun gpu stored => min (stored.getD 0 * (1 + self.boost))
        (state.gpuMaxCaps.getD gpu (stored.getD 0))) (caps.keys.filter isGpuBusy) caps := rfl
  have nodup : (caps.keys.filter isGpuBusy).Nodup := caps.keys_nodup.filter _
  rw [loop]
  by_cases member : gpu ∈ caps.keys.filter isGpuBusy
  · obtain ⟨present, busy⟩ := List.mem_filter.mp member
    obtain ⟨proposed, stored⟩ := Dict.mem_keys_iff.mp present
    have written := Dict.get?_storeEach_of_mem id (fun gpu (stored : Option ℚ) =>
      min (stored.getD 0 * (1 + self.boost)) (state.gpuMaxCaps.getD gpu (stored.getD 0)))
      (by rwa [List.map_id]) caps member
    rw [id_eq, stored, Option.getD_some, boosted_eq] at written
    rw [written, stored, Option.map_some, raisedCap, if_pos busy]
  · rw [Dict.get?_storeEach_of_not_mem id _ caps (by rwa [List.map_id])]
    cases stored : caps.get? gpu with
    | none => rfl
    | some proposed =>
      have present : gpu ∈ caps.keys := Dict.mem_keys_iff.mpr ⟨proposed, stored⟩
      have free : ¬ isGpuBusy gpu := fun busy => member (List.mem_filter.mpr ⟨present, busy⟩)
      rw [Option.map_some, raisedCap, if_neg free]

/-- The raised caps: those PRS proposes, and what is added. -/
theorem sum_raised (self : JobAwarePRSBrain) (state : DomainState) (isGpuBusy : GpuIndex → Bool)
    (caps : Dict GpuIndex ℚ) :
    (caps.keys.map fun gpu => self.raisedCap state isGpuBusy gpu (caps.getD gpu 0)).sum =
      caps.values.sum + self.addedTotalW state isGpuBusy caps := by
  have busy : ((caps.keys.filter isGpuBusy).map fun gpu =>
        self.raisedCap state isGpuBusy gpu (caps.getD gpu 0)).sum =
      ((caps.keys.filter isGpuBusy).map fun gpu => caps.getD gpu 0).sum +
        self.addedTotalW state isGpuBusy caps := by
    rw [addedTotalW, ← List.sum_map_add]
    refine congrArg List.sum (List.map_congr_left fun gpu member => ?_)
    rw [raisedCap, if_pos (List.mem_filter.mp member).2]
  have free : ((caps.keys.filter fun gpu => !isGpuBusy gpu).map fun gpu =>
        self.raisedCap state isGpuBusy gpu (caps.getD gpu 0)).sum =
      ((caps.keys.filter fun gpu => !isGpuBusy gpu).map fun gpu => caps.getD gpu 0).sum := by
    refine congrArg List.sum (List.map_congr_left fun gpu member => ?_)
    rw [raisedCap, if_neg (by simpa using (List.mem_filter.mp member).2)]
  rw [← sum_filter_add isGpuBusy, busy, free, Dict.values_eq_map_getD caps 0,
    ← sum_filter_add isGpuBusy _ caps.keys]
  ring

/-- **What a call does.** Every proposed cap is raised if its GPU is busy, and all are scaled by one
factor; the PRS brain remembers what it proposed. -/
theorem decide_ok (answer : topology.domainBudgetW domainName = .ok budget)
    (call : self.decide topology domainName state isGpuBusy = .ok (decision, next)) :
    let tick := self.prs.tick budget domainName state
    (∀ gpu, decision.caps.get? gpu = (tick.caps.get? gpu).map fun proposed =>
        self.raisedCap state isGpuBusy gpu proposed *
          self.payback budget state isGpuBusy tick.caps) ∧
      next.boost = self.boost ∧ next.prs.params = self.prs.params ∧
      next.prs.lastCaps = self.prs.lastCaps.set domainName tick.caps := by
  intro tick
  obtain ⟨inner, prs, innerCall⟩ := self.prs.decide_isOk state answer
  obtain ⟨innerCaps, sameParams, _, lastCaps⟩ := PRSBrain.decide_ok answer innerCall
  have proposals : tick.caps = inner.caps := innerCaps.symm
  unfold JobAwarePRSBrain.decide at call
  rw [innerCall] at call
  rw [proposals]
  by_cases none : inner.caps.keys.filter isGpuBusy = []
  · have returned : Except.ok (inner, { self with prs := prs }) = Except.ok (decision, next) :=
      (if_pos none).symm.trans call
    cases returned
    refine ⟨fun gpu => ?_, rfl, sameParams, innerCaps ▸ lastCaps⟩
    rw [payback, if_pos none]
    cases stored : decision.caps.get? gpu with
    | none => rfl
    | some proposed =>
      have free : ¬ isGpuBusy gpu := by
        intro busy
        have member : gpu ∈ decision.caps.keys.filter isGpuBusy :=
          List.mem_filter.mpr ⟨Dict.mem_keys_iff.mpr ⟨proposed, stored⟩, busy⟩
        rw [none] at member
        cases member
      rw [Option.map_some, raisedCap, if_neg free, mul_one]
  · have boosted := (if_neg none).symm.trans call
    rw [answer] at boosted
    cases boosted
    refine ⟨fun gpu => ?_, rfl, sameParams, innerCaps ▸ lastCaps⟩
    have lookups := self.get?_boostCaps state isGpuBusy inner.caps
    have total : (self.boostCaps state (inner.caps.keys.filter isGpuBusy) inner.caps).values.sum =
        inner.caps.values.sum + self.addedTotalW state isGpuBusy inner.caps := by
      rw [(Dict.values_perm_of_get?_map lookups 0).sum_eq, sum_raised]
    rw [payback, if_neg none]
    show (scaleDown budget _).get? gpu = _
    rw [get?_scaleDown, lookups, total, Option.map_map]
    rfl

/-- A call raises nothing when the domain has a budget. -/
theorem decide_isOk (self : JobAwarePRSBrain) (state : DomainState) (isGpuBusy : GpuIndex → Bool)
    (answer : topology.domainBudgetW domainName = .ok budget) :
    ∃ decision next, self.decide topology domainName state isGpuBusy = .ok (decision, next) := by
  obtain ⟨inner, prs, innerCall⟩ := self.prs.decide_isOk state answer
  unfold JobAwarePRSBrain.decide
  simp only [innerCall, bind, Except.bind, answer]
  by_cases none : inner.caps.keys.filter isGpuBusy = []
  · rw [if_pos none]
    exact ⟨_, _, rfl⟩
  · rw [if_neg none]
    exact ⟨_, _, rfl⟩

/-! ### One GPU -/

/-- Without an overshoot nothing is paid back. -/
theorem payback_of_within (within : self.overshootW budget state isGpuBusy caps ≤ 0) :
    self.payback budget state isGpuBusy caps = 1 := by
  unfold payback
  split
  · rfl
  · exact scaleFactor_of_within (sub_nonpos.mp within)

/-- With one, everything is scaled from the raised total down to the budget. -/
theorem payback_of_overshoot (positive : 0 < budget) (fits : caps.values.sum ≤ budget)
    (exceeds : 0 < self.overshootW budget state isGpuBusy caps) :
    self.payback budget state isGpuBusy caps =
      budget / (budget + self.overshootW budget state isGpuBusy caps) := by
  have total : budget + self.overshootW budget state isGpuBusy caps =
      caps.values.sum + self.addedTotalW state isGpuBusy caps := by
    rw [overshootW, add_sub_cancel]
  have someBusy : caps.keys.filter isGpuBusy ≠ [] := by
    intro none
    have nothing : self.addedTotalW state isGpuBusy caps = 0 := by
      rw [addedTotalW, none]
      rfl
    rw [overshootW, nothing, add_zero] at exceeds
    exact absurd (sub_pos.mp exceeds) (not_lt.mpr fits)
  rw [payback, if_neg someBusy, ← total, scaleFactor,
    if_pos ⟨positive.ne', lt_add_of_pos_right budget exceeds⟩]

/-- A busy GPU keeps its cap when what it gains pays its part of the overshoot. -/
theorem le_scaled_raise_iff {proposed added overshoot : ℚ} (positive : 0 < budget)
    (exceeds : 0 < overshoot) :
    proposed ≤ (proposed + added) * (budget / (budget + overshoot)) ↔
      proposed * overshoot ≤ added * budget := by
  rw [floor_le_scaled_iff positive (lt_add_of_pos_right budget exceeds), mul_add, add_mul,
    add_le_add_iff_left]

/-- Scaling down raises no cap that is not negative. -/
theorem scaled_le_iff {proposed overshoot : ℚ} (positive : 0 < budget) (exceeds : 0 < overshoot) :
    proposed * (budget / (budget + overshoot)) ≤ proposed ↔ 0 ≤ proposed := by
  rw [← mul_div_assoc, div_le_iff₀ (add_pos positive exceeds), mul_add, le_add_iff_nonneg_right,
    mul_nonneg_iff_of_pos_right exceeds]

/-- The returned caps, from those of the inner decision. -/
theorem get?_of_inner {inner : BrainDecision} {prs : PRSBrain}
    (answer : topology.domainBudgetW domainName = .ok budget)
    (innerCall : self.prs.decide topology domainName state = .ok (inner, prs))
    (call : self.decide topology domainName state isGpuBusy = .ok (decision, next))
    (gpu : GpuIndex) :
    decision.caps.get? gpu = (inner.caps.get? gpu).map fun proposed =>
      self.raisedCap state isGpuBusy gpu proposed *
        self.payback budget state isGpuBusy inner.caps := by
  rw [(PRSBrain.decide_ok answer innerCall).1]
  exact (decide_ok answer call).1 gpu

/-! ### The boosted GPUs -/

/-- No busy GPU is hurt: the raised caps fit and nobody loses by the boost itself, or the gain of every
busy GPU over its cap is at least the overshoot over the budget. -/
def BoostPays (self : JobAwarePRSBrain) (budget : ℚ) (state : DomainState)
    (isGpuBusy : GpuIndex → Bool) (caps : Dict GpuIndex ℚ) : Prop :=
  if self.overshootW budget state isGpuBusy caps ≤ 0 then
    ∀ gpu proposed, caps.get? gpu = some proposed → isGpuBusy gpu → 0 ≤ self.boost * proposed
  else
    ∀ gpu proposed, caps.get? gpu = some proposed →
      if isGpuBusy gpu then
        proposed * self.overshootW budget state isGpuBusy caps ≤
          self.addedW state gpu proposed * budget
      else 0 ≤ proposed

/-- The caps add up to at most the budget, no busy GPU loses and no other one gains. -/
def HurtsNoBusyGpu (budget : ℚ) (isGpuBusy : GpuIndex → Bool) (inner decision : BrainDecision) :
    Prop :=
  decision.total ≤ budget ∧
    ∀ gpu proposed cap, inner.caps.get? gpu = some proposed → decision.caps.get? gpu = some cap →
      (isGpuBusy gpu → proposed ≤ cap) ∧ (¬ isGpuBusy gpu → cap ≤ proposed)

/-- One GPU where the raised caps fit. -/
theorem raised_fair_iff {gpu : GpuIndex} {proposed : ℚ}
    (belowMax : isGpuBusy gpu → proposed ≤ state.gpuMaxCaps.getD gpu proposed) :
    ((isGpuBusy gpu → proposed ≤ self.raisedCap state isGpuBusy gpu proposed) ∧
        (¬ isGpuBusy gpu → self.raisedCap state isGpuBusy gpu proposed ≤ proposed)) ↔
      (isGpuBusy gpu → 0 ≤ self.boost * proposed) := by
  unfold raisedCap
  by_cases busy : isGpuBusy gpu
  · have room : 0 ≤ state.gpuMaxCaps.getD gpu proposed - proposed := sub_nonneg.mpr (belowMax busy)
    rw [if_pos busy, imp_iff_right busy, imp_iff_right busy, le_add_iff_nonneg_right, addedW,
      le_min_iff, and_iff_left room, and_iff_left fun free => absurd busy free]
  · rw [if_neg busy]
    exact iff_of_true ⟨fun _ => le_rfl, fun _ => le_rfl⟩ fun yes => absurd yes busy

/-- One GPU where they are scaled down. -/
theorem scaled_fair_iff {gpu : GpuIndex} {proposed overshoot : ℚ} (positive : 0 < budget)
    (exceeds : 0 < overshoot) :
    ((isGpuBusy gpu → proposed ≤ self.raisedCap state isGpuBusy gpu proposed *
          (budget / (budget + overshoot))) ∧
        (¬ isGpuBusy gpu → self.raisedCap state isGpuBusy gpu proposed *
          (budget / (budget + overshoot)) ≤ proposed)) ↔
      if isGpuBusy gpu then proposed * overshoot ≤ self.addedW state gpu proposed * budget
      else 0 ≤ proposed := by
  unfold raisedCap
  by_cases busy : isGpuBusy gpu
  · rw [if_pos busy, if_pos busy, imp_iff_right busy, le_scaled_raise_iff positive exceeds,
      and_iff_left fun free => absurd busy free]
  · rw [if_neg busy, if_neg busy, imp_iff_right busy, scaled_le_iff positive exceeds,
      and_iff_right fun yes => absurd yes busy]

/-- **What a job boost does to the boosted GPUs, exactly.** For every inner decision that fits a positive
budget, with the caps of the busy GPUs at most their maxima: the returned caps fit the budget, no busy
GPU has less and no other one has more than PRS proposes, if and only if the boost pays for every busy
GPU. -/
theorem job_boost_never_hurts_iff {inner : BrainDecision} {prs : PRSBrain}
    (answer : topology.domainBudgetW domainName = .ok budget) (positive : 0 < budget)
    (innerCall : self.prs.decide topology domainName state = .ok (inner, prs))
    (fits : inner.total ≤ budget)
    (belowMax : ∀ gpu proposed, inner.caps.get? gpu = some proposed → isGpuBusy gpu →
      proposed ≤ state.gpuMaxCaps.getD gpu proposed)
    (call : self.decide topology domainName state isGpuBusy = .ok (decision, next)) :
    HurtsNoBusyGpu budget isGpuBusy inner decision ↔
      self.BoostPays budget state isGpuBusy inner.caps := by
  have lookups := get?_of_inner answer innerCall call
  have ledger : decision.total = (budget + self.overshootW budget state isGpuBusy inner.caps) *
      self.payback budget state isGpuBusy inner.caps := by
    rw [BrainDecision.total, (Dict.values_perm_of_get?_map lookups 0).sum_eq, List.sum_map_mul_right,
      sum_raised, overshootW, add_sub_cancel]
  unfold HurtsNoBusyGpu BoostPays
  rw [Dict.forall_get?_map_iff lookups]
  by_cases within : self.overshootW budget state isGpuBusy inner.caps ≤ 0
  · rw [payback_of_within within, mul_one] at ledger
    have total : decision.total ≤ budget := by linarith
    rw [and_iff_right total, if_pos within]
    refine forall_congr' fun gpu => forall_congr' fun proposed => imp_congr_right fun stored => ?_
    rw [payback_of_within within, mul_one]
    exact raised_fair_iff (belowMax gpu proposed stored)
  · have exceeds := not_le.mp within
    have factor := payback_of_overshoot positive fits exceeds
    have total : decision.total ≤ budget := by
      rw [ledger, factor, mul_div_cancel₀ _ (add_pos positive exceeds).ne']
    rw [and_iff_right total, if_neg within, factor]
    refine forall_congr' fun gpu => forall_congr' fun proposed => imp_congr_right fun stored => ?_
    exact scaled_fair_iff positive exceeds

/-! ### The floor -/

/-- Every cap stays at the floor. Where nothing is scaled down, the busy GPUs reach it with the boost and
may reach it by their maxima. Otherwise what each raised cap is above the floor pays, of the budget, for
what the floor is of the overshoot. -/
def FloorSurvives (self : JobAwarePRSBrain) (budget : ℚ) (state : DomainState)
    (isGpuBusy : GpuIndex → Bool) (caps : Dict GpuIndex ℚ) : Prop :=
  if budget = 0 ∨ self.overshootW budget state isGpuBusy caps ≤ 0 then
    ∀ gpu proposed, caps.get? gpu = some proposed → isGpuBusy gpu →
      self.prs.params.minCapW ≤ proposed * (1 + self.boost) ∧
        self.prs.params.minCapW ≤ state.gpuMaxCaps.getD gpu proposed
  else
    ∀ gpu proposed, caps.get? gpu = some proposed →
      self.prs.params.minCapW * self.overshootW budget state isGpuBusy caps ≤
        (self.raisedCap state isGpuBusy gpu proposed - self.prs.params.minCapW) * budget

/-- A raised cap is at the floor after the scaling when what it has above the floor pays for it. -/
theorem floor_le_scaled_raise_iff {floor raised overshoot : ℚ} (positive : 0 < budget)
    (exceeds : 0 < overshoot) :
    floor ≤ raised * (budget / (budget + overshoot)) ↔
      floor * overshoot ≤ (raised - floor) * budget := by
  rw [floor_le_scaled_iff positive (lt_add_of_pos_right budget exceeds), mul_add, sub_mul,
    le_sub_iff_add_le, add_comm]

/-- With a zero budget nothing is scaled either. -/
theorem payback_of_zero : self.payback 0 state isGpuBusy caps = 1 := by
  unfold payback scaleFactor
  split
  · rfl
  · exact if_neg fun powered => absurd rfl powered.1

/-- **What a job boost does to the floor, exactly.** For every inner decision that fits the budget with
every cap at least `min_cap_w`, every returned cap is at least `min_cap_w` if and only if the floor
survives the boost and the scaling. -/
theorem job_boost_keeps_floor_iff {inner : BrainDecision} {prs : PRSBrain}
    (answer : topology.domainBudgetW domainName = .ok budget)
    (innerCall : self.prs.decide topology domainName state = .ok (inner, prs))
    (fits : inner.total ≤ budget)
    (aboveFloor : ∀ gpu proposed, inner.caps.get? gpu = some proposed →
      self.prs.params.minCapW ≤ proposed)
    (call : self.decide topology domainName state isGpuBusy = .ok (decision, next)) :
    (∀ gpu cap, decision.caps.get? gpu = some cap → self.prs.params.minCapW ≤ cap) ↔
      self.FloorSurvives budget state isGpuBusy inner.caps := by
  have lookups := get?_of_inner answer innerCall call
  have property : (∀ gpu cap, decision.caps.get? gpu = some cap → self.prs.params.minCapW ≤ cap) ↔
      ∀ gpu proposed, inner.caps.get? gpu = some proposed → self.prs.params.minCapW ≤
        self.raisedCap state isGpuBusy gpu proposed *
          self.payback budget state isGpuBusy inner.caps := by
    constructor
    · intro kept gpu proposed stored
      exact kept gpu _ (by rw [lookups, stored]; rfl)
    · intro kept gpu cap returned
      rw [lookups, Option.map_eq_some_iff] at returned
      obtain ⟨proposed, stored, rfl⟩ := returned
      exact kept gpu proposed stored
  rw [property, FloorSurvives]
  split
  · next unscaled =>
    have factor : self.payback budget state isGpuBusy inner.caps = 1 := by
      rcases unscaled with zero | within
      · rw [zero]
        exact payback_of_zero
      · exact payback_of_within within
    refine forall_congr' fun gpu => forall_congr' fun proposed => imp_congr_right fun stored => ?_
    rw [factor, mul_one, raisedCap]
    split
    · next busy => rw [imp_iff_right busy, ← boosted_eq, le_min_iff]
    · next free => exact iff_of_true (aboveFloor gpu proposed stored) fun busy => absurd busy free
  · next scaled =>
    rw [not_or, not_le] at scaled
    have positive : 0 < budget :=
      (PDNTopology.domainBudgetW_nonneg answer).lt_of_ne (Ne.symm scaled.1)
    refine forall_congr' fun gpu => forall_congr' fun proposed => imp_congr_right fun stored => ?_
    rw [payback_of_overshoot positive fits scaled.2]
    exact floor_le_scaled_raise_iff positive scaled.2

end Decision

/-! ### A boost that hurts, and one that breaks the floor

Both GPUs have a job and 500 W of 1000 W. GPU 0 is at its maximum, so only GPU 1 is boosted, and both
pay for it. -/

/-- A freshly built brain. -/
def boostingBrain : JobAwarePRSBrain where
  prs := { params := defaultParams }
  boost := 15 / 100
  boost_nonneg := defaultPart_nonneg

def atMaximumState : DomainState where
  domainName := "domain-0"
  gpuDraws := .ofList [(0, 500), (1, 500)]
  gpuCaps := .ofList [(0, 500), (1, 500)]
  gpuMaxCaps := .ofList [(0, 500), (1, 1000)]
  ts := 0

theorem decide_atMaximum :
    ∃ inner prs decision next,
      boostingBrain.prs.decide skewedTopology "domain-0" atMaximumState = .ok (inner, prs) ∧
        boostingBrain.decide skewedTopology "domain-0" atMaximumState (fun _ => true) =
          .ok (decision, next) ∧
        inner.caps = .ofList [(0, 500), (1, 500)] := by
  obtain ⟨inner, prs, innerCall⟩ := boostingBrain.prs.decide_isOk atMaximumState domainBudgetW_skewed
  obtain ⟨decision, next, call⟩ :=
    boostingBrain.decide_isOk atMaximumState (fun _ => true) domainBudgetW_skewed
  refine ⟨inner, prs, decision, next, innerCall, call, ?_⟩
  rw [(PRSBrain.decide_ok domainBudgetW_skewed innerCall).1]
  decide +kernel

/-- The caps of the busy GPUs are at most their maxima. -/
theorem atMaximum_below (gpu : GpuIndex) (proposed : ℚ)
    (stored : (Dict.ofList [((0 : GpuIndex), (500 : ℚ)), (1, 500)]).get? gpu = some proposed) :
    proposed ≤ atMaximumState.gpuMaxCaps.getD gpu proposed := by
  have every : ∀ item ∈ (Dict.ofList [((0 : GpuIndex), (500 : ℚ)), (1, 500)]).items,
      item.2 ≤ atMaximumState.gpuMaxCaps.getD item.1 item.2 := by decide +kernel
  exact every (gpu, proposed) (Dict.get?_eq_some_iff.mp stored)

/-- The boost leaves GPU 0 less than PRS gives it. -/
theorem job_boost_hurts_busy_gpu :
    ∃ inner prs decision next cap,
      boostingBrain.prs.decide skewedTopology "domain-0" atMaximumState = .ok (inner, prs) ∧
        inner.total ≤ 1000 ∧
        (∀ gpu proposed, inner.caps.get? gpu = some proposed →
          proposed ≤ atMaximumState.gpuMaxCaps.getD gpu proposed) ∧
        boostingBrain.decide skewedTopology "domain-0" atMaximumState (fun _ => true) =
          .ok (decision, next) ∧
        inner.caps.get? 0 = some 500 ∧ decision.caps.get? 0 = some cap ∧ cap < 500 := by
  obtain ⟨inner, prs, decision, next, innerCall, call, proposals⟩ := decide_atMaximum
  have returned : decision.caps.get? 0 = some (20000 / 43) := by
    rw [(decide_ok domainBudgetW_skewed call).1]
    decide +kernel
  refine ⟨inner, prs, decision, next, _, innerCall, ?_, ?_, call, ?_, returned, by norm_num⟩
  · rw [BrainDecision.total, proposals]
    decide +kernel
  · rw [proposals]
    exact atMaximum_below
  · rw [proposals]
    decide +kernel

/-- The equivalence there: GPU 0 gains nothing, and the overshoot is 75 W. -/
theorem job_boost_never_hurts_iff_atMaximum :
    ∃ inner prs decision next,
      boostingBrain.prs.decide skewedTopology "domain-0" atMaximumState = .ok (inner, prs) ∧
        boostingBrain.decide skewedTopology "domain-0" atMaximumState (fun _ => true) =
          .ok (decision, next) ∧
        (HurtsNoBusyGpu 1000 (fun _ => true) inner decision ↔
          boostingBrain.BoostPays 1000 atMaximumState (fun _ => true) inner.caps) := by
  obtain ⟨inner, prs, decision, next, innerCall, call, proposals⟩ := decide_atMaximum
  refine ⟨inner, prs, decision, next, innerCall, call,
    job_boost_never_hurts_iff domainBudgetW_skewed (by norm_num) innerCall ?_ ?_ call⟩
  · rw [BrainDecision.total, proposals]
    decide +kernel
  · intro gpu proposed stored _
    rw [proposals] at stored
    exact atMaximum_below gpu proposed stored

/-- An idle GPU at the floor and a hot one with a job. -/
def atFloorState : DomainState where
  domainName := "domain-0"
  gpuDraws := .ofList [(0, 50), (1, 800)]
  gpuCaps := .ofList [(0, 500), (1, 900)]
  gpuMaxCaps := .ofList [(0, 1000), (1, 1000)]
  ts := 0

theorem decide_atFloor :
    ∃ inner prs decision next,
      boostingBrain.prs.decide skewedTopology "domain-0" atFloorState = .ok (inner, prs) ∧
        boostingBrain.decide skewedTopology "domain-0" atFloorState (fun gpu => gpu == 1) =
          .ok (decision, next) ∧
        inner.total = 1000 ∧
        ∀ gpu proposed, inner.caps.get? gpu = some proposed →
          boostingBrain.prs.params.minCapW ≤ proposed := by
  obtain ⟨inner, prs, innerCall⟩ := boostingBrain.prs.decide_isOk atFloorState domainBudgetW_skewed
  obtain ⟨decision, next, call⟩ :=
    boostingBrain.decide_isOk atFloorState (fun gpu => gpu == 1) domainBudgetW_skewed
  have proposals : inner.caps = .ofList [(0, 200), (1, 800)] := by
    rw [(PRSBrain.decide_ok domainBudgetW_skewed innerCall).1]
    decide +kernel
  refine ⟨inner, prs, decision, next, innerCall, call, ?_, fun gpu proposed stored => ?_⟩
  · rw [BrainDecision.total, proposals]
    decide +kernel
  · have every : ∀ item ∈ (Dict.ofList [((0 : GpuIndex), (200 : ℚ)), (1, 800)]).items,
        boostingBrain.prs.params.minCapW ≤ item.2 := by decide +kernel
    rw [proposals] at stored
    exact every (gpu, proposed) (Dict.get?_eq_some_iff.mp stored)

/-- The boost of GPU 1 pushes GPU 0 below the floor of 200 W. -/
theorem job_boost_breaks_floor :
    ∃ inner prs decision next cap,
      boostingBrain.prs.decide skewedTopology "domain-0" atFloorState = .ok (inner, prs) ∧
        inner.total ≤ 1000 ∧
        (∀ gpu proposed, inner.caps.get? gpu = some proposed →
          boostingBrain.prs.params.minCapW ≤ proposed) ∧
        boostingBrain.decide skewedTopology "domain-0" atFloorState (fun gpu => gpu == 1) =
          .ok (decision, next) ∧
        decision.caps.get? 0 = some cap ∧ cap < boostingBrain.prs.params.minCapW := by
  obtain ⟨inner, prs, decision, next, innerCall, call, total, floor⟩ := decide_atFloor
  have returned : decision.caps.get? 0 = some (1250 / 7) := by
    rw [(decide_ok domainBudgetW_skewed call).1]
    decide +kernel
  exact ⟨inner, prs, decision, next, _, innerCall, total.le, floor, call, returned,
    by decide +kernel⟩

/-- The equivalence there: the floor of GPU 0 has nothing to spare. -/
theorem job_boost_keeps_floor_iff_atFloor :
    ∃ inner prs decision next,
      boostingBrain.prs.decide skewedTopology "domain-0" atFloorState = .ok (inner, prs) ∧
        boostingBrain.decide skewedTopology "domain-0" atFloorState (fun gpu => gpu == 1) =
          .ok (decision, next) ∧
        ((∀ gpu cap, decision.caps.get? gpu = some cap →
            boostingBrain.prs.params.minCapW ≤ cap) ↔
          boostingBrain.FloorSurvives 1000 atFloorState (fun gpu => gpu == 1) inner.caps) := by
  obtain ⟨inner, prs, decision, next, innerCall, call, total, floor⟩ := decide_atFloor
  exact ⟨inner, prs, decision, next, innerCall, call,
    job_boost_keeps_floor_iff domainBudgetW_skewed innerCall total.le floor call⟩

end JobAwarePRSBrain

end Opendps.Brain
