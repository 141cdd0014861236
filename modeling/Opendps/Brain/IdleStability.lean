/-
**Is an idle GPU still idle under its own cap?**

A GPU is idle when its smoothed draw is below the threshold's part of its cap, and being idle lowers the
cap to the draw with a margin. The next tick classifies the same draw against the lowered cap. With a
converged draw this is a fixed-point question about one number, and `stays_below_iff` answers it for any
threshold, margin, floor and ceiling: the draw has to be below the threshold's part of the ceiling, and
of the floor or of the draw with its margin.

With the default threshold of 0.6 and the default margin of 0.3 the last of these never holds of a draw
that is not negative, since 0.6 · 1.3 is less than one. So only a GPU that the floor of 200 W keeps
roomy stays idle: one that draws less than 120 W (`idle_stays_idle_iff`).
-/

import Opendps.Brain.PrsDemand

namespace Opendps.Brain

open Opendps.Lib Opendps.Pdn

/-! ### The fixed point -/

/-- When a draw is below the threshold's part of the cap it is given: its margin over a floor, cut at a
ceiling. -/
theorem stays_below_iff {floor threshold : ℚ} (floorPos : 0 < floor)
    (thresholdNonneg : 0 ≤ threshold) (margin ceiling draw : ℚ) :
    ¬ (0 < min (max floor (draw * (1 + margin))) ceiling ∧
        threshold ≤ draw / min (max floor (draw * (1 + margin))) ceiling) ↔
      ceiling ≤ 0 ∨ draw < threshold * ceiling ∧
        (draw < threshold * floor ∨ draw < threshold * (draw * (1 + margin))) := by
  have lifted : 0 < max floor (draw * (1 + margin)) := lt_max_of_lt_left floorPos
  rcases le_or_gt ceiling 0 with none | some
  · have uncapped : ¬ 0 < min (max floor (draw * (1 + margin))) ceiling :=
      not_lt.mpr ((min_le_right _ _).trans none)
    exact iff_of_true (fun both => uncapped both.1) (.inl none)
  · have capped : 0 < min (max floor (draw * (1 + margin))) ceiling := lt_min lifted some
    rw [or_iff_right (not_le.mpr some), not_and, imp_iff_right capped, not_le, div_lt_iff₀ capped,
      mul_min_of_nonneg _ _ thresholdNonneg, mul_max_of_nonneg _ _ thresholdNonneg, lt_min_iff,
      lt_max_iff, and_comm]

/-! ### Two ticks -/

namespace PRSBrain

/-- Idle at the last decision for a domain, as its diagnostics say. -/
def ClassifiedIdle (brain : PRSBrain) (domainName : String) (gpu : GpuIndex) : Prop :=
  ∃ metrics, brain.getLastMetrics domainName = some metrics ∧ gpu ∈ metrics.idleGpus

/-- Every smoothed draw is the one reported. -/
def Converged (brain : PRSBrain) (domainName : String) (draws : Dict GpuIndex ℚ) : Prop :=
  ∀ gpu draw, draws.get? gpu = some draw →
    (brain.ewma.getD domainName .empty).get? gpu = some draw

variable {brain next : PRSBrain} {topology : PDNTopology} {domainName : String}
  {state : DomainState} {decision : BrainDecision} {budget : ℚ}

theorem classifiedIdle_iff (answer : topology.domainBudgetW domainName = .ok budget)
    (call : brain.decide topology domainName state = .ok (decision, next)) {gpu : GpuIndex} :
    next.ClassifiedIdle domainName gpu ↔
      gpu ∈ state.gpuDraws.keys ∧ (brain.tick budget domainName state).isHot gpu = false := by
  have idle : gpu ∈ (brain.tick budget domainName state).idle ↔
      gpu ∈ state.gpuDraws.keys ∧ (brain.tick budget domainName state).isHot gpu = false := by
    unfold Tick.idle
    rw [List.mem_filter, Bool.not_eq_true']
    rfl
  unfold ClassifiedIdle
  rw [getLastMetrics_of_decide answer call]
  constructor
  · rintro ⟨metrics, stored, member⟩
    cases stored
    exact idle.mp member
  · intro isIdle
    exact ⟨_, rfl, idle.mpr isIdle⟩

/-- The cap of an idle GPU whose smoothed draw has converged, under the default parameters. -/
theorem cap_of_idle (defaults : brain.params = defaultParams)
    (answer : topology.domainBudgetW domainName = .ok budget)
    (call : brain.decide topology domainName state = .ok (decision, next)) {gpu : GpuIndex} {draw : ℚ}
    (isIdle : next.ClassifiedIdle domainName gpu)
    (held : (next.ewma.getD domainName .empty).get? gpu = some draw) :
    decision.caps.get? gpu =
      some (min (max 200 (draw * (1 + 3 / 10))) ((brain.tick budget domainName state).hwMax gpu)) := by
  obtain ⟨caps, _, ewma, _⟩ := decide_ok answer call
  obtain ⟨present, cold⟩ := (classifiedIdle_iff answer call).mp isIdle
  have smoothed : (brain.tick budget domainName state).smoothed gpu = draw := by
    rw [ewma, Dict.getD_set_self] at held
    exact Dict.getD_of_some held 0
  have unlimited : (brain.tick budget domainName state).params.capRaiseRateWPerTick = 0 := by
    show brain.params.capRaiseRateWPerTick = 0
    rw [defaults]
    rfl
  rw [caps, Tick.get?_caps_of_unlimited unlimited present, Tick.target, cold,
    if_neg Bool.false_ne_true, Tick.idleFloor, smoothed]
  show some (min (max brain.params.minCapW (draw * (1 + brain.params.idleFloorMargin))) _) = _
  rw [defaults]
  rfl

/-- A GPU that goes on with its converged draw is idle under a cap of which it draws less than the
threshold. -/
theorem classifiedIdle_of_held (defaults : brain.params = defaultParams)
    (answer : topology.domainBudgetW domainName = .ok budget)
    (call : brain.decide topology domainName state = .ok (decision, next)) {gpu : GpuIndex}
    {draw cap : ℚ} (held : (brain.ewma.getD domainName .empty).get? gpu = some draw)
    (drawn : state.gpuDraws.get? gpu = some draw) (inForce : state.gpuCaps.get? gpu = some cap) :
    next.ClassifiedIdle domainName gpu ↔ ¬ (0 < cap ∧ 6 / 10 ≤ draw / cap) := by
  have present : gpu ∈ state.gpuDraws.keys := Dict.mem_keys_iff.mpr ⟨draw, drawn⟩
  have stored : (brain.tick budget domainName state).ewma.get? gpu = some draw := by
    rw [PRSBrain.tick, get?_updateEwma, drawn, Option.map_some, Option.some_or,
      Dict.getD_of_some held, blend_self]
  have smoothed : (brain.tick budget domainName state).smoothed gpu = draw :=
    Dict.getD_of_some stored 0
  have reported : (brain.tick budget domainName state).state.gpuCaps.get? gpu = some cap := inForce
  rw [classifiedIdle_iff answer call, and_iff_right present, Tick.isHot, smoothed,
    decide_eq_false_iff_not, Dict.getD_of_some reported]
  show ¬ (_ ∧ brain.params.reclaimThreshold ≤ _) ↔ _
  rw [defaults]
  rfl

/-- **Idle in steady state, exactly.** A brain with its default parameters has converged at a tick, and
at the next one the draws are the same and the caps just decided are in force. A GPU that was idle is
idle again if and only if it draws less than 120 W and less than 0.6 of its maximum, or has no maximum
above zero. -/
theorem idle_stays_idle_iff (defaults : brain.params = defaultParams)
    (answer : topology.domainBudgetW domainName = .ok budget)
    (call : brain.decide topology domainName state = .ok (decision, next))
    (converged : next.Converged domainName state.gpuDraws) {gpu : GpuIndex} {draw : ℚ}
    (drawn : state.gpuDraws.get? gpu = some draw) (isIdle : next.ClassifiedIdle domainName gpu)
    {laterTopology : PDNTopology} {later : DomainState} {laterDecision : BrainDecision}
    {last : PRSBrain} (sameDraws : later.gpuDraws = state.gpuDraws)
    (inForce : later.gpuCaps = decision.caps)
    (laterCall : next.decide laterTopology domainName later = .ok (laterDecision, last)) :
    last.ClassifiedIdle domainName gpu ↔
      (brain.tick budget domainName state).hwMax gpu ≤ 0 ∨
        draw < 120 ∧ draw < 6 / 10 * (brain.tick budget domainName state).hwMax gpu := by
  obtain ⟨laterBudget, laterAnswer⟩ := budget_of_decide laterCall
  have nextParams : next.params = defaultParams := (decide_ok answer call).2.1.trans defaults
  have held : (next.ewma.getD domainName .empty).get? gpu = some draw := converged gpu draw drawn
  have laterDrawn : later.gpuDraws.get? gpu = some draw := sameDraws ▸ drawn
  -- the cap in force at the next tick is the idle floor of this one
  have cap := cap_of_idle defaults answer call isIdle held
  rw [← inForce] at cap
  rw [classifiedIdle_of_held nextParams laterAnswer laterCall held laterDrawn cap,
    stays_below_iff (by norm_num) (by norm_num)]
  refine or_congr_right ?_
  rw [and_comm]
  refine and_congr_left fun _ => ?_
  constructor
  · rintro (small | margin) <;> linarith
  · intro small
    left
    linarith

/-! ### A GPU that draws 150 W

Idle under 1000 W, it is given the floor of 200 W. Under 200 W it is hot, and is given 1000 W. -/

def modestState (cap : ℚ) : DomainState where
  domainName := "domain-0"
  gpuDraws := .ofList [(0, 150)]
  gpuCaps := .ofList [(0, cap)]
  gpuMaxCaps := .ofList [(0, 1000)]
  ts := 0

/-- The brain after the first tick. -/
def reclaimedBrain : PRSBrain :=
  let tick := PRSBrain.tick { params := defaultParams } 1000 "domain-0" (modestState 1000)
  { params := defaultParams
    ewma := Dict.empty.set "domain-0" tick.ewma
    lastCaps := Dict.empty.set "domain-0" tick.caps
    lastMetrics := Dict.empty.set "domain-0" tick.metrics }

theorem decide_modest :
    ∃ decision, PRSBrain.decide { params := defaultParams } skewedTopology "domain-0"
        (modestState 1000) = .ok (decision, reclaimedBrain) ∧
      decision.caps = .ofList [(0, 200)] := by
  unfold PRSBrain.decide
  rw [domainBudgetW_skewed]
  exact ⟨_, rfl, by decide +kernel⟩

theorem converged_reclaimedBrain :
    reclaimedBrain.Converged "domain-0" (modestState 1000).gpuDraws := by
  intro gpu draw drawn
  have member : (gpu, draw) ∈ [((0 : GpuIndex), (150 : ℚ))] := Dict.get?_eq_some_iff.mp drawn
  rw [List.mem_singleton, Prod.mk.injEq] at member
  rw [member.1, member.2]
  decide +kernel

theorem classifiedIdle_reclaimedBrain : reclaimedBrain.ClassifiedIdle "domain-0" 0 := by
  obtain ⟨decision, call, _⟩ := decide_modest
  exact (classifiedIdle_iff domainBudgetW_skewed call).mpr (by decide +kernel)

/-- A GPU that a converged brain reclaims from is hot at the next tick, and gets everything back. -/
theorem idle_becomes_hot :
    ∃ decision laterDecision last,
      PRSBrain.decide { params := defaultParams } skewedTopology "domain-0" (modestState 1000) =
          .ok (decision, reclaimedBrain) ∧
        reclaimedBrain.Converged "domain-0" (modestState 1000).gpuDraws ∧
        reclaimedBrain.ClassifiedIdle "domain-0" 0 ∧ decision.caps = (modestState 200).gpuCaps ∧
        reclaimedBrain.decide skewedTopology "domain-0" (modestState 200) =
          .ok (laterDecision, last) ∧
        ¬ last.ClassifiedIdle "domain-0" 0 ∧ laterDecision.caps.get? 0 = some 1000 := by
  obtain ⟨decision, call, reclaimed⟩ := decide_modest
  obtain ⟨laterDecision, last, laterCall⟩ :=
    reclaimedBrain.decide_isOk (modestState 200) domainBudgetW_skewed
  refine ⟨decision, laterDecision, last, call, converged_reclaimedBrain,
    classifiedIdle_reclaimedBrain, reclaimed, laterCall, ?_, ?_⟩
  · rw [classifiedIdle_iff domainBudgetW_skewed laterCall]
    decide +kernel
  · rw [(decide_ok domainBudgetW_skewed laterCall).1]
    decide +kernel

/-- The equivalence for this GPU: it draws more than 120 W. -/
theorem idle_stays_idle_iff_modest :
    ∃ laterDecision last,
      reclaimedBrain.decide skewedTopology "domain-0" (modestState 200) =
          .ok (laterDecision, last) ∧
        (last.ClassifiedIdle "domain-0" 0 ↔
          (PRSBrain.tick { params := defaultParams } 1000 "domain-0" (modestState 1000)).hwMax 0 ≤ 0 ∨
            (150 : ℚ) < 120 ∧ (150 : ℚ) < 6 / 10 *
              (PRSBrain.tick { params := defaultParams } 1000 "domain-0" (modestState 1000)).hwMax
                0) := by
  obtain ⟨decision, call, reclaimed⟩ := decide_modest
  obtain ⟨laterDecision, last, laterCall⟩ :=
    reclaimedBrain.decide_isOk (modestState 200) domainBudgetW_skewed
  have sameDraws : (modestState 200).gpuDraws = (modestState 1000).gpuDraws := rfl
  have inForce : (modestState 200).gpuCaps = decision.caps := reclaimed.symm
  exact ⟨laterDecision, last, laterCall, idle_stays_idle_iff rfl domainBudgetW_skewed call
    converged_reclaimedBrain (by decide +kernel) classifiedIdle_reclaimedBrain sameDraws inForce
    laterCall⟩

end PRSBrain

end Opendps.Brain
