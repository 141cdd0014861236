/-
**PRS does not throttle below the smoothed demand where the demand fits.**

With the raise limiter off, an idle GPU is capped at its smoothed draw with a margin and a hot one at
its part of the hot budget, which is at least its smoothed draw when the hot budget covers the smoothed
draws of all hot GPUs (`Tick.hotCap_ge_demand`). The proportional split needs the smoothed draws of
the hot GPUs to be non-negative: they are when the threshold is not negative, and they are after any
history of non-negative draws (`ReachableOn.ewma_nonneg`).
-/

import Opendps.Brain.RaiseLimiter

namespace Opendps.Brain

open Opendps.Lib Opendps.Pdn

/-! ### The smoothed draws -/

theorem blend_nonneg {alpha draw previous : ℚ} (pos : 0 < alpha) (atMost : alpha ≤ 1)
    (drawNonneg : 0 ≤ draw) (previousNonneg : 0 ≤ previous) : 0 ≤ blend alpha draw previous :=
  add_nonneg (mul_nonneg pos.le drawNonneg) (mul_nonneg (sub_nonneg.mpr atMost) previousNonneg)

/-- Blending non-negative draws into a table without negative entries leaves none. -/
theorem updateEwma_nonneg {params : PRSParams} {ewma draws : Dict GpuIndex ℚ}
    (before : ∀ gpu value, ewma.get? gpu = some value → 0 ≤ value)
    (drawsNonneg : ∀ gpu draw, draws.get? gpu = some draw → 0 ≤ draw) :
    ∀ gpu value, (updateEwma params.ewmaAlpha ewma draws).get? gpu = some value → 0 ≤ value := by
  intro gpu value found
  rw [get?_updateEwma] at found
  cases reported : draws.get? gpu with
  | none =>
    rw [reported] at found
    exact before gpu value found
  | some draw =>
    rw [reported] at found
    cases found
    have drawNonneg := drawsNonneg gpu draw reported
    exact blend_nonneg params.alpha_pos params.alpha_le_one drawNonneg
      (Dict.getD_induction drawNonneg (before gpu))

/-- No negative draw was reported. -/
def DrawsNonneg (state : DomainState) : Prop :=
  ∀ gpu draw, state.gpuDraws.get? gpu = some draw → 0 ≤ draw

theorem DrawsNonneg.getD {state : DomainState} (draws : DrawsNonneg state) (gpu : GpuIndex) :
    0 ≤ state.gpuDraws.getD gpu 0 :=
  Dict.getD_induction le_rfl (draws gpu)

namespace PRSBrain

/-- The brains some sequence of calls produces, where all telemetry is of one kind. -/
inductive ReachableOn (admits : DomainState → Prop) (params : PRSParams) : PRSBrain → Prop
  | init : ReachableOn admits params { params := params }
  | decide {brain next : PRSBrain} {topology : PDNTopology} {domainName : String}
      {state : DomainState} {decision : BrainDecision} (before : ReachableOn admits params brain)
      (admitted : admits state)
      (call : brain.decide topology domainName state = .ok (decision, next)) :
      ReachableOn admits params next
  | noteAppliedCaps {brain : PRSBrain} (domainName : String) (caps : Dict GpuIndex ℚ)
      (before : ReachableOn admits params brain) :
      ReachableOn admits params (brain.noteAppliedCaps domainName caps)
  | resetEwma {brain : PRSBrain} (domainName : Option String)
      (before : ReachableOn admits params brain) :
      ReachableOn admits params (brain.resetEwma domainName)

variable {admits : DomainState → Prop} {params : PRSParams} {brain : PRSBrain}

theorem ReachableOn.reachable (reachable : ReachableOn admits params brain) :
    Reachable params brain := by
  induction reachable with
  | init => exact .init
  | decide before admitted call ih => exact .decide ih call
  | noteAppliedCaps domainName caps before ih => exact .noteAppliedCaps domainName caps ih
  | resetEwma domainName before ih => exact .resetEwma domainName ih

/-- After a history of non-negative draws no smoothed draw is negative. -/
theorem ReachableOn.ewma_nonneg (nonneg : ∀ state, admits state → DrawsNonneg state)
    (reachable : ReachableOn admits params brain) :
    ∀ domainName gpu value, (brain.ewma.getD domainName .empty).get? gpu = some value →
      0 ≤ value := by
  induction reachable with
  | init =>
    intro domainName gpu value found
    cases found
  | @decide brain next topology domainName state decision before admitted call ih =>
    obtain ⟨budget, answer⟩ := budget_of_decide call
    intro other gpu value found
    rw [(decide_ok answer call).2.2.1, Dict.getD, Dict.get?_set] at found
    split at found
    · exact updateEwma_nonneg (ih domainName) (nonneg state admitted) gpu value found
    · exact ih other gpu value found
  | noteAppliedCaps domainName caps before ih => exact ih
  | @resetEwma brain domainName before ih =>
    cases domainName with
    | none =>
      intro domainName gpu value found
      cases found
    | some domainName =>
      intro other gpu value found
      have emptied : (brain.resetEwma (some domainName)).ewma = brain.ewma.pop domainName := rfl
      rw [emptied, Dict.getD, Dict.get?_pop] at found
      split at found
      · cases found
      · exact ih other gpu value found

end PRSBrain

/-! ### One tick -/

namespace Tick

variable {tick : Tick} {gpu : GpuIndex}

/-- A hot GPU gets at least its smoothed draw when the hot budget covers those of all. -/
theorem hotCap_ge_demand (floor : 0 ≤ tick.params.minCapW)
    (nonneg : ∀ other ∈ tick.hot, 0 ≤ tick.smoothed other)
    (fits : tick.idleTotal + tick.totalHotEwma ≤ tick.budget) (isHot : gpu ∈ tick.hot) :
    min (tick.hwMax gpu) (tick.smoothed gpu) ≤ tick.hotCap gpu := by
  have listed : ∀ value ∈ tick.hot.map tick.smoothed, 0 ≤ value := by
    intro value inside
    obtain ⟨other, otherHot, rfl⟩ := List.mem_map.mp inside
    exact nonneg other otherHot
  have part : tick.smoothed gpu ≤ tick.totalHotEwma :=
    List.single_le_sum listed _ (List.mem_map_of_mem isHot)
  by_cases total : 0 < tick.totalHotEwma
  · have covers : tick.totalHotEwma ≤ tick.hotBudget :=
      (le_sub_iff_add_le'.mpr fits).trans (le_max_right _ _)
    have due : tick.smoothed gpu ≤ tick.raw gpu := by
      rw [raw, share, if_pos total, div_mul_eq_mul_div, le_div_iff₀ total]
      exact mul_le_mul_of_nonneg_left covers (nonneg gpu isHot)
    exact (min_le_min le_rfl due).trans (le_max_right _ _)
  · -- all hot GPUs draw nothing
    have zero : tick.smoothed gpu ≤ 0 := part.trans (not_lt.mp total)
    exact ((min_le_right _ _).trans zero).trans (floor.trans (le_max_left _ _))

/-- An idle GPU gets at least its smoothed draw. -/
theorem idleFloor_ge_demand (floor : 0 ≤ tick.params.minCapW)
    (margin : 0 ≤ tick.params.idleFloorMargin) :
    min (tick.hwMax gpu) (tick.smoothed gpu) ≤ tick.idleFloor gpu := by
  have buffered : tick.smoothed gpu ≤
      max tick.params.minCapW (tick.smoothed gpu * (1 + tick.params.idleFloorMargin)) := by
    rcases le_total (tick.smoothed gpu) 0 with negative | positive
    · exact negative.trans (floor.trans (le_max_left _ _))
    · refine le_trans ?_ (le_max_right _ _)
      exact le_mul_of_one_le_right positive (le_add_of_nonneg_right margin)
  exact le_min ((min_le_right _ _).trans buffered) (min_le_left _ _)

/-- With a threshold that is not negative a hot GPU has no negative smoothed draw. -/
theorem smoothed_nonneg_of_threshold (threshold : 0 ≤ tick.params.reclaimThreshold)
    (isHot : gpu ∈ tick.hot) : 0 ≤ tick.smoothed gpu := by
  obtain ⟨capPos, ratio⟩ := of_decide_eq_true (List.mem_filter.mp isHot).2
  have scaled := (le_div_iff₀ capPos).mp ratio
  exact (mul_nonneg threshold capPos.le).trans scaled

/-- With the limiter off the caps are the targets. -/
theorem get?_caps_of_unlimited (unlimited : tick.params.capRaiseRateWPerTick = 0)
    (present : gpu ∈ tick.gpus) : tick.caps.get? gpu = some (tick.target gpu) := by
  obtain ⟨watts, decided⟩ := Dict.mem_keys_iff.mp (mem_keys_caps.mpr present)
  have off : tick.caps = tick.targets := by
    rw [caps, if_neg (by rw [unlimited]; exact lt_irrefl 0)]
  have asked : tick.targets.get? gpu = some watts := off ▸ decided
  rw [decided, get?_targets asked]

/-- Every GPU of a tick has a smoothed draw. -/
theorem smoothed_stored (brain : PRSBrain) (budget : ℚ) (domainName : String)
    {state : DomainState} (present : gpu ∈ state.gpuDraws.keys) :
    (brain.tick budget domainName state).ewma.get? gpu =
      some ((brain.tick budget domainName state).smoothed gpu) := by
  obtain ⟨draw, reported⟩ := Dict.mem_keys_iff.mp present
  have stored : ∃ value, (brain.tick budget domainName state).ewma.get? gpu = some value := by
    rw [PRSBrain.tick, get?_updateEwma, reported]
    exact ⟨_, rfl⟩
  obtain ⟨value, found⟩ := stored
  rw [smoothed, Dict.getD_of_some found]
  exact found

end Tick

/-! ### Every reachable brain -/

/-- **PRS never throttles below the smoothed demand when it fits.** From every reachable brain with
the raise limiter off, if the idle caps and the smoothed draws of the hot GPUs fit the budget, every
GPU gets at least the smaller of its hardware maximum and its smoothed draw. Draws are non-negative
throughout; where the threshold is not negative, those of the history may be anything. -/
theorem prs_cap_ge_demand {admits : DomainState → Prop} {params : PRSParams}
    {brain next : PRSBrain} (reachable : PRSBrain.ReachableOn admits params brain)
    (history : (∀ past, admits past → DrawsNonneg past) ∨ 0 ≤ params.reclaimThreshold)
    (unlimited : params.capRaiseRateWPerTick = 0) (margin : 0 ≤ params.idleFloorMargin)
    (floor : 0 ≤ params.minCapW) {topology : PDNTopology} {domainName : String}
    {state : DomainState} {decision : BrainDecision} {budget : ℚ} (draws : DrawsNonneg state)
    (known : ∀ gpu ∈ state.gpuDraws.keys, gpu ∈ state.gpuMaxCaps.keys)
    (answer : topology.domainBudgetW domainName = .ok budget)
    (call : brain.decide topology domainName state = .ok (decision, next))
    (fits : (brain.tick budget domainName state).idleTotal +
      (brain.tick budget domainName state).totalHotEwma ≤ budget) :
    ∀ gpu ∈ state.gpuDraws.keys, ∃ hwMax smoothed cap,
      state.gpuMaxCaps.get? gpu = some hwMax ∧
      (next.ewma.getD domainName .empty).get? gpu = some smoothed ∧
      decision.caps.get? gpu = some cap ∧ min hwMax smoothed ≤ cap := by
  intro gpu present
  obtain ⟨caps, _, ewma, _⟩ := PRSBrain.decide_ok answer call
  have sameParams : (brain.tick budget domainName state).params = params :=
    reachable.reachable.params_eq
  obtain ⟨hwMax, maximum⟩ := Dict.mem_keys_iff.mp (known gpu present)
  have stored := Tick.smoothed_stored brain budget domainName present
  have ceiling : (brain.tick budget domainName state).hwMax gpu = hwMax := by
    have reported : (brain.tick budget domainName state).state.gpuMaxCaps.get? gpu = some hwMax :=
      maximum
    rw [Tick.hwMax, Dict.getD_of_some reported]
  refine ⟨hwMax, (brain.tick budget domainName state).smoothed gpu,
    (brain.tick budget domainName state).target gpu, maximum, ?_, ?_, ?_⟩
  · rw [ewma, Dict.getD_set_self]
    exact stored
  · rw [caps]
    exact Tick.get?_caps_of_unlimited (sameParams ▸ unlimited) present
  · rw [← ceiling, Tick.target]
    split
    · next hot =>
      refine Tick.hotCap_ge_demand (sameParams ▸ floor) (fun other isHot => ?_) fits
        (List.mem_filter.mpr ⟨present, hot⟩)
      rcases history with nonneg | threshold
      · have otherStored := Tick.smoothed_stored brain budget domainName
          (List.mem_of_mem_filter isHot)
        exact updateEwma_nonneg (reachable.ewma_nonneg nonneg domainName) draws other _ otherStored
      · exact Tick.smoothed_nonneg_of_threshold (sameParams ▸ threshold) isHot
    · exact Tick.idleFloor_ge_demand (sameParams ▸ floor) (sameParams ▸ margin)

/-! ### A hot and an idle GPU with room for both -/

def roomyState : DomainState where
  domainName := "domain-0"
  gpuDraws := .ofList [(0, 400), (1, 50)]
  gpuCaps := .ofList [(0, 500), (1, 500)]
  gpuMaxCaps := .ofList [(0, 700), (1, 700)]
  ts := 0

/-- Of 1000 W the idle GPU takes 200, and the hot one, which draws 400, may rise to its maximum. -/
theorem prs_cap_ge_demand_roomy :
    ∃ decision next,
      PRSBrain.decide { params := defaultParams } skewedTopology "domain-0" roomyState =
          .ok (decision, next) ∧
        ∀ gpu ∈ roomyState.gpuDraws.keys, ∃ hwMax smoothed cap,
          roomyState.gpuMaxCaps.get? gpu = some hwMax ∧
          (next.ewma.getD "domain-0" .empty).get? gpu = some smoothed ∧
          decision.caps.get? gpu = some cap ∧ min hwMax smoothed ≤ cap := by
  obtain ⟨decision, next, call⟩ :=
    PRSBrain.decide_isOk { params := defaultParams } roomyState domainBudgetW_skewed
  have items : roomyState.gpuDraws.items = [(0, 400), (1, 50)] := by decide +kernel
  have draws : DrawsNonneg roomyState := by
    intro gpu draw found
    have member := Dict.get?_eq_some_iff.mp found
    rw [items] at member
    simp only [List.mem_cons, Prod.mk.injEq, List.not_mem_nil, or_false] at member
    rcases member with ⟨_, rfl⟩ | ⟨_, rfl⟩ <;> norm_num
  have fresh : PRSBrain.ReachableOn DrawsNonneg defaultParams { params := defaultParams } := .init
  exact ⟨decision, next, call, prs_cap_ge_demand fresh (.inl fun _ nonneg => nonneg) rfl
    (by decide +kernel) (by decide +kernel) draws (by decide +kernel) domainBudgetW_skewed call
    (by decide +kernel)⟩

end Opendps.Brain
