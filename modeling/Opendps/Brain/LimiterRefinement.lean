/-
**The raise limiter only withholds.**

Two brains that differ in the rate only, one with a limiter and one without, are given the same
telemetry. Nothing that is blended or classified reads the caps a brain remembers, so the two stay in
step: the same smoothed draws, the same hot and idle GPUs, the same targets (`Tick.target_congr`). The
limited caps are the targets held back.

What is held back is measured against the caps of the limited brain's last decision for the domain. A
`RecordedRun` keeps these decisions next to the brain, as its caller sees them; that the brain remembers
just them (`InStep.remembers`) makes the comparison one about what was decided, and no more about the
memory of the brain.
-/

import Opendps.Brain.PrsDemand
import Opendps.Lib.Run

namespace Opendps.Brain

open Opendps.Lib Opendps.Pdn

/-- The same parameters with another rate. -/
def PRSParams.withRate (params : PRSParams) (rate : ℚ) (nonneg : 0 ≤ rate) : PRSParams :=
  { params with capRaiseRateWPerTick := rate, rate_nonneg := nonneg }

/-! ### One tick of both -/

namespace Tick

/-- Two ticks with the same demand: they may differ in the rate and in the remembered caps. -/
structure SameDemand (first second : Tick) : Prop where
  minCapW : first.params.minCapW = second.params.minCapW
  threshold : first.params.reclaimThreshold = second.params.reclaimThreshold
  margin : first.params.idleFloorMargin = second.params.idleFloorMargin
  budget : first.budget = second.budget
  state : first.state = second.state
  ewma : first.ewma = second.ewma

variable {first second : Tick}

/-- The classification reads neither the rate nor the remembered caps. -/
theorem isHot_congr (same : SameDemand first second) : first.isHot = second.isHot := by
  funext gpu
  unfold isHot smoothed fallbackMax gpus
  rw [same.threshold, same.budget, same.state, same.ewma]

theorem hot_congr (same : SameDemand first second) : first.hot = second.hot := by
  unfold hot gpus
  rw [isHot_congr same, same.state]

theorem idle_congr (same : SameDemand first second) : first.idle = second.idle := by
  unfold idle gpus
  rw [isHot_congr same, same.state]

theorem hwMax_congr (same : SameDemand first second) : first.hwMax = second.hwMax := by
  funext gpu
  unfold hwMax fallbackMax gpus
  rw [same.budget, same.state]

theorem smoothed_congr (same : SameDemand first second) : first.smoothed = second.smoothed := by
  funext gpu
  unfold smoothed
  rw [same.ewma]

theorem idleFloor_congr (same : SameDemand first second) : first.idleFloor = second.idleFloor := by
  funext gpu
  unfold idleFloor
  rw [same.minCapW, same.margin, smoothed_congr same, hwMax_congr same]

theorem hotCap_congr (same : SameDemand first second) : first.hotCap = second.hotCap := by
  funext gpu
  unfold hotCap raw hotBudget totalHotEwma idleTotal idleCaps
  rw [same.minCapW, same.budget, smoothed_congr same, hwMax_congr same, hot_congr same,
    idle_congr same, idleFloor_congr same]

/-- Neither does what a tick asks for. -/
theorem target_congr (same : SameDemand first second) : first.target = second.target := by
  funext gpu
  unfold target
  rw [isHot_congr same, hotCap_congr same, idleFloor_congr same]

/-- A limited cap is the target, or the baseline plus the rate where that is less. -/
theorem limited_le_target {tick : Tick} (limited : 0 < tick.params.capRaiseRateWPerTick)
    {gpu : GpuIndex} {cap : ℚ} (decided : tick.caps.get? gpu = some cap) :
    cap ≤ tick.target gpu ∧
      ∀ previous, tick.baseline gpu = some previous → tick.target gpu ≤ previous →
        cap = tick.target gpu := by
  rw [get?_caps limited decided]
  cases start : tick.baseline gpu with
  | none =>
    refine ⟨?_, fun previous found => nomatch found⟩
    unfold limitRaise
    rw [start]
  | some previous =>
    rw [limitRaise_of_baseline start]
    refine ⟨min_le_left _ _, fun other found lowering => ?_⟩
    cases found
    exact min_eq_left (lowering.trans (le_add_of_nonneg_right limited.le))

end Tick

/-! ### Runs -/

/-- What one tick of a controller hands to a brain. -/
structure DomainTick where
  topology : PDNTopology
  domainName : String
  state : DomainState

/-- A brain, and the caps of its last decision for each domain. -/
structure RecordedRun where
  brain : PRSBrain
  decided : Dict String (Dict GpuIndex ℚ)

namespace RecordedRun

/-- A new brain, which has decided nothing. -/
def start (params : PRSParams) : RecordedRun where
  brain := { params := params }
  decided := .empty

/-- One tick; one that raises leaves everything as it is. -/
def step (current : RecordedRun) (tick : DomainTick) : RecordedRun :=
  match current.brain.decide tick.topology tick.domainName tick.state with
  | .ok (decision, next) =>
    { brain := next, decided := current.decided.set tick.domainName decision.caps }
  | .error _ => current

/-- The cap decided for a GPU at the last tick of its domain, or the reported one if it had none. -/
def previousCap (current : RecordedRun) (tick : DomainTick) (gpu : GpuIndex) : Option ℚ :=
  ((current.decided.getD tick.domainName .empty).get? gpu).or (tick.state.gpuCaps.get? gpu)

theorem step_of_error {current : RecordedRun} {tick : DomainTick} {exc : PyError}
    (answer : tick.topology.domainBudgetW tick.domainName = .error exc) :
    current.step tick = current := by
  simp only [step, current.brain.decide_error tick.state answer]

theorem step_of_ok {current : RecordedRun} {tick : DomainTick} {decision : BrainDecision}
    {next : PRSBrain}
    (call : current.brain.decide tick.topology tick.domainName tick.state = .ok (decision, next)) :
    current.step tick =
      { brain := next, decided := current.decided.set tick.domainName decision.caps } := by
  simp only [step, call]

/-- The two brains of a comparison: they blend alike, and the limited one remembers what it decided. -/
structure InStep (params : PRSParams) (rate : ℚ) (nonneg : 0 ≤ rate)
    (limited unlimited : RecordedRun) : Prop where
  limitedParams : limited.brain.params = params.withRate rate nonneg
  unlimitedParams : unlimited.brain.params = params.withRate 0 le_rfl
  ewma : limited.brain.ewma = unlimited.brain.ewma
  remembers : limited.brain.lastCaps = limited.decided

section Comparison

variable {params : PRSParams} {rate : ℚ} {nonneg : 0 ≤ rate} {limited unlimited : RecordedRun}

/-- At a tick the two have the same demand. -/
theorem InStep.sameDemand (inStep : InStep params rate nonneg limited unlimited) (budget : ℚ)
    (domainName : String) (state : DomainState) :
    Tick.SameDemand (limited.brain.tick budget domainName state)
      (unlimited.brain.tick budget domainName state) := by
  have first := inStep.limitedParams
  have second := inStep.unlimitedParams
  refine ⟨?_, ?_, ?_, rfl, rfl, ?_⟩
  · show limited.brain.params.minCapW = unlimited.brain.params.minCapW
    rw [first, second]
    rfl
  · show limited.brain.params.reclaimThreshold = unlimited.brain.params.reclaimThreshold
    rw [first, second]
    rfl
  · show limited.brain.params.idleFloorMargin = unlimited.brain.params.idleFloorMargin
    rw [first, second]
    rfl
  · unfold PRSBrain.tick
    rw [first, second, inStep.ewma]
    rfl

/-- **One tick keeps the two in step.** -/
theorem InStep.tick (inStep : InStep params rate nonneg limited unlimited) (tick : DomainTick) :
    InStep params rate nonneg (limited.step tick) (unlimited.step tick) := by
  cases answer : tick.topology.domainBudgetW tick.domainName with
  | error exc =>
    rw [step_of_error answer, step_of_error answer]
    exact inStep
  | ok budget =>
    obtain ⟨decision, next, call⟩ := limited.brain.decide_isOk tick.state answer
    obtain ⟨other, otherNext, otherCall⟩ := unlimited.brain.decide_isOk tick.state answer
    obtain ⟨caps, sameParams, ewma, lastCaps⟩ := PRSBrain.decide_ok answer call
    obtain ⟨_, otherParams, otherEwma, _⟩ := PRSBrain.decide_ok answer otherCall
    rw [step_of_ok call, step_of_ok otherCall]
    refine ⟨sameParams.trans inStep.limitedParams, otherParams.trans inStep.unlimitedParams,
      ?_, ?_⟩
    · show next.ewma = otherNext.ewma
      rw [ewma, otherEwma, inStep.ewma, (inStep.sameDemand budget tick.domainName tick.state).ewma]
    · show next.lastCaps = limited.decided.set tick.domainName decision.caps
      rw [lastCaps, inStep.remembers, caps]

theorem inStep_run (params : PRSParams) {rate : ℚ} (nonneg : 0 ≤ rate) (ticks : List DomainTick) :
    InStep params rate nonneg (run step (start (params.withRate rate nonneg)) ticks)
      (run step (start (params.withRate 0 le_rfl)) ticks) :=
  run_related _ ⟨rfl, rfl, rfl, rfl⟩ (fun _ _ tick inStep => inStep.tick tick) ticks

/-- What the last decision for a domain says about a GPU is what its brain remembers. -/
theorem InStep.baseline_eq (inStep : InStep params rate nonneg limited unlimited) (budget : ℚ)
    (tick : DomainTick) (gpu : GpuIndex) :
    (limited.brain.tick budget tick.domainName tick.state).baseline gpu =
      limited.previousCap tick gpu := by
  unfold Tick.baseline PRSBrain.tick previousCap
  rw [inStep.remembers]

end Comparison

/-- **The raise limiter only ever withholds power.** Two brains with the same parameters but for the
rate, one positive and one zero, are given the same ticks, over any topologies, domains and GPUs. At the
next tick they hold the same smoothed draws and the same classification, and every GPU gets at most the
cap the unlimited brain gives it, and the same one where that is not above the limited brain's previous
cap for it, or above the reported one if it had none at the last tick of its domain. -/
theorem limiter_only_withholds (params : PRSParams) {rate : ℚ} (positive : 0 < rate)
    (ticks : List DomainTick) (tick : DomainTick) {budget : ℚ}
    (answer : tick.topology.domainBudgetW tick.domainName = .ok budget) :
    let limited := run step (start (params.withRate rate positive.le)) ticks
    let unlimited := run step (start (params.withRate 0 le_rfl)) ticks
    ∃ decision next free freeNext,
      limited.brain.decide tick.topology tick.domainName tick.state = .ok (decision, next) ∧
        unlimited.brain.decide tick.topology tick.domainName tick.state = .ok (free, freeNext) ∧
        next.ewma = freeNext.ewma ∧
        (∃ metrics freeMetrics, next.getLastMetrics tick.domainName = some metrics ∧
          freeNext.getLastMetrics tick.domainName = some freeMetrics ∧
          metrics.hotGpus = freeMetrics.hotGpus ∧ metrics.idleGpus = freeMetrics.idleGpus) ∧
        ∀ gpu ∈ tick.state.gpuDraws.keys, ∃ cap freeCap, decision.caps.get? gpu = some cap ∧
          free.caps.get? gpu = some freeCap ∧ cap ≤ freeCap ∧
          ∀ previous, limited.previousCap tick gpu = some previous → freeCap ≤ previous →
            cap = freeCap := by
  intro limited unlimited
  have inStep : InStep params rate positive.le limited unlimited := inStep_run params positive.le ticks
  have same := inStep.sameDemand budget tick.domainName tick.state
  obtain ⟨decision, next, call⟩ := limited.brain.decide_isOk tick.state answer
  obtain ⟨free, freeNext, freeCall⟩ := unlimited.brain.decide_isOk tick.state answer
  have blended := (inStep.tick tick).ewma
  rw [step_of_ok call, step_of_ok freeCall] at blended
  refine ⟨decision, next, free, freeNext, call, freeCall, blended,
    ⟨_, _, PRSBrain.getLastMetrics_of_decide answer call,
      PRSBrain.getLastMetrics_of_decide answer freeCall, Tick.hot_congr same,
      Tick.idle_congr same⟩, fun gpu present => ?_⟩
  obtain ⟨cap, decided⟩ := Dict.mem_keys_iff.mp (Tick.mem_keys_caps.mpr
    (show gpu ∈ (limited.brain.tick budget tick.domainName tick.state).gpus from present))
  have limitedRate :
      0 < (limited.brain.tick budget tick.domainName tick.state).params.capRaiseRateWPerTick := by
    show 0 < limited.brain.params.capRaiseRateWPerTick
    rw [inStep.limitedParams]
    exact positive
  have unlimitedRate :
      (unlimited.brain.tick budget tick.domainName tick.state).params.capRaiseRateWPerTick = 0 := by
    show unlimited.brain.params.capRaiseRateWPerTick = 0
    rw [inStep.unlimitedParams]
    rfl
  have freeDecided := Tick.get?_caps_of_unlimited unlimitedRate
    (show gpu ∈ (unlimited.brain.tick budget tick.domainName tick.state).gpus from present)
  obtain ⟨below, lowering⟩ := Tick.limited_le_target limitedRate decided
  rw [Tick.target_congr same] at below lowering
  refine ⟨cap, _, (PRSBrain.decide_ok answer call).1 ▸ decided,
    (PRSBrain.decide_ok answer freeCall).1 ▸ freeDecided, below, fun previous known => ?_⟩
  exact lowering previous ((inStep.baseline_eq budget tick gpu).trans known)

/-! ### A load that goes away

GPU 0 runs at its cap of 500 W and then draws nothing. -/

def loadedTick : DomainTick := ⟨skewedTopology, "domain-0", atCapState⟩

def unloadedTick : DomainTick where
  topology := skewedTopology
  domainName := "domain-0"
  state :=
    { domainName := "domain-0"
      gpuDraws := .ofList [(0, 0), (1, 100)]
      gpuCaps := .ofList [(0, 500), (1, 500)]
      gpuMaxCaps := .ofList [(0, 500), (1, 500)]
      ts := 1 }

/-- With a rate of 50 W the cap of GPU 0 goes down as far as without a limiter. -/
theorem limiter_only_withholds_unloaded :
    ∃ rate : ℚ, ∃ nonneg : 0 ≤ rate, ∃ decision next free freeNext cap freeCap,
      (run step (start (defaultParams.withRate rate nonneg)) [loadedTick]).brain.decide
          skewedTopology "domain-0" unloadedTick.state = .ok (decision, next) ∧
        (run step (start (defaultParams.withRate 0 le_rfl)) [loadedTick]).brain.decide
          skewedTopology "domain-0" unloadedTick.state = .ok (free, freeNext) ∧
        decision.caps.get? 0 = some cap ∧ free.caps.get? 0 = some freeCap ∧ cap ≤ freeCap := by
  have positive : (0 : ℚ) < 50 := by norm_num
  have present : 0 ∈ unloadedTick.state.gpuDraws.keys := by decide +kernel
  obtain ⟨decision, next, free, freeNext, call, freeCall, _, _, every⟩ :=
    limiter_only_withholds defaultParams positive [loadedTick] unloadedTick domainBudgetW_skewed
  obtain ⟨cap, freeCap, decided, freeDecided, below, _⟩ := every 0 present
  exact ⟨50, positive.le, decision, next, free, freeNext, cap, freeCap, call, freeCall, decided,
    freeDecided, below⟩

end RecordedRun

end Opendps.Brain
