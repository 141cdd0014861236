/-
**The Power Reclaim Service brain.**

`PRSBrain` keeps, for each domain, the smoothed draw of every GPU it has seen and the caps of the
last tick. One call of `decide`

1. blends the reported draws into the smoothed ones (`updateEwma`),
2. splits the GPUs into hot and idle (`Tick.isHot`),
3. gives every idle GPU its floor (`Tick.idleFloor`),
4. splits what the floors leave of the budget among the hot GPUs in proportion to their smoothed
   draw, each share cut at the hardware maximum and raised to `min_cap_w` (`Tick.hotCap`),
5. limits how far a cap may rise above the one applied last (`Tick.limitRaise`).

Everything after the blend is a function of one record, `Tick`: the parameters, the budget, the
telemetry, the blended table and the last caps. The brain reads its topology at the start of each
call only, so a call takes the topology as it is at that moment.

`PRSBrain.Reachable` is the set of brains that any sequence of `decide`, `note_applied_caps` and
`reset_ewma` calls can produce, over any topologies and any telemetry.
-/

import Opendps.Brain.Dpm
import Opendps.Lib.Repr
import Opendps.Lib.Shares

namespace Opendps.Brain

open Opendps.Lib Opendps.Pdn

/-- The parameters a constructed brain has; the two range checks of the constructor are fields. -/
structure PRSParams where
  minCapW : ℚ
  ewmaAlpha : ℚ
  reclaimThreshold : ℚ
  idleFloorMargin : ℚ
  capRaiseRateWPerTick : ℚ
  alpha_pos : 0 < ewmaAlpha
  alpha_le_one : ewmaAlpha ≤ 1
  rate_nonneg : 0 ≤ capRaiseRateWPerTick

/-- Per-tick diagnostics produced alongside a decision. -/
structure PRSMetrics where
  hotGpus : List GpuIndex
  idleGpus : List GpuIndex
  idleStrandedW : ℚ
  domainDrawW : ℚ
  domainCapW : ℚ
  ewmaDraws : Dict GpuIndex ℚ

/-- A brain: its parameters and, per domain, the smoothed draws, the last caps, the last metrics. -/
structure PRSBrain where
  params : PRSParams
  ewma : Dict String (Dict GpuIndex ℚ) := .empty
  lastCaps : Dict String (Dict GpuIndex ℚ) := .empty
  lastMetrics : Dict String PRSMetrics := .empty

/-- The constructor, with its default arguments. -/
def PRSBrain.init (minCapW : ℚ := 200) (ewmaAlpha : ℚ := 3 / 10) (reclaimThreshold : ℚ := 6 / 10)
    (idleFloorMargin : ℚ := 3 / 10) (capRaiseRateWPerTick : ℚ := 0) : Except PyError PRSBrain :=
  if alpha : 0 < ewmaAlpha ∧ ewmaAlpha ≤ 1 then
    if rate : 0 ≤ capRaiseRateWPerTick then
      .ok { params := ⟨minCapW, ewmaAlpha, reclaimThreshold, idleFloorMargin,
              capRaiseRateWPerTick, alpha.1, alpha.2, rate⟩ }
    else .error (.valueError "cap_raise_rate_w_per_tick must be >= 0")
  else .error (.valueError ("ewma_alpha must be in (0, 1], got " ++ (PyFloat.finite ewmaAlpha).repr))

/-- The default parameters of the constructor. -/
def defaultParams : PRSParams :=
  ⟨200, 3 / 10, 6 / 10, 3 / 10, 0, by norm_num, by norm_num, le_rfl⟩

/-! ### The blend -/

/-- One blend of a reported draw into a smoothed one. -/
def blend (alpha draw previous : ℚ) : ℚ := alpha * draw + (1 - alpha) * previous

/-- A converged draw stays what it is. -/
theorem blend_self (alpha draw : ℚ) : blend alpha draw draw = draw := by
  unfold blend
  ring

/-- Blend every reported draw; a GPU seen for the first time starts at its draw. -/
def updateEwma (alpha : ℚ) (ewma draws : Dict GpuIndex ℚ) : Dict GpuIndex ℚ :=
  draws.items.foldl
    (fun table item => table.set item.1 (blend alpha item.2 (table.getD item.1 item.2))) ewma

/-- What the blend stores: for a GPU with a draw the blended one, for any other what was there. -/
theorem get?_updateEwma (alpha : ℚ) (ewma draws : Dict GpuIndex ℚ) (gpu : GpuIndex) :
    (updateEwma alpha ewma draws).get? gpu =
      ((draws.get? gpu).map fun draw => blend alpha draw (ewma.getD gpu draw)).or
        (ewma.get? gpu) := by
  have loop : updateEwma alpha ewma draws = Dict.storeEach Prod.fst
      (fun item stored => blend alpha item.2 (stored.getD item.2)) draws.items ewma := rfl
  rw [loop]
  cases reported : draws.get? gpu with
  | none => exact Dict.get?_storeEach_of_not_mem _ _ ewma (Dict.get?_eq_none_iff.mp reported)
  | some draw =>
    exact Dict.get?_storeEach_of_mem _ _ draws.nodup ewma (Dict.get?_eq_some_iff.mp reported)

/-! ### One tick after the blend -/

/-- Everything a decision depends on once the draws are blended. -/
structure Tick where
  params : PRSParams
  budget : ℚ
  state : DomainState
  ewma : Dict GpuIndex ℚ
  last : Dict GpuIndex ℚ

namespace Tick

/-- The GPUs that reported a draw, in order. -/
def gpus (tick : Tick) : List GpuIndex := tick.state.gpuDraws.keys

/-- An equal part of the budget, used where a cap or a maximum is not reported. -/
def fallbackMax (tick : Tick) : ℚ := tick.budget / (max tick.gpus.length 1 : ℕ)

/-- The smoothed draw of a GPU. The blend has stored one for every GPU of the tick. -/
def smoothed (tick : Tick) (gpu : GpuIndex) : ℚ := tick.ewma.getD gpu 0

/-- Hot: the smoothed draw is at least the threshold's part of the current cap. -/
def isHot (tick : Tick) (gpu : GpuIndex) : Bool :=
  let cap := tick.state.gpuCaps.getD gpu tick.fallbackMax
  decide (0 < cap ∧ tick.params.reclaimThreshold ≤ tick.smoothed gpu / cap)

def hot (tick : Tick) : List GpuIndex := tick.gpus.filter tick.isHot

def idle (tick : Tick) : List GpuIndex := tick.gpus.filter fun gpu => !tick.isHot gpu

/-- The hardware maximum, or the reported cap, or an equal part of the budget. -/
def hwMax (tick : Tick) (gpu : GpuIndex) : ℚ :=
  tick.state.gpuMaxCaps.getD gpu (tick.state.gpuCaps.getD gpu tick.fallbackMax)

/-- The cap of an idle GPU: its smoothed draw with a margin, at least `min_cap_w`, at most the
hardware maximum. -/
def idleFloor (tick : Tick) (gpu : GpuIndex) : ℚ :=
  min (max tick.params.minCapW (tick.smoothed gpu * (1 + tick.params.idleFloorMargin)))
    (tick.hwMax gpu)

def idleCaps (tick : Tick) : Dict GpuIndex ℚ := .ofKeys tick.idle tick.idleFloor

def idleTotal (tick : Tick) : ℚ := tick.idleCaps.values.sum

/-- What the idle floors leave of the budget. -/
def hotBudget (tick : Tick) : ℚ := max 0 (tick.budget - tick.idleTotal)

def totalHotEwma (tick : Tick) : ℚ := (tick.hot.map tick.smoothed).sum

/-- The proportional part of the hot budget a hot GPU is due before any clamp. -/
def raw (tick : Tick) (gpu : GpuIndex) : ℚ :=
  share tick.totalHotEwma tick.hot.length (tick.smoothed gpu) * tick.hotBudget

/-- The cap of a hot GPU: cut at the hardware maximum, then raised to `min_cap_w`. -/
def hotCap (tick : Tick) (gpu : GpuIndex) : ℚ :=
  clamp tick.params.minCapW (tick.hwMax gpu) (tick.raw gpu)

def hotCaps (tick : Tick) : Dict GpuIndex ℚ := .ofKeys tick.hot tick.hotCap

/-- The caps before the raise limiter. -/
def targets (tick : Tick) : Dict GpuIndex ℚ := tick.idleCaps.update tick.hotCaps

/-- The cap a raise is measured from: the one applied last, else the one reported. -/
def baseline (tick : Tick) (gpu : GpuIndex) : Option ℚ :=
  (tick.last.get? gpu).or (tick.state.gpuCaps.get? gpu)

/-- A raise is limited to the configured rate, a lowering is immediate. -/
def limitRaise (tick : Tick) (gpu : GpuIndex) (target : ℚ) : ℚ :=
  match tick.baseline gpu with
  | none => target
  | some previous =>
    if previous < target then min target (previous + tick.params.capRaiseRateWPerTick) else target

/-- The caps returned. A rate of zero switches the limiter off. -/
def caps (tick : Tick) : Dict GpuIndex ℚ :=
  if 0 < tick.params.capRaiseRateWPerTick then tick.targets.mapVals tick.limitRaise
  else tick.targets

def metrics (tick : Tick) : PRSMetrics where
  hotGpus := tick.hot
  idleGpus := tick.idle
  idleStrandedW := max 0
    (tick.idle.map fun gpu => tick.caps.getD gpu 0 - tick.state.gpuDraws.getD gpu 0).sum
  domainDrawW := tick.state.gpuDraws.values.sum
  domainCapW := tick.caps.values.sum
  ewmaDraws := tick.ewma

def reason (tick : Tick) : String :=
  "prs:hot=" ++ toString tick.hot.length ++ ",idle=" ++ toString tick.idle.length ++
    ",stranded=" ++ formatFixed0 tick.metrics.idleStrandedW ++ "W"

/-- With a baseline, a limited target is the smaller of the target and the baseline plus the rate. -/
theorem limitRaise_of_baseline {tick : Tick} {gpu : GpuIndex} {previous : ℚ}
    (baseline : tick.baseline gpu = some previous) (target : ℚ) :
    tick.limitRaise gpu target = min target (previous + tick.params.capRaiseRateWPerTick) := by
  have rate := tick.params.rate_nonneg
  simp only [limitRaise, baseline]
  split
  · rfl
  · next lowering =>
    exact (min_eq_left (by linarith)).symm

/-! ### The caps as two lists -/

theorem idle_nodup (tick : Tick) : tick.idle.Nodup :=
  tick.state.gpuDraws.keys_nodup.filter _

theorem hot_nodup (tick : Tick) : tick.hot.Nodup :=
  tick.state.gpuDraws.keys_nodup.filter _

theorem not_mem_idle_of_mem_hot {tick : Tick} {gpu : GpuIndex} (isHot : gpu ∈ tick.hot) :
    gpu ∉ tick.idle := by
  intro isIdle
  have yes := (List.mem_filter.mp isHot).2
  have no := (List.mem_filter.mp isIdle).2
  rw [yes] at no
  cases no

theorem idleTotal_eq (tick : Tick) : tick.idleTotal = (tick.idle.map tick.idleFloor).sum := by
  rw [idleTotal, idleCaps, Dict.values_ofKeys tick.idle_nodup]

/-- The targets: the idle floors, then the hot caps. -/
theorem items_targets (tick : Tick) :
    tick.targets.items = (tick.idle.map fun gpu => (gpu, tick.idleFloor gpu)) ++
      tick.hot.map fun gpu => (gpu, tick.hotCap gpu) := by
  unfold targets
  rw [Dict.items_update_of_disjoint]
  · rw [idleCaps, hotCaps, Dict.items_ofKeys tick.idle_nodup, Dict.items_ofKeys tick.hot_nodup]
  · intro gpu member
    rw [hotCaps, Dict.keys_ofKeys tick.hot_nodup] at member
    rw [idleCaps, Dict.keys_ofKeys tick.idle_nodup]
    exact not_mem_idle_of_mem_hot member

/-- Every GPU that reported a draw gets a cap, and no other. -/
theorem mem_keys_caps {tick : Tick} {gpu : GpuIndex} : gpu ∈ tick.caps.keys ↔ gpu ∈ tick.gpus := by
  have targets : gpu ∈ tick.targets.keys ↔ gpu ∈ tick.gpus := by
    rw [Dict.keys, items_targets, List.map_append, List.map_map, List.map_map, List.mem_append]
    simp only [List.mem_map, Function.comp_apply, exists_eq_right, idle, hot, List.mem_filter]
    cases tick.isHot gpu <;> simp
  unfold caps
  split
  · rw [Dict.keys_mapVals]
    exact targets
  · exact targets

end Tick

/-! ### The calls -/

namespace PRSBrain

/-- The tick a call of `decide` works on. -/
def tick (brain : PRSBrain) (budget : ℚ) (domainName : String) (state : DomainState) : Tick where
  params := brain.params
  budget := budget
  state := state
  ewma := updateEwma brain.params.ewmaAlpha (brain.ewma.getD domainName .empty) state.gpuDraws
  last := brain.lastCaps.getD domainName .empty

/-- Compute new caps for all GPUs of a domain. -/
def decide (brain : PRSBrain) (topology : PDNTopology) (domainName : String)
    (state : DomainState) : Except PyError (BrainDecision × PRSBrain) := do
  let budget ← topology.domainBudgetW domainName
  let tick := brain.tick budget domainName state
  let decision : BrainDecision :=
    { domain := domainName, caps := tick.caps, ts := state.ts, reason := tick.reason }
  pure (decision, { brain with
    ewma := brain.ewma.set domainName tick.ewma
    lastCaps := brain.lastCaps.set domainName tick.caps
    lastMetrics := brain.lastMetrics.set domainName tick.metrics })

/-- Record the caps a wrapping brain actually applied. -/
def noteAppliedCaps (brain : PRSBrain) (domainName : String) (caps : Dict GpuIndex ℚ) : PRSBrain :=
  { brain with lastCaps := brain.lastCaps.set domainName caps }

/-- The diagnostics of the last decision for a domain. -/
def getLastMetrics (brain : PRSBrain) (domainName : String) : Option PRSMetrics :=
  brain.lastMetrics.get? domainName

/-- Forget the smoothed draws of one domain, or of all. -/
def resetEwma (brain : PRSBrain) : Option String → PRSBrain
  | none => { brain with ewma := .empty, lastCaps := .empty, lastMetrics := .empty }
  | some domainName =>
    { brain with
      ewma := brain.ewma.pop domainName
      lastCaps := brain.lastCaps.pop domainName
      lastMetrics := brain.lastMetrics.pop domainName }

/-- The brains some sequence of calls produces from a constructed one. -/
inductive Reachable (params : PRSParams) : PRSBrain → Prop
  | init : Reachable params { params := params }
  | decide {brain next : PRSBrain} {topology : PDNTopology} {domainName : String}
      {state : DomainState} {decision : BrainDecision} (before : Reachable params brain)
      (call : brain.decide topology domainName state = .ok (decision, next)) :
      Reachable params next
  | noteAppliedCaps {brain : PRSBrain} (domainName : String) (caps : Dict GpuIndex ℚ)
      (before : Reachable params brain) : Reachable params (brain.noteAppliedCaps domainName caps)
  | resetEwma {brain : PRSBrain} (domainName : Option String) (before : Reachable params brain) :
      Reachable params (brain.resetEwma domainName)

/-- A call raises nothing when the domain has a budget. -/
theorem decide_isOk (brain : PRSBrain) {topology : PDNTopology} {domainName : String}
    (state : DomainState) {budget : ℚ} (answer : topology.domainBudgetW domainName = .ok budget) :
    ∃ decision next, brain.decide topology domainName state = .ok (decision, next) := by
  unfold PRSBrain.decide
  rw [answer]
  exact ⟨_, _, rfl⟩

/-- A call raises what the topology raises. -/
theorem decide_error (brain : PRSBrain) {topology : PDNTopology} {domainName : String}
    (state : DomainState) {exc : PyError} (answer : topology.domainBudgetW domainName = .error exc) :
    brain.decide topology domainName state = .error exc := by
  unfold PRSBrain.decide
  rw [answer]
  rfl

/-- A call that returns has asked for the budget. -/
theorem budget_of_decide {brain next : PRSBrain} {topology : PDNTopology} {domainName : String}
    {state : DomainState} {decision : BrainDecision}
    (call : brain.decide topology domainName state = .ok (decision, next)) :
    ∃ budget, topology.domainBudgetW domainName = .ok budget := by
  cases answer : topology.domainBudgetW domainName with
  | ok budget => exact ⟨budget, rfl⟩
  | error exc => cases (brain.decide_error state answer).symm.trans call

/-- What a call of `decide` does: with the budget the topology answers, it returns the caps of its
tick and stores the tick's tables. -/
theorem decide_ok {brain next : PRSBrain} {topology : PDNTopology} {domainName : String}
    {state : DomainState} {decision : BrainDecision} {budget : ℚ}
    (answer : topology.domainBudgetW domainName = .ok budget)
    (call : brain.decide topology domainName state = .ok (decision, next)) :
    decision.caps = (brain.tick budget domainName state).caps ∧
      next.params = brain.params ∧
      next.ewma = brain.ewma.set domainName (brain.tick budget domainName state).ewma ∧
      next.lastCaps = brain.lastCaps.set domainName (brain.tick budget domainName state).caps := by
  unfold PRSBrain.decide at call
  rw [answer] at call
  cases call
  exact ⟨rfl, rfl, rfl, rfl⟩

/-- A call remembers its caps for its domain, and those of the other domains as before. -/
theorem remembers_of_decide {brain next : PRSBrain} {topology : PDNTopology} {domainName : String}
    {state : DomainState} {decision : BrainDecision}
    (call : brain.decide topology domainName state = .ok (decision, next)) :
    next.lastCaps.getD domainName .empty = decision.caps ∧
      ∀ other ≠ domainName, next.lastCaps.getD other .empty = brain.lastCaps.getD other .empty := by
  obtain ⟨budget, answer⟩ := budget_of_decide call
  obtain ⟨caps, _, _, lastCaps⟩ := decide_ok answer call
  rw [lastCaps, caps]
  exact ⟨Dict.getD_set_self _ _ _ _, fun other different => Dict.getD_set_of_ne _ _ _ different⟩

/-- The diagnostics of a call are those of its tick. -/
theorem getLastMetrics_of_decide {brain next : PRSBrain} {topology : PDNTopology}
    {domainName : String} {state : DomainState} {decision : BrainDecision} {budget : ℚ}
    (answer : topology.domainBudgetW domainName = .ok budget)
    (call : brain.decide topology domainName state = .ok (decision, next)) :
    next.getLastMetrics domainName = some (brain.tick budget domainName state).metrics := by
  unfold PRSBrain.decide at call
  rw [answer] at call
  cases call
  exact Dict.get?_set_self _ _ _

/-- The parameters never change. -/
theorem Reachable.params_eq {params : PRSParams} {brain : PRSBrain}
    (reachable : Reachable params brain) : brain.params = params := by
  induction reachable with
  | init => rfl
  | @decide brain next topology domainName state decision before call ih =>
    obtain ⟨budget, answer⟩ := budget_of_decide call
    rw [(decide_ok answer call).2.1, ih]
  | noteAppliedCaps domainName caps before ih => exact ih
  | resetEwma domainName before ih => cases domainName <;> exact ih

end PRSBrain

end Opendps.Brain
