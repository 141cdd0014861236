/-
**What a PRS decision is made from.**

`PrsInputs` is what a call of `decide` finds: the parameters, the budget, the telemetry, and what the
brain has kept for the domain, the smoothed draws and the caps of earlier ticks. The quantities of this
file are written over these alone, GPU by GPU, and not through the steps of `decide`:

* `expected` is the draw the brain reckons with, and `Busy` says that it is near the cap in force;
* a quiet GPU needs `extra` watts above `min_cap_w` for that draw with its margin;
* a busy GPU is due its `part` of what the quiet ones leave of the budget (`left`);
* `beyondRate` is what the raise limiter keeps of that for a later tick, and `caps` is the rest.

The last sections show that the steps of `decide` arrive at the same watts: `hot_tick`, `idleFloor_tick`
and `hotCap_tick` for the steps, `caps_tick` for the caps.
-/

import Opendps.Brain.Prs
import Mathlib.Algebra.Order.Group.MinMax
import Mathlib.Tactic.Ring

namespace Opendps.Brain

open Opendps.Lib Opendps.Pdn

/-- What a call of `decide` finds. -/
structure PrsInputs where
  params : PRSParams
  budget : ℚ
  state : DomainState
  /-- The smoothed draws after the tick before. -/
  earlier : Dict GpuIndex ℚ
  /-- The caps the brain remembers. -/
  remembered : Dict GpuIndex ℚ

/-- What a call finds in a brain. -/
def PRSBrain.inputs (brain : PRSBrain) (budget : ℚ) (domainName : String) (state : DomainState) :
    PrsInputs where
  params := brain.params
  budget := budget
  state := state
  earlier := brain.ewma.getD domainName .empty
  remembered := brain.lastCaps.getD domainName .empty

namespace PrsInputs

/-- The GPUs that reported a draw. -/
def gpus (inputs : PrsInputs) : List GpuIndex := inputs.state.gpuDraws.keys

def draw (inputs : PrsInputs) (gpu : GpuIndex) : ℚ := inputs.state.gpuDraws.getD gpu 0

/-- The draw the brain reckons with: the reported one, blended with the one it reckoned with before. -/
def expected (inputs : PrsInputs) (gpu : GpuIndex) : ℚ :=
  inputs.params.ewmaAlpha * inputs.draw gpu +
    (1 - inputs.params.ewmaAlpha) * inputs.earlier.getD gpu (inputs.draw gpu)

/-- The reported cap, or an equal part of the budget. -/
def inForce (inputs : PrsInputs) (gpu : GpuIndex) : ℚ :=
  inputs.state.gpuCaps.getD gpu (inputs.budget / (max inputs.gpus.length 1 : ℕ))

/-- The hardware maximum, or the cap in force. -/
def maximum (inputs : PrsInputs) (gpu : GpuIndex) : ℚ :=
  inputs.state.gpuMaxCaps.getD gpu (inputs.inForce gpu)

/-- The expected draw is at least the threshold's part of a positive cap. -/
def Busy (inputs : PrsInputs) (gpu : GpuIndex) : Prop :=
  0 < inputs.inForce gpu ∧ inputs.params.reclaimThreshold * inputs.inForce gpu ≤ inputs.expected gpu

instance (inputs : PrsInputs) (gpu : GpuIndex) : Decidable (inputs.Busy gpu) := by
  unfold Busy
  infer_instance

def busy (inputs : PrsInputs) : List GpuIndex := inputs.gpus.filter fun gpu => decide (inputs.Busy gpu)

def quiet (inputs : PrsInputs) : List GpuIndex :=
  inputs.gpus.filter fun gpu => !decide (inputs.Busy gpu)

/-- The expected draw with its margin. -/
def padded (inputs : PrsInputs) (gpu : GpuIndex) : ℚ :=
  (1 + inputs.params.idleFloorMargin) * inputs.expected gpu

/-- What a quiet GPU needs above `min_cap_w`, up to its maximum. -/
def extra (inputs : PrsInputs) (gpu : GpuIndex) : ℚ :=
  min (max 0 (inputs.padded gpu - inputs.params.minCapW)) (inputs.maximum gpu - inputs.params.minCapW)

/-- What the quiet GPUs leave of the budget. -/
def left (inputs : PrsInputs) : ℚ :=
  inputs.budget - inputs.quiet.length * inputs.params.minCapW - (inputs.quiet.map inputs.extra).sum

/-- What a busy GPU is due of what is left: in proportion to the expected draws, or an equal part. -/
def part (inputs : PrsInputs) (gpu : GpuIndex) : ℚ :=
  let total := (inputs.busy.map inputs.expected).sum
  if 0 < total then inputs.expected gpu / total * max 0 inputs.left
  else max 0 inputs.left / inputs.busy.length

/-- The most a busy GPU may get. -/
def ceiling (inputs : PrsInputs) (gpu : GpuIndex) : ℚ :=
  max inputs.params.minCapW (inputs.maximum gpu)

/-- The watts a GPU asks for. -/
def asked (inputs : PrsInputs) (gpu : GpuIndex) : ℚ :=
  if inputs.Busy gpu then max inputs.params.minCapW (min (inputs.ceiling gpu) (inputs.part gpu))
  else inputs.params.minCapW + inputs.extra gpu

/-- The cap a raise is measured from: the remembered one, else the reported one. -/
def base (inputs : PrsInputs) (gpu : GpuIndex) : Option ℚ :=
  (inputs.remembered.get? gpu).or (inputs.state.gpuCaps.get? gpu)

/-- The watts beyond the rate that a GPU asks for. -/
def beyondRate (inputs : PrsInputs) (gpu : GpuIndex) : ℚ :=
  match inputs.base gpu with
  | none => 0
  | some cap => max 0 (inputs.asked gpu - (cap + inputs.params.capRaiseRateWPerTick))

/-- The watts a GPU gets. A rate of zero switches the limiter off. -/
def cap (inputs : PrsInputs) (gpu : GpuIndex) : ℚ :=
  if 0 < inputs.params.capRaiseRateWPerTick then inputs.asked gpu - inputs.beyondRate gpu
  else inputs.asked gpu

/-- The watts of all GPUs, those of the quiet ones first. -/
def caps (inputs : PrsInputs) : Dict GpuIndex ℚ := .ofKeys (inputs.quiet ++ inputs.busy) inputs.cap

/-! ### The steps of a decision -/

/-- The tick of a call. -/
def tick (inputs : PrsInputs) : Tick where
  params := inputs.params
  budget := inputs.budget
  state := inputs.state
  ewma := updateEwma inputs.params.ewmaAlpha inputs.earlier inputs.state.gpuDraws
  last := inputs.remembered

variable {inputs : PrsInputs} {gpu : GpuIndex}

/-- The blended draw is the expected one. -/
theorem smoothed_tick (present : gpu ∈ inputs.gpus) :
    inputs.tick.smoothed gpu = inputs.expected gpu := by
  obtain ⟨draw, reported⟩ := Dict.mem_keys_iff.mp present
  have stored : inputs.tick.ewma.get? gpu =
      some (blend inputs.params.ewmaAlpha draw (inputs.earlier.getD gpu draw)) := by
    show (updateEwma _ _ _).get? gpu = _
    rw [get?_updateEwma, reported]
    rfl
  rw [Tick.smoothed, Dict.getD_of_some stored, expected, PrsInputs.draw, Dict.getD_of_some reported]
  rfl

/-- The hot GPUs are the busy ones. -/
theorem isHot_tick (present : gpu ∈ inputs.gpus) :
    inputs.tick.isHot gpu = decide (inputs.Busy gpu) := by
  have same : inputs.tick.isHot gpu = decide (0 < inputs.inForce gpu ∧
      inputs.params.reclaimThreshold ≤ inputs.tick.smoothed gpu / inputs.inForce gpu) := rfl
  rw [same, smoothed_tick present]
  refine decide_eq_decide.mpr (and_congr_right fun positive => ?_)
  exact le_div_iff₀ positive

theorem hot_tick (inputs : PrsInputs) : inputs.tick.hot = inputs.busy :=
  List.filter_congr fun _ present => isHot_tick present

theorem idle_tick (inputs : PrsInputs) : inputs.tick.idle = inputs.quiet :=
  List.filter_congr fun _ present => congrArg (!·) (isHot_tick present)

theorem mem_gpus_of_busy (isBusy : gpu ∈ inputs.busy) : gpu ∈ inputs.gpus :=
  (List.mem_filter.mp isBusy).1

theorem mem_gpus_of_quiet (isQuiet : gpu ∈ inputs.quiet) : gpu ∈ inputs.gpus :=
  (List.mem_filter.mp isQuiet).1

/-- The floor and what is needed above it. -/
theorem minCapW_add_extra (inputs : PrsInputs) (gpu : GpuIndex) :
    inputs.params.minCapW + inputs.extra gpu =
      min (max inputs.params.minCapW (inputs.padded gpu)) (inputs.maximum gpu) := by
  rw [extra, ← min_add_add_left, ← max_add_add_left, add_zero, add_sub_cancel, add_sub_cancel]

/-- An idle GPU gets `min_cap_w` and what it needs above it. -/
theorem idleFloor_tick (present : gpu ∈ inputs.gpus) :
    inputs.tick.idleFloor gpu = inputs.params.minCapW + inputs.extra gpu := by
  have steps : inputs.tick.idleFloor gpu = min (max inputs.params.minCapW
      (inputs.tick.smoothed gpu * (1 + inputs.params.idleFloorMargin))) (inputs.maximum gpu) := rfl
  rw [steps, smoothed_tick present, minCapW_add_extra, padded, mul_comm]

/-- The idle floors leave what the quiet GPUs leave. -/
theorem idleTotal_tick (inputs : PrsInputs) :
    inputs.tick.idleTotal = inputs.budget - inputs.left := by
  have floors : inputs.tick.idle.map inputs.tick.idleFloor =
      inputs.quiet.map fun gpu => inputs.params.minCapW + inputs.extra gpu := by
    rw [idle_tick]
    exact List.map_congr_left fun _ isQuiet => idleFloor_tick (mem_gpus_of_quiet isQuiet)
  rw [Tick.idleTotal_eq, floors, List.sum_map_add, List.map_const', List.sum_replicate, nsmul_eq_mul,
    left]
  ring

theorem hotBudget_tick (inputs : PrsInputs) : inputs.tick.hotBudget = max 0 inputs.left := by
  rw [Tick.hotBudget, idleTotal_tick]
  exact congrArg (max 0) (sub_sub_cancel inputs.budget inputs.left)

/-- A part is a share of what is left. -/
theorem part_eq (inputs : PrsInputs) (gpu : GpuIndex) :
    inputs.part gpu = share (inputs.busy.map inputs.expected).sum inputs.busy.length
      (inputs.expected gpu) * max 0 inputs.left := by
  rw [part, share]
  by_cases positive : 0 < (inputs.busy.map inputs.expected).sum
  · rw [if_pos positive, if_pos positive]
  · rw [if_neg positive, if_neg positive, one_div_mul_eq_div]

/-- A hot GPU is due the part of a busy one. -/
theorem raw_tick (isBusy : gpu ∈ inputs.busy) : inputs.tick.raw gpu = inputs.part gpu := by
  have total : inputs.tick.totalHotEwma = (inputs.busy.map inputs.expected).sum := by
    rw [Tick.totalHotEwma, hot_tick]
    exact congrArg List.sum (List.map_congr_left fun _ listed => smoothed_tick (mem_gpus_of_busy listed))
  rw [Tick.raw, total, hot_tick, hotBudget_tick, smoothed_tick (mem_gpus_of_busy isBusy), part_eq]

/-- A hot GPU gets its part between `min_cap_w` and the ceiling. -/
theorem hotCap_tick (isBusy : gpu ∈ inputs.busy) :
    inputs.tick.hotCap gpu = clamp inputs.params.minCapW (inputs.ceiling gpu) (inputs.part gpu) := by
  have steps : inputs.tick.hotCap gpu =
      clamp inputs.params.minCapW (inputs.maximum gpu) (inputs.tick.raw gpu) := rfl
  rw [steps, raw_tick isBusy, ceiling, clamp_max]

theorem busy_of_mem (isBusy : gpu ∈ inputs.busy) : inputs.Busy gpu := by
  simpa using (List.mem_filter.mp isBusy).2

theorem not_busy_of_mem (isQuiet : gpu ∈ inputs.quiet) : ¬ inputs.Busy gpu := by
  simpa using (List.mem_filter.mp isQuiet).2

theorem asked_of_quiet (isQuiet : gpu ∈ inputs.quiet) :
    inputs.asked gpu = inputs.params.minCapW + inputs.extra gpu :=
  if_neg (not_busy_of_mem isQuiet)

theorem asked_of_busy (isBusy : gpu ∈ inputs.busy) :
    inputs.asked gpu = clamp inputs.params.minCapW (inputs.ceiling gpu) (inputs.part gpu) :=
  if_pos (busy_of_mem isBusy)

/-- What a GPU asks for is its hot cap or its idle floor. -/
theorem asked_eq (present : gpu ∈ inputs.gpus) : inputs.asked gpu =
    if inputs.tick.isHot gpu then inputs.tick.hotCap gpu else inputs.tick.idleFloor gpu := by
  rw [isHot_tick present]
  by_cases near : inputs.Busy gpu
  · have isBusy : gpu ∈ inputs.busy := List.mem_filter.mpr ⟨present, decide_eq_true near⟩
    rw [if_pos (decide_eq_true near), asked_of_busy isBusy, hotCap_tick isBusy]
  · rw [if_neg (by simpa using near), asked, if_neg near, idleFloor_tick present]

/-! ### The caps of a decision -/

theorem nodup_quiet_append_busy (inputs : PrsInputs) : (inputs.quiet ++ inputs.busy).Nodup := by
  have nodup := inputs.state.gpuDraws.keys_nodup
  refine List.nodup_append'.mpr ⟨nodup.filter _, nodup.filter _, fun gpu isQuiet isBusy => ?_⟩
  exact not_busy_of_mem isQuiet (busy_of_mem isBusy)

/-- What a tick asks for is what the inputs say. -/
theorem items_targets_tick (inputs : PrsInputs) : inputs.tick.targets.items =
    (inputs.quiet ++ inputs.busy).map fun gpu => (gpu, inputs.asked gpu) := by
  rw [Tick.items_targets, idle_tick, hot_tick, List.map_append]
  congr 1
  · refine List.map_congr_left fun gpu isQuiet => ?_
    rw [idleFloor_tick (mem_gpus_of_quiet isQuiet), asked_of_quiet isQuiet]
  · refine List.map_congr_left fun gpu isBusy => ?_
    rw [hotCap_tick isBusy, asked_of_busy isBusy]

/-- A limited target is short of it by what is beyond the rate. -/
theorem limitRaise_tick (inputs : PrsInputs) (gpu : GpuIndex) :
    inputs.tick.limitRaise gpu (inputs.asked gpu) = inputs.asked gpu - inputs.beyondRate gpu := by
  have sameBase : inputs.tick.baseline gpu = inputs.base gpu := rfl
  unfold beyondRate
  cases base : inputs.base gpu with
  | none =>
    rw [Tick.limitRaise, sameBase, base]
    exact (sub_zero _).symm
  | some previous =>
    rw [Tick.limitRaise_of_baseline (sameBase.trans base)]
    show min _ (previous + inputs.params.capRaiseRateWPerTick) = _ - max 0 _
    rcases le_total (inputs.asked gpu) (previous + inputs.params.capRaiseRateWPerTick) with
      within | beyond
    · rw [min_eq_left within, max_eq_left (sub_nonpos.mpr within), sub_zero]
    · rw [min_eq_right beyond, max_eq_right (sub_nonneg.mpr beyond), sub_sub_cancel]

/-- **The steps of a decision come to the caps of its inputs.** -/
theorem caps_tick (inputs : PrsInputs) : inputs.tick.caps = inputs.caps := by
  refine Dict.eq_of_items ?_
  have sameRate : inputs.tick.params = inputs.params := rfl
  rw [caps, Dict.items_ofKeys inputs.nodup_quiet_append_busy, Tick.caps, sameRate]
  by_cases limited : 0 < inputs.params.capRaiseRateWPerTick
  · rw [if_pos limited]
    show inputs.tick.targets.items.map (fun item => (item.1, inputs.tick.limitRaise item.1 item.2)) = _
    rw [items_targets_tick, List.map_map]
    refine List.map_congr_left fun gpu _ => ?_
    rw [cap, if_pos limited, ← limitRaise_tick]
    rfl
  · rw [if_neg limited, items_targets_tick]
    refine List.map_congr_left fun gpu _ => ?_
    rw [cap, if_neg limited]

theorem mem_keys_caps : gpu ∈ inputs.caps.keys ↔ gpu ∈ inputs.gpus := by
  rw [← caps_tick]
  exact Tick.mem_keys_caps

theorem eq_cap_of_get?_caps {watts : ℚ} (found : inputs.caps.get? gpu = some watts) :
    watts = inputs.cap gpu := by
  rw [caps, Dict.get?_ofKeys inputs.nodup_quiet_append_busy] at found
  split at found
  · exact (Option.some.inj found).symm
  · cases found

/-- With the limiter on, a GPU gets what it asks for or what the rate allows it. -/
theorem cap_eq_min (limited : 0 < inputs.params.capRaiseRateWPerTick) {previous : ℚ}
    (base : inputs.base gpu = some previous) :
    inputs.cap gpu = min (inputs.asked gpu) (previous + inputs.params.capRaiseRateWPerTick) := by
  have baseline : inputs.tick.baseline gpu = some previous := base
  rw [cap, if_pos limited, ← limitRaise_tick]
  exact Tick.limitRaise_of_baseline baseline _

end PrsInputs

namespace PRSBrain

variable {brain next : PRSBrain} {topology : PDNTopology} {domainName : String} {state : DomainState}
  {decision : BrainDecision} {budget : ℚ}

theorem caps_inputs (brain : PRSBrain) (budget : ℚ) (domainName : String) (state : DomainState) :
    (brain.inputs budget domainName state).caps = (brain.tick budget domainName state).caps :=
  (brain.inputs budget domainName state).caps_tick.symm

/-- What a call returns, in the terms of what it finds. -/
theorem caps_decide (answer : topology.domainBudgetW domainName = .ok budget)
    (call : brain.decide topology domainName state = .ok (decision, next)) :
    decision.caps = (brain.inputs budget domainName state).caps :=
  (decide_ok answer call).1.trans (brain.caps_inputs budget domainName state).symm

end PRSBrain

end Opendps.Brain
