/-
**The proportional brain in closed loop with the simulated fleet.**

In sim mode the actuator is the telemetry: a tick reads draws, caps and maxima off the fleet, decides,
pushes the caps, and lets the fleet draw a new load (`SimLoop.runOnce`). A run is any number of ticks
under any load and any budgets handed down.

A tick that finds the domain over its budget leaves caps that add up to at most the budget and what
`min_cap_w` adds to parts of it that are below, so the fleet draws no more than that under any load. A
tick that finds the domain within its budget releases every cap to the hardware maximum on purpose, and
the next load may draw up to these. `dpm_closed_loop` is both, at every tick of every run;
`dpm_exceeds_budget` has a run for either way of exceeding the budget.
-/

import Opendps.Controller.ControlTick
import Opendps.Sim.Backend

namespace Opendps.Controller

open Opendps.Lib Opendps.Pdn Opendps.Brain Opendps.Sim

/-! ### The loop -/

/-- A controller in sim mode and its fleet. -/
structure SimLoop where
  controller : ControlLoop
  backend : SimBackend

/-- What a tick meets: the clock and the store, and the load its fleet draws at the end. -/
structure SimEvent where
  moment : Moment
  samples : GpuIndex → Util

/-- One tick: the decision, the fleet with the caps pushed, and the loop after the new load. -/
structure SimTick where
  decision : BrainDecision
  pushed : SimBackend
  next : SimLoop

namespace SimLoop

/-- What the fleet answers about a GPU. -/
def readings (backend : SimBackend) (idx : GpuIndex) : Except PyError ActuatorReading := do
  let gpu ← backend.gpu idx
  pure { powerDraw := gpu.powerDrawW, powerCap := gpu.capW, maxCapW := some gpu.maxCapW }

/-- One control tick in sim mode, with one managed domain. -/
def runOnce (self : SimLoop) (domainName : String) (event : SimEvent) : Except PyError SimTick :=
  match self.controller.decideDomain (.actuator (readings self.backend)) event.moment domainName with
  | (.error exc, _) => .error exc
  | (.ok decision, controller) => do
    let pushed ← self.backend.pushCaps decision.caps.items
    pure { decision := decision, pushed := pushed
           next := { controller := controller, backend := pushed.tick event.samples } }

/-- Tick after tick. -/
def runs (self : SimLoop) (domainName : String) (events : List SimEvent) :
    Except PyError SimLoop :=
  events.foldlM (fun loop event => do
    let tick ← loop.runOnce domainName event
    pure tick.next) self

/-- The domain exists, its GPUs are in the fleet, and the brain is the proportional one. -/
structure Ready (state : SimLoop) (domainName : String) (domain : PowerDomain) (brain : DPMBrain) :
    Prop where
  present : state.controller.topology.domain domainName = .ok domain
  isDpm : state.controller.brain = .dpm brain
  listed : ∀ idx ∈ domain.gpuIndices, idx ∈ state.backend.gpus.keys

/-! ### What a tick reads -/

/-- The hardware maximum of a GPU. -/
def maxCap (backend : SimBackend) (idx : GpuIndex) : ℚ :=
  ((backend.gpus.get? idx).map SimGpu.maxCapW).getD 0

section Tick

variable {self : SimLoop} {domainName : String} {domain : PowerDomain} {brain : DPMBrain}

/-- The GPUs of the domain, each once. -/
abbrev gpusOf (domain : PowerDomain) : List GpuIndex := domain.gpuIndices.dedup

theorem read_ok (ready : self.Ready domainName domain brain) (fallback : ℚ) :
    ∃ collected, readDomain ((Source.actuator (readings self.backend)).read fallback)
        domain.gpuIndices = .ok collected ∧
      (∀ gpu, collected.gpuDraws.get? gpu =
        if gpu ∈ gpusOf domain then some (self.backend.draw gpu) else none) ∧
      ∀ gpu, collected.gpuMaxCaps.get? gpu =
        if gpu ∈ gpusOf domain then some (maxCap self.backend gpu) else none := by
  have found : ∀ idx ∈ domain.gpuIndices,
      (Source.actuator (readings self.backend)).read fallback idx = .ok (some
        { powerDrawW := self.backend.draw idx, powerCapW := self.backend.cap idx
          maxCapW := maxCap self.backend idx }) := by
    intro idx member
    obtain ⟨gpu, stored⟩ := Dict.mem_keys_iff.mp (ready.listed idx member)
    simp only [Source.read, readings, SimBackend.gpu, SimBackend.draw, SimBackend.cap, maxCap, stored]
    rfl
  obtain ⟨collected, ok, draws, _, maxCaps⟩ := readDomain_ok found {}
  simp only [List.mem_dedup]
  exact ⟨collected, ok, draws, maxCaps⟩

/-! ### What a tick decides and leaves in force -/

/-- The telemetry of a domain is what the fleet draws and what it can draw. -/
structure Observes (backend : SimBackend) (domain : PowerDomain) (state : DomainState) : Prop where
  draws : ∀ gpu, state.gpuDraws.get? gpu =
    if gpu ∈ gpusOf domain then some (backend.draw gpu) else none
  maxCaps : ∀ gpu, state.gpuMaxCaps.get? gpu =
    if gpu ∈ gpusOf domain then some (maxCap backend gpu) else none

/-- The caps the proportional brain decides. -/
def capsOf (brain : DPMBrain) (budget : ℚ) (state : DomainState) : Dict GpuIndex ℚ :=
  if state.gpuDraws.values.sum ≤ budget then brain.underBudgetCaps state
  else brain.overBudgetCaps budget state

theorem keys_capsOf (brain : DPMBrain) (budget : ℚ) (state : DomainState) :
    (capsOf brain budget state).keys = state.gpuDraws.keys := by
  unfold capsOf
  split
  · exact Dict.keys_mapVals _ _
  · unfold DPMBrain.overBudgetCaps
    split <;> exact Dict.keys_mapVals _ _

/-- The caps are those of the domain's GPUs. -/
theorem Observes.mem_keys_capsOf {backend : SimBackend} {state : DomainState}
    (observes : Observes backend domain state) (brain : DPMBrain) (budget : ℚ) (gpu : GpuIndex) :
    gpu ∈ (capsOf brain budget state).keys ↔ gpu ∈ gpusOf domain := by
  rw [keys_capsOf, Dict.mem_keys_iff, observes.draws]
  by_cases member : gpu ∈ gpusOf domain <;> simp [member]

/-- A tick's decision is that of the proportional brain on what the fleet shows. -/
theorem decideDomain_dpm (ready : self.Ready domainName domain brain) (moment : Moment) {budget : ℚ}
    (answer : self.controller.budgetAt moment domainName = .ok budget) :
    ∃ state decision, Observes self.backend domain state ∧
      decision.caps = capsOf brain budget state ∧
      self.controller.decideDomain (.actuator (readings self.backend)) moment domainName =
        (.ok decision, { self.controller with
          topology := self.controller.adopt moment domainName, brain := .dpm brain }) := by
  obtain ⟨collected, read, draws, maxCaps⟩ := read_ok ready (ControlLoop.fallbackCap budget domain)
  have decided := ControlLoop.decideDomain_eq ready.present answer read
  rw [ready.isDpm] at decided
  simp only [AnyBrain.decide, DPMBrain.decide_eq answer, bind, Except.bind, pure, Except.pure] at decided
  exact ⟨_, _, ⟨draws, maxCaps⟩, rfl, decided⟩

/-- What a tick leaves behind. -/
structure Ticked (before : SimLoop) (domainName : String) (domain : PowerDomain) (brain : DPMBrain)
    (event : SimEvent) (caps : Dict GpuIndex ℚ) (tick : SimTick) : Prop where
  inForce : ∀ gpu ∈ gpusOf domain, ∃ sim, before.backend.gpus.get? gpu = some sim ∧
    tick.pushed.cap gpu = (sim.setCap (caps.getD gpu 0)).capW
  loaded : tick.next.backend = tick.pushed.tick event.samples
  ready : tick.next.Ready domainName domain brain

/-- **A tick goes through and puts its decision in force.** -/
theorem runOnce_ok (ready : self.Ready domainName domain brain) (event : SimEvent) {budget : ℚ}
    (answer : self.controller.budgetAt event.moment domainName = .ok budget) :
    ∃ tick state, self.runOnce domainName event = .ok tick ∧ Observes self.backend domain state ∧
      Ticked self domainName domain brain event (capsOf brain budget state) tick := by
  obtain ⟨state, decision, observes, decides, decided⟩ := decideDomain_dpm ready event.moment answer
  have domainGpus : ∀ gpu, gpu ∈ decision.caps.keys ↔ gpu ∈ gpusOf domain :=
    decides ▸ observes.mem_keys_capsOf brain budget
  have inFleet : ∀ gpu ∈ gpusOf domain, gpu ∈ self.backend.gpus.keys := fun gpu member =>
    ready.listed gpu (List.mem_dedup.mp member)
  obtain ⟨pushed, goes, sets, _⟩ := SimBackend.pushCaps_ok decision.caps.nodup
    fun item member => inFleet item.1 ((domainGpus item.1).mp (List.mem_map_of_mem member))
  refine ⟨{ decision := decision, pushed := pushed, next :=
      { controller := { self.controller with
          topology := self.controller.adopt event.moment domainName, brain := .dpm brain }
        backend := pushed.tick event.samples } }, state, ?_, observes, ?_, rfl, ?_, rfl, ?_⟩
  · simp only [runOnce, decided, goes, bind, Except.bind, pure, Except.pure]
  · intro gpu member
    obtain ⟨watts, stored⟩ := Dict.mem_keys_iff.mp ((domainGpus gpu).mpr member)
    obtain ⟨sim, found⟩ := Dict.mem_keys_iff.mp (inFleet gpu member)
    refine ⟨sim, found, ?_⟩
    rw [SimBackend.cap, sets gpu watts (Dict.get?_eq_some_iff.mp stored), found, ← decides,
      Dict.getD_of_some stored]
    rfl
  · rw [PDNTopology.domain, (self.controller.adopt_leaves event.moment domainName).1]
    exact ready.present
  · intro gpu member
    obtain ⟨watts, stored⟩ := Dict.mem_keys_iff.mp ((domainGpus gpu).mpr (List.mem_dedup.mpr member))
    obtain ⟨sim, found⟩ := Dict.mem_keys_iff.mp (ready.listed gpu member)
    refine Dict.mem_keys_iff.mpr ⟨{ sim.setCap watts with currentUtil := event.samples gpu }, ?_⟩
    rw [SimBackend.tick, Dict.get?_mapVals, sets gpu watts (Dict.get?_eq_some_iff.mp stored), found]
    rfl

/-! ### What the fleet draws after it -/

/-- What the floor adds to the parts of the budget that fall below it. -/
def shortfall (brain : DPMBrain) (budget : ℚ) (backend : SimBackend) (gpus : List GpuIndex) : ℚ :=
  (gpus.map fun gpu => max 0
    (max 0 brain.minCapW - backend.draw gpu / backend.totalDraw gpus * budget)).sum

/-- Where no part is below the floor, the floor adds nothing. -/
theorem shortfall_eq_zero {budget : ℚ} {backend : SimBackend} {gpus : List GpuIndex}
    (reach : ∀ gpu ∈ gpus,
      max 0 brain.minCapW ≤ backend.draw gpu / backend.totalDraw gpus * budget) :
    shortfall brain budget backend gpus = 0 := by
  refine List.sum_eq_zero fun watts listed => ?_
  obtain ⟨gpu, member, rfl⟩ := List.mem_map.mp listed
  exact max_eq_left (sub_nonpos.mpr (reach gpu member))

/-- What the GPUs draw after a tick, under the old load and under the new one. -/
def DrawsAtMost (tick : SimTick) (gpus : List GpuIndex) (watts : ℚ) : Prop :=
  tick.pushed.totalDraw gpus ≤ watts ∧ tick.next.backend.totalDraw gpus ≤ watts

theorem Observes.values_perm {backend : SimBackend} {state : DomainState}
    (observes : Observes backend domain state) :
    state.gpuDraws.values.Perm ((gpusOf domain).map backend.draw) :=
  Dict.values_perm_of_get? (List.nodup_dedup _) observes.draws

theorem Observes.total {backend : SimBackend} {state : DomainState}
    (observes : Observes backend domain state) :
    state.gpuDraws.values.sum = backend.totalDraw (gpusOf domain) :=
  observes.values_perm.sum_eq

theorem Observes.lift_eq {backend : SimBackend} {state : DomainState}
    (observes : Observes backend domain state) (budget : ℚ) :
    brain.lift budget state = shortfall brain budget backend (gpusOf domain) := by
  rw [DPMBrain.lift, (observes.values_perm.map _).sum_eq, List.map_map, shortfall, ← observes.total]
  rfl

/-- The caps in force after a tick add up to at most the caps decided, none counted below zero. -/
theorem Ticked.sum_cap_le {event : SimEvent} {caps : Dict GpuIndex ℚ} {tick : SimTick}
    (ticked : Ticked self domainName domain brain event caps tick)
    (keys : ∀ gpu, gpu ∈ caps.keys ↔ gpu ∈ gpusOf domain) :
    ((gpusOf domain).map tick.pushed.cap).sum ≤ (caps.values.map (max 0)).sum := by
  have lookups : ∀ gpu, caps.get? gpu =
      if gpu ∈ gpusOf domain then some (caps.getD gpu 0) else none := by
    intro gpu
    split
    · next member =>
      obtain ⟨watts, stored⟩ := Dict.mem_keys_iff.mp ((keys gpu).mpr member)
      rw [Dict.getD_of_some stored]
      exact stored
    · next absent => exact Dict.get?_eq_none_iff.mpr fun listed => absent ((keys gpu).mp listed)
  rw [((Dict.values_perm_of_get? (List.nodup_dedup _) lookups).map (max 0)).sum_eq, List.map_map]
  refine List.sum_le_sum fun gpu member => ?_
  obtain ⟨sim, _, inForce⟩ := ticked.inForce gpu member
  exact inForce.trans_le (SimBackend.setCap_capW_le sim _)

/-- **Over the budget.** The fleet draws at most the budget and what the floor adds, under the old load
and under any new one. -/
theorem totalDraw_of_over {event : SimEvent} {budget : ℚ} {state : DomainState} {tick : SimTick}
    (answer : self.controller.budgetAt event.moment domainName = .ok budget)
    (observes : Observes self.backend domain state)
    (ticked : Ticked self domainName domain brain event (capsOf brain budget state) tick)
    (above : budget < self.backend.totalDraw (gpusOf domain)) :
    DrawsAtMost tick (gpusOf domain)
      (budget + shortfall brain budget self.backend (gpusOf domain)) := by
  have exceeds : budget < state.gpuDraws.values.sum := observes.total ▸ above
  have caps : ((capsOf brain budget state).values.map (max 0)).sum ≤
      budget + shortfall brain budget self.backend (gpusOf domain) := by
    rw [capsOf, if_neg (not_le.mpr exceeds), ← observes.lift_eq budget]
    exact DPMBrain.sum_overBudgetCaps_le (PDNTopology.domainBudgetW_nonneg answer) exceeds
  have inForce := (ticked.sum_cap_le (observes.mem_keys_capsOf brain budget)).trans caps
  obtain ⟨old, new⟩ := tick.pushed.totalDraw_le event.samples (gpusOf domain)
  rw [DrawsAtMost, ticked.loaded]
  exact ⟨old.trans inForce, new.trans inForce⟩

/-- **Within the budget.** Every cap is released to the hardware maximum. -/
theorem cap_of_within {event : SimEvent} {budget : ℚ} {state : DomainState} {tick : SimTick}
    (observes : Observes self.backend domain state)
    (ticked : Ticked self domainName domain brain event (capsOf brain budget state) tick)
    (within : self.backend.totalDraw (gpusOf domain) ≤ budget) :
    ∀ gpu ∈ gpusOf domain, tick.pushed.cap gpu = maxCap self.backend gpu := by
  intro gpu member
  obtain ⟨sim, found, inForce⟩ := ticked.inForce gpu member
  have released : (capsOf brain budget state).getD gpu 0 = sim.maxCapW := by
    rw [capsOf, if_pos (observes.total.trans_le within), DPMBrain.underBudgetCaps, Dict.getD,
      Dict.get?_mapVals, observes.draws, if_pos member, Option.map_some, Option.getD_some, Dict.getD,
      observes.maxCaps, if_pos member, Option.getD_some, maxCap, found]
    rfl
  rw [inForce, released, SimBackend.setCap_maxCapW, maxCap, found]
  rfl

/-! ### Every run -/

/-- A run of ticks goes through, and every tick of it finds the loop ready. -/
theorem runs_ok (ready : self.Ready domainName domain brain) (events : List SimEvent) :
    ∃ before, self.runs domainName events = .ok before ∧ before.Ready domainName domain brain := by
  induction events generalizing self with
  | nil => exact ⟨self, rfl, ready⟩
  | cons event rest ih =>
    obtain ⟨budget, answer⟩ := ControlLoop.budgetAt_isOk ready.present event.moment
    obtain ⟨tick, _, ran, _, ticked⟩ := runOnce_ok ready event answer
    obtain ⟨before, later, still⟩ := ih ticked.ready
    refine ⟨before, ?_, still⟩
    rw [runs, List.foldlM_cons, ran]
    exact later

/-- **The proportional brain in closed loop.** At every tick of every run, under any load: a tick that
finds the domain over its budget leaves draws of at most the budget and what the floor adds, so of at
most the budget where no part is below the floor; one that finds it within its budget releases every cap
to the hardware maximum, which then bounds the draws. -/
theorem dpm_closed_loop (ready : self.Ready domainName domain brain) (past : List SimEvent)
    (event : SimEvent) :
    ∃ before budget tick, self.runs domainName past = .ok before ∧
      before.controller.budgetAt event.moment domainName = .ok budget ∧
      before.runOnce domainName event = .ok tick ∧
      (budget < before.backend.totalDraw (gpusOf domain) →
        DrawsAtMost tick (gpusOf domain)
            (budget + shortfall brain budget before.backend (gpusOf domain)) ∧
          ((∀ gpu ∈ gpusOf domain, max 0 brain.minCapW ≤
              before.backend.draw gpu / before.backend.totalDraw (gpusOf domain) * budget) →
            DrawsAtMost tick (gpusOf domain) budget)) ∧
      (before.backend.totalDraw (gpusOf domain) ≤ budget →
        (∀ gpu ∈ gpusOf domain, tick.pushed.cap gpu = maxCap before.backend gpu) ∧
          DrawsAtMost tick (gpusOf domain) ((gpusOf domain).map (maxCap before.backend)).sum) := by
  obtain ⟨before, ran, still⟩ := runs_ok ready past
  obtain ⟨budget, answer⟩ := ControlLoop.budgetAt_isOk still.present event.moment
  obtain ⟨tick, state, once, observes, ticked⟩ := runOnce_ok still event answer
  refine ⟨before, budget, tick, ran, answer, once, fun above => ?_, fun within => ?_⟩
  · have bounded := totalDraw_of_over answer observes ticked above
    refine ⟨bounded, fun reach => ?_⟩
    rw [shortfall_eq_zero reach, add_zero] at bounded
    exact bounded
  · have released := cap_of_within observes ticked within
    obtain ⟨old, new⟩ := tick.pushed.totalDraw_le event.samples (gpusOf domain)
    rw [List.map_congr_left released] at old new
    exact ⟨released, old, ticked.loaded ▸ new⟩

end Tick

/-! ### Two ways over the budget -/

theorem idle_nonneg : (0 : ℚ) ≤ 0 := le_rfl

def idleLoad : Util := ⟨0, idle_nonneg, hundred_nonneg⟩

def fullLoad : Util := ⟨100, hundred_nonneg, hundred_le⟩

/-- A domain with a budget for its GPUs. -/
def plainDomainOf (budgetW : ℚ) (gpuIndices : List GpuIndex) : PowerDomain where
  name := "domain-0"
  budgetW := budgetW
  gpuIndices := gpuIndices
  pduName := "pdu-A"

/-- A controller with the proportional brain, and a fleet. -/
def dpmLoop (budgetW : ℚ) (gpus : Dict GpuIndex SimGpu) : SimLoop where
  controller :=
    { topology :=
        { pdus := .empty
          domains := ⟨[("domain-0", plainDomainOf budgetW gpus.keys)], List.nodup_singleton _⟩ }
      managedDomains := ["domain-0"]
      brain := .dpm {} }
  backend := ⟨gpus⟩

theorem ready_dpmLoop (budgetW : ℚ) (gpus : Dict GpuIndex SimGpu) :
    (dpmLoop budgetW gpus).Ready "domain-0" (plainDomainOf budgetW gpus.keys) {} :=
  ⟨rfl, rfl, fun _ listed => listed⟩

/-- A tick without a store, after which the GPUs draw their loads. -/
def loadEvent (samples : GpuIndex → Util) : SimEvent where
  moment := { ts := 0, around := { now := 0, isGpuBusy := fun _ => false } }
  samples := samples

/-- The floors fit the budget and every maximum is above its floor, and a tick leaves draws above the
budget. -/
def Exceeds (budgetW : ℚ) (gpus : Dict GpuIndex SimGpu) (past : List SimEvent) (event : SimEvent) :
    Prop :=
  (gpus.size : ℚ) * ({} : DPMBrain).minCapW ≤ budgetW ∧
    (∀ gpu ∈ gpus.values, ({} : DPMBrain).minCapW ≤ gpu.maxCapW) ∧ past ≠ [] ∧
    ∃ before tick, (dpmLoop budgetW gpus).runs "domain-0" past = .ok before ∧
      before.controller.budgetAt event.moment "domain-0" = .ok budgetW ∧
      before.runOnce "domain-0" event = .ok tick ∧
      budgetW < tick.next.backend.totalDraw gpus.keys

/-- The budget and the draws after the tick, where the run goes through. -/
def outcome (loop : SimLoop) (past : List SimEvent) (event : SimEvent) (gpus : List GpuIndex) :
    Option (Option ℚ × ℚ) := do
  let before ← (loop.runs "domain-0" past).toOption
  let tick ← (before.runOnce "domain-0" event).toOption
  pure ((before.controller.budgetAt event.moment "domain-0").toOption,
    tick.next.backend.totalDraw gpus)

theorem exceeds_of_outcome {budgetW draws : ℚ} {gpus : Dict GpuIndex SimGpu} {past : List SimEvent}
    {event : SimEvent} (floors : (gpus.size : ℚ) * ({} : DPMBrain).minCapW ≤ budgetW)
    (maxima : ∀ gpu ∈ gpus.values, ({} : DPMBrain).minCapW ≤ gpu.maxCapW) (later : past ≠ [])
    (computed : outcome (dpmLoop budgetW gpus) past event gpus.keys = some (some budgetW, draws))
    (above : budgetW < draws) : Exceeds budgetW gpus past event := by
  simp only [outcome, bind, Option.bind_eq_some_iff, pure, Option.some.injEq, Prod.mk.injEq] at computed
  obtain ⟨before, ran, tick, once, answer, total⟩ := computed
  exact ⟨floors, maxima, later, before, tick, ok_of_toOption ran, ok_of_toOption answer,
    ok_of_toOption once, total ▸ above⟩

/-- One GPU of 1000 W, on 800 W. -/
def oneGpu : Dict GpuIndex SimGpu :=
  .ofList [(0, { capW := 500, maxCapW := 1000, currentUtil := idleLoad })]

/-- A busy GPU and an idle one, on 400 W. -/
def twoGpus : Dict GpuIndex SimGpu :=
  .ofList [(0, { capW := 1000, maxCapW := 1000, currentUtil := fullLoad }),
           (1, { capW := 1000, maxCapW := 1000, currentUtil := idleLoad })]

def unevenLoad : SimEvent := loadEvent fun idx => if idx = 0 then fullLoad else idleLoad

/-- After two idle ticks the cap of one GPU is released, and the load that follows draws 900 W of
800 W. On 400 W, an idle GPU next to a busy one keeps its floor while the domain is over its budget,
and when its load comes the two draw about 550 W. -/
theorem dpm_exceeds_budget :
    Exceeds 800 oneGpu [loadEvent fun _ => idleLoad] (loadEvent fun _ => fullLoad) ∧
      Exceeds 400 twoGpus [unevenLoad] (loadEvent fun _ => fullLoad) := by
  constructor
  · have computed : outcome (dpmLoop 800 oneGpu) [loadEvent fun _ => idleLoad]
        (loadEvent fun _ => fullLoad) oneGpu.keys = some (some 800, 900) := by decide +kernel
    exact exceeds_of_outcome (by decide +kernel) (by decide +kernel) (List.cons_ne_nil _ _) computed
      (by norm_num)
  · have computed : outcome (dpmLoop 400 twoGpus) [unevenLoad] (loadEvent fun _ => fullLoad)
        twoGpus.keys = some (some 400, 220440 / 401) := by decide +kernel
    exact exceeds_of_outcome (by decide +kernel) (by decide +kernel) (List.cons_ne_nil _ _) computed
      (by norm_num)

/-- The two GPUs once more: the tick found them over the budget, and the floor adds its part. -/
theorem dpm_closed_loop_uneven :
    ∃ before budget tick, (dpmLoop 400 twoGpus).runs "domain-0" [unevenLoad] = .ok before ∧
      before.controller.budgetAt (loadEvent fun _ => fullLoad).moment "domain-0" = .ok budget ∧
      before.runOnce "domain-0" (loadEvent fun _ => fullLoad) = .ok tick ∧
      (budget < before.backend.totalDraw (gpusOf (plainDomainOf 400 twoGpus.keys)) →
        DrawsAtMost tick (gpusOf (plainDomainOf 400 twoGpus.keys)) (budget +
          shortfall {} budget before.backend (gpusOf (plainDomainOf 400 twoGpus.keys)))) := by
  obtain ⟨before, budget, tick, ran, answer, once, above, _⟩ :=
    dpm_closed_loop (ready_dpmLoop 400 twoGpus) [unevenLoad] (loadEvent fun _ => fullLoad)
  exact ⟨before, budget, tick, ran, answer, once, fun exceeds => (above exceeds).1⟩

end SimLoop

end Opendps.Controller
