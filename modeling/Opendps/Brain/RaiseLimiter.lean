/-
**The raise limiter, next to the other writers of the caps.**

With `cap_raise_rate_w_per_tick` set, a cap may rise by at most that much per tick. The brain measures
the rise from the cap it remembers, and asks for the reported cap only where it remembers none. When
the failsafe or a hardware clamp has lowered the cap in force since, the remembered cap is out of date
and the rise of the cap in force is not bounded.

* `raise_bounded_iff` is about one decision of every reachable brain: a cap rises by at most the rate
  over the reported one exactly when the brain remembers no cap above the reported one, or the draws, the
  maximum and the budget leave the GPU no more than that anyway (`AsksAtMost`).
* `rises_bounded_along` is the guarantee that remains over whole runs: while the other writers never
  put a cap below the one the brain remembers, every tick raises every cap by at most the rate.
-/

import Opendps.Agent.Failsafe
import Opendps.Brain.PrsBudget

namespace Opendps.Brain

open Opendps.Lib Opendps.Pdn

namespace Tick

/-! ### The cap of one GPU -/

/-- What a tick asks for, before the raise limiter. -/
def target (tick : Tick) (gpu : GpuIndex) : ℚ :=
  if tick.isHot gpu then tick.hotCap gpu else tick.idleFloor gpu

theorem get?_targets {tick : Tick} {gpu : GpuIndex} {watts : ℚ}
    (asked : tick.targets.get? gpu = some watts) : watts = tick.target gpu := by
  have member := Dict.get?_eq_some_iff.mp asked
  rw [items_targets, List.mem_append, List.mem_map, List.mem_map] at member
  rcases member with ⟨other, isIdle, same⟩ | ⟨other, isHot, same⟩
  · cases same
    have cold : tick.isHot gpu = false := by
      simpa using (List.mem_filter.mp isIdle).2
    rw [target, cold]
    rfl
  · cases same
    rw [target, (List.mem_filter.mp isHot).2]
    rfl

/-- With the limiter on, a cap is a limited target. -/
theorem get?_caps {tick : Tick} (limited : 0 < tick.params.capRaiseRateWPerTick) {gpu : GpuIndex}
    {cap : ℚ} (decided : tick.caps.get? gpu = some cap) :
    cap = tick.limitRaise gpu (tick.target gpu) := by
  rw [caps, if_pos limited, Dict.get?_mapVals, Option.map_eq_some_iff] at decided
  obtain ⟨watts, asked, rfl⟩ := decided
  rw [get?_targets asked]

/-- **One GPU at one tick.** Its cap stays within the rate of the reported one exactly when the brain
remembers no higher one, or asks for no more anyway. -/
theorem cap_le_iff {tick : Tick} (limited : 0 < tick.params.capRaiseRateWPerTick) {gpu : GpuIndex}
    {reported cap : ℚ} (measured : tick.state.gpuCaps.get? gpu = some reported)
    (decided : tick.caps.get? gpu = some cap) :
    cap ≤ reported + tick.params.capRaiseRateWPerTick ↔
      (∀ remembered, tick.last.get? gpu = some remembered → remembered ≤ reported) ∨
        tick.target gpu ≤ reported + tick.params.capRaiseRateWPerTick := by
  rw [get?_caps limited decided]
  cases memory : tick.last.get? gpu with
  | none =>
    have baseline : tick.baseline gpu = some reported := by
      rw [Tick.baseline, memory, measured]
      rfl
    rw [limitRaise_of_baseline baseline]
    exact iff_of_true (min_le_right _ _) (.inl fun remembered found => nomatch found)
  | some previous =>
    have baseline : tick.baseline gpu = some previous := by
      rw [Tick.baseline, memory]
      rfl
    rw [limitRaise_of_baseline baseline, min_le_iff, add_le_add_iff_right, or_comm]
    refine or_congr_left ⟨fun below remembered found => ?_, fun below => below previous rfl⟩
    cases found
    exact below

end Tick

namespace PrsInputs

/-- A busy GPU asks for at most a limit when `min_cap_w` and its maximum or its part of the budget are at
most the limit, a quiet one when its maximum is or `min_cap_w` and its draw with the margin are. -/
def AsksAtMost (inputs : PrsInputs) (gpu : GpuIndex) (limit : ℚ) : Prop :=
  if inputs.Busy gpu then
    inputs.params.minCapW ≤ limit ∧ (inputs.maximum gpu ≤ limit ∨ inputs.part gpu ≤ limit)
  else (inputs.params.minCapW ≤ limit ∧ inputs.padded gpu ≤ limit) ∨ inputs.maximum gpu ≤ limit

theorem asked_le_iff {inputs : PrsInputs} {gpu : GpuIndex} {limit : ℚ} :
    inputs.asked gpu ≤ limit ↔ inputs.AsksAtMost gpu limit := by
  unfold asked AsksAtMost
  split
  · rw [max_le_iff, min_le_iff, ceiling, max_le_iff]
    constructor
    · rintro ⟨floor, ⟨_, maximum⟩ | part⟩
      · exact ⟨floor, .inl maximum⟩
      · exact ⟨floor, .inr part⟩
    · rintro ⟨floor, maximum | part⟩
      · exact ⟨floor, .inl ⟨floor, maximum⟩⟩
      · exact ⟨floor, .inr part⟩
  · rw [minCapW_add_extra, min_le_iff, max_le_iff]

end PrsInputs

/-! ### Every reachable brain -/

/-- **The raise limiter, exactly.** From every reachable brain with a positive rate, for every GPU
whose cap in force is reported, the decided cap is at most the reported one plus the rate if and only
if the brain remembers no cap above the reported one, or the GPU asks for no more than that sum. -/
theorem raise_bounded_iff {params : PRSParams} {brain next : PRSBrain}
    (reachable : PRSBrain.Reachable params brain) (limited : 0 < params.capRaiseRateWPerTick)
    {topology : PDNTopology} {domainName : String} {state : DomainState} {decision : BrainDecision}
    {budget : ℚ} (answer : topology.domainBudgetW domainName = .ok budget)
    (call : brain.decide topology domainName state = .ok (decision, next)) {gpu : GpuIndex}
    {reported cap : ℚ} (measured : state.gpuCaps.get? gpu = some reported)
    (decided : decision.caps.get? gpu = some cap) :
    cap ≤ reported + params.capRaiseRateWPerTick ↔
      (∀ remembered, (brain.lastCaps.getD domainName .empty).get? gpu = some remembered →
        remembered ≤ reported) ∨
      (brain.inputs budget domainName state).AsksAtMost gpu
        (reported + params.capRaiseRateWPerTick) := by
  have sameParams : (brain.tick budget domainName state).params = params := reachable.params_eq
  rw [(PRSBrain.decide_ok answer call).1] at decided
  have oneTick := Tick.cap_le_iff (sameParams ▸ limited) measured decided
  have present : gpu ∈ (brain.inputs budget domainName state).gpus :=
    Tick.mem_keys_caps.mp (Dict.mem_keys_iff.mpr ⟨cap, decided⟩)
  have asks : (brain.tick budget domainName state).target gpu =
      (brain.inputs budget domainName state).asked gpu := (PrsInputs.asked_eq present).symm
  rw [sameParams, asks, PrsInputs.asked_le_iff] at oneTick
  exact oneTick

/-! ### Runs with other writers -/

/-- One domain under control: the brain and the caps in force. -/
structure CapLoop where
  brain : PRSBrain
  caps : Dict GpuIndex ℚ

/-- One tick of the controller, or one write by another party. -/
inductive CapEvent where
  | tick (topology : PDNTopology) (draws maxCaps : Dict GpuIndex ℚ) (ts : ℚ)
  | write (gpu : GpuIndex) (watts : ℚ)

namespace CapLoop

/-- The telemetry of a tick reports the caps in force. -/
def observed (loop : CapLoop) (domainName : String) (draws maxCaps : Dict GpuIndex ℚ) (ts : ℚ) :
    DomainState where
  domainName := domainName
  gpuDraws := draws
  gpuCaps := loop.caps
  gpuMaxCaps := maxCaps
  ts := ts

/-- A tick pushes the decided caps; one that raises leaves everything as it is. -/
def step (domainName : String) (loop : CapLoop) : CapEvent → CapLoop
  | .write gpu watts => { loop with caps := loop.caps.set gpu watts }
  | .tick topology draws maxCaps ts =>
    match loop.brain.decide topology domainName (loop.observed domainName draws maxCaps ts) with
    | .error _ => loop
    | .ok (decision, brain) => { brain := brain, caps := loop.caps.update decision.caps }

/-- The cap the brain remembers for a GPU. -/
def remembered (domainName : String) (loop : CapLoop) (gpu : GpuIndex) : Option ℚ :=
  (loop.brain.lastCaps.getD domainName .empty).get? gpu

/-- A write does not put a cap below the remembered one. -/
def KeepsRemembered (domainName : String) (loop : CapLoop) : CapEvent → Prop
  | .write gpu watts => ∀ cap, loop.remembered domainName gpu = some cap → cap ≤ watts
  | .tick .. => True

/-- A tick raises every cap in force by at most the rate. -/
def RisesWithin (domainName : String) (rate : ℚ) (loop : CapLoop) : CapEvent → Prop
  | .write .. => True
  | .tick topology draws maxCaps ts => ∀ gpu before after, loop.caps.get? gpu = some before →
      (loop.step domainName (.tick topology draws maxCaps ts)).caps.get? gpu = some after →
        after ≤ before + rate

/-- The rate of the brain is the configured one, and no remembered cap is above the one in force. -/
structure Current (params : PRSParams) (domainName : String) (loop : CapLoop) : Prop where
  params_eq : loop.brain.params = params
  inForce : ∀ gpu cap, loop.remembered domainName gpu = some cap →
    ∃ watts, loop.caps.get? gpu = some watts ∧ cap ≤ watts

variable {params : PRSParams} {domainName : String} {loop : CapLoop}

/-- What a tick does: nothing, or it takes over the decided brain and pushes the decided caps. -/
theorem step_tick (domainName : String) (loop : CapLoop) (topology : PDNTopology)
    (draws maxCaps : Dict GpuIndex ℚ) (ts : ℚ) :
    loop.step domainName (.tick topology draws maxCaps ts) = loop ∨
      ∃ budget decision brain, topology.domainBudgetW domainName = .ok budget ∧
        loop.brain.decide topology domainName (loop.observed domainName draws maxCaps ts) =
          .ok (decision, brain) ∧
        loop.step domainName (.tick topology draws maxCaps ts) =
          { brain := brain, caps := loop.caps.update decision.caps } := by
  cases answer : topology.domainBudgetW domainName with
  | error exc => exact .inl (by simp only [step, loop.brain.decide_error _ answer])
  | ok budget =>
    obtain ⟨decision, brain, call⟩ :=
      loop.brain.decide_isOk (loop.observed domainName draws maxCaps ts) answer
    refine .inr ⟨budget, decision, brain, rfl, call, ?_⟩
    simp only [step, call]

/-- A freshly built brain remembers nothing. -/
theorem Current.init (params : PRSParams) (domainName : String) (caps : Dict GpuIndex ℚ) :
    Current params domainName { brain := { params := params }, caps := caps } where
  params_eq := rfl
  inForce _ _ found := nomatch found

theorem Current.write (current : Current params domainName loop) {gpu : GpuIndex} {watts : ℚ}
    (keeps : loop.KeepsRemembered domainName (.write gpu watts)) :
    Current params domainName (loop.step domainName (.write gpu watts)) where
  params_eq := current.params_eq
  inForce other cap found := by
    have caps : (loop.step domainName (.write gpu watts)).caps = loop.caps.set gpu watts := rfl
    rw [caps, Dict.get?_set]
    by_cases same : other = gpu
    · rw [if_pos same]
      exact ⟨watts, rfl, keeps cap (same ▸ found)⟩
    · rw [if_neg same]
      exact current.inForce other cap found

theorem Current.tick (current : Current params domainName loop) (topology : PDNTopology)
    (draws maxCaps : Dict GpuIndex ℚ) (ts : ℚ) :
    Current params domainName (loop.step domainName (.tick topology draws maxCaps ts)) := by
  rcases step_tick domainName loop topology draws maxCaps ts with
    same | ⟨budget, decision, brain, answer, call, next⟩
  · rw [same]
    exact current
  · obtain ⟨caps, sameParams, _, lastCaps⟩ := PRSBrain.decide_ok answer call
    rw [next]
    refine ⟨sameParams.trans current.params_eq, fun gpu cap found => ⟨cap, ?_, le_rfl⟩⟩
    rw [remembered, lastCaps, Dict.getD, Dict.get?_set_self, ← caps, Option.getD_some] at found
    rw [Dict.get?_update, found]
    rfl

/-- **One tick.** While no remembered cap is above the one in force, a tick raises every cap by at
most the rate. -/
theorem Current.risesWithin (current : Current params domainName loop)
    (limited : 0 < params.capRaiseRateWPerTick) (event : CapEvent) :
    loop.RisesWithin domainName params.capRaiseRateWPerTick event := by
  cases event with
  | write gpu watts => trivial
  | tick topology draws maxCaps ts =>
    intro gpu before after inForce pushed
    have unraised : before ≤ before + params.capRaiseRateWPerTick := by linarith
    rcases step_tick domainName loop topology draws maxCaps ts with
      same | ⟨budget, decision, brain, answer, call, next⟩
    · rw [same, inForce] at pushed
      cases pushed
      exact unraised
    · rw [next, Dict.get?_update] at pushed
      cases decided : decision.caps.get? gpu with
      | none =>
        rw [decided, Option.none_or, inForce] at pushed
        cases pushed
        exact unraised
      | some cap =>
        rw [decided] at pushed
        cases pushed
        rw [(PRSBrain.decide_ok answer call).1] at decided
        rw [← current.params_eq] at limited ⊢
        have oneTick := Tick.cap_le_iff limited inForce decided
        refine oneTick.mpr (.inl fun cap found => ?_)
        obtain ⟨watts, stored, below⟩ := current.inForce gpu cap found
        rw [inForce] at stored
        cases stored
        exact below

/-- **Whole runs.** From a freshly built brain, while no write puts a cap below the remembered one,
every tick raises every cap by at most the rate. -/
theorem rises_bounded_along (limited : 0 < params.capRaiseRateWPerTick) (caps : Dict GpuIndex ℚ)
    {events : List CapEvent}
    (keeps : Along (step domainName) { brain := { params := params }, caps := caps }
      (fun _ loop => loop.KeepsRemembered domainName) events) :
    Along (step domainName) { brain := { params := params }, caps := caps }
      (fun _ loop => loop.RisesWithin domainName params.capRaiseRateWPerTick) events := by
  intro past event rest split
  have before : Along (step domainName) { brain := { params := params }, caps := caps }
      (fun _ loop => loop.KeepsRemembered domainName) past := (split ▸ keeps).past
  have current : Current params domainName
      (run (step domainName) { brain := { params := params }, caps := caps } past) := by
    refine run_invariant_of_along (fun _ => Current params domainName)
      (.init params domainName caps) (fun past event loop current kept => ?_) before
    cases event with
    | write gpu watts => exact current.write kept
    | tick topology draws maxCaps ts => exact current.tick topology draws maxCaps ts
  exact current.risesWithin limited event

end CapLoop

/-! ### After a trip of the failsafe

GPU 0 runs at its cap of 500 W. The failsafe puts it at 200 W, and the next decision is 500 W. -/

/-- The default parameters with a rate of 50 W. -/
def limitedParams : PRSParams :=
  { defaultParams with capRaiseRateWPerTick := 50, rate_nonneg := by norm_num }

def atCapState : DomainState where
  domainName := "domain-0"
  gpuDraws := .ofList [(0, 475), (1, 100)]
  gpuCaps := .ofList [(0, 500), (1, 500)]
  gpuMaxCaps := .ofList [(0, 500), (1, 500)]
  ts := 0

def trippedState : DomainState where
  domainName := "domain-0"
  gpuDraws := .ofList [(0, 475), (1, 100)]
  gpuCaps := .ofList [(0, 200), (1, 200)]
  gpuMaxCaps := .ofList [(0, 500), (1, 500)]
  ts := 1

/-- The brain after the tick at the cap. -/
def atCapBrain : PRSBrain :=
  let tick := PRSBrain.tick { params := limitedParams } 1000 "domain-0" atCapState
  { params := limitedParams
    ewma := Dict.empty.set "domain-0" tick.ewma
    lastCaps := Dict.empty.set "domain-0" tick.caps
    lastMetrics := Dict.empty.set "domain-0" tick.metrics }

theorem reachable_atCapBrain : PRSBrain.Reachable limitedParams atCapBrain := by
  have call : ∃ decision, PRSBrain.decide { params := limitedParams } skewedTopology "domain-0"
      atCapState = .ok (decision, atCapBrain) := by
    unfold PRSBrain.decide
    rw [domainBudgetW_skewed]
    exact ⟨_, rfl⟩
  obtain ⟨decision, answered⟩ := call
  exact .decide .init answered

/-- The failsafe lowers GPU 0 to 200 W, and a reachable brain raises it to 500 W in one tick. -/
theorem raise_exceeds_rate :
    PRSBrain.Reachable limitedParams atCapBrain ∧
      (∃ loop, Agent.FailsafeLoop.init 450 200 = .ok loop ∧
        let failsafe := loop.run 2 Agent.recordingCapSink
        ((run failsafe.step (failsafe.start fun gpu => if gpu = 0 then 500 else 200)
          [.reading (.ok 475), .write .taken]).caps 0 = 200)) ∧
      trippedState.gpuCaps.get? 0 = some 200 ∧
      ∃ decision next,
        atCapBrain.decide skewedTopology "domain-0" trippedState = .ok (decision, next) ∧
          decision.caps.get? 0 = some 500 ∧
          ¬ (500 : ℚ) ≤ 200 + limitedParams.capRaiseRateWPerTick := by
  have loop : Agent.FailsafeLoop.init 450 200 = .ok ⟨450, 200, by norm_num⟩ := by
    rw [Agent.FailsafeLoop.init, dif_pos (by norm_num)]
  refine ⟨reachable_atCapBrain, ⟨_, loop, by decide +kernel⟩, by decide +kernel, ?_⟩
  obtain ⟨decision, next, call⟩ := atCapBrain.decide_isOk trippedState domainBudgetW_skewed
  refine ⟨decision, next, call, ?_, by decide +kernel⟩
  rw [(PRSBrain.decide_ok domainBudgetW_skewed call).1]
  decide +kernel

/-- The equivalence at that decision: 500 W are remembered and asked for, 200 W reported. -/
theorem raise_bounded_iff_tripped :
    ∃ decision next,
      atCapBrain.decide skewedTopology "domain-0" trippedState = .ok (decision, next) ∧
        ((500 : ℚ) ≤ 200 + limitedParams.capRaiseRateWPerTick ↔
          (∀ remembered, (atCapBrain.lastCaps.getD "domain-0" .empty).get? 0 = some remembered →
            remembered ≤ 200) ∨
          (atCapBrain.inputs 1000 "domain-0" trippedState).AsksAtMost 0
            (200 + limitedParams.capRaiseRateWPerTick)) := by
  obtain ⟨decision, next, call⟩ := atCapBrain.decide_isOk trippedState domainBudgetW_skewed
  have decided : decision.caps.get? 0 = some 500 := by
    rw [(PRSBrain.decide_ok domainBudgetW_skewed call).1]
    decide +kernel
  exact ⟨decision, next, call, raise_bounded_iff reachable_atCapBrain (by norm_num [limitedParams])
    domainBudgetW_skewed call (by decide +kernel) decided⟩

end Opendps.Brain
