/-
**Runs of the standalone controller.**

A run is any number of rounds of the loop: reads that fail, pushes that raise, polls that give up and
brains that refuse are all part of it.

* `Actuator.Keeps.rounds`: what the calls of an actuator keep, every run keeps; for the simulated fleet
  that is `InEnvelope`, so a GPU's draw stays between zero and its cap and the cap below the maximum
  (`fleet_stays_in_envelope`).
* `dry_run_prints_the_live_run`: under one telemetry a dry run prints what a live run prints, whatever is
  pushed there, and leaves the actuator alone.
* `counters_match_showback`: the counters of the tenants are the report at every moment.
-/

import Opendps.Controller.Standalone
import Opendps.Sim.Presets

namespace Opendps.Controller

open Opendps.Lib Opendps.Pdn Opendps.Brain Opendps.Telemetry Opendps.Sim

/-! ### What an actuator keeps -/

/-- No call of an actuator leaves `safe`, also one that raises. -/
structure Actuator.Keeps {σ : Type} (actuator : Actuator σ) (safe : σ → Prop) : Prop where
  setPowerCap : ∀ state idx watts, safe state → safe (actuator.setPowerCap state idx watts).2
  pushAllCaps : ∀ pushAllCaps, actuator.pushAllCaps = some pushAllCaps →
    ∀ state caps, safe state → safe (pushAllCaps state caps).2
  tick : ∀ tick, actuator.tick = some tick → ∀ state samples, safe state → safe (tick state samples)

namespace Actuator.Keeps

variable {σ : Type} {actuator : Actuator σ} {safe : σ → Prop}

theorem setEach (keeps : actuator.Keeps safe) (caps : List (GpuIndex × ℚ)) {state : σ}
    (before : safe state) : safe (actuator.setEach caps state).2 := by
  induction caps generalizing state with
  | nil => exact before
  | cons item rest ih =>
    have once := keeps.setPowerCap state item.1 item.2 before
    unfold Actuator.setEach
    cases set : actuator.setPowerCap state item.1 item.2 with
    | mk outcome next =>
      rw [set] at once
      cases outcome with
      | error exc => exact once
      | ok done => exact ih once

theorem push (keeps : actuator.Keeps safe) (caps : Dict GpuIndex ℚ) {state : σ}
    (before : safe state) : safe (actuator.push caps state).2 := by
  unfold Actuator.push
  split
  · next pushAllCaps given => exact keeps.pushAllCaps pushAllCaps given state caps before
  · exact keeps.setEach caps.items before

theorem effect (keeps : actuator.Keeps safe) {self : RunningController σ}
    (before : safe self.actuator) (caps : Dict GpuIndex ℚ) : safe (self.effect actuator caps).2 := by
  unfold RunningController.effect
  split
  · exact before
  · exact keeps.push caps before

theorem runDomain (keeps : actuator.Keeps safe) {self : RunningController σ}
    (before : safe self.actuator) (gpuByIndex : Option (Dict ℤ GpuSample)) (moment : Moment)
    (domainName : String) :
    safe (self.runDomain actuator gpuByIndex moment domainName).2.actuator := by
  rcases RunningController.actuator_runDomain actuator gpuByIndex moment self domainName with
    same | ⟨caps, pushed⟩
  · rw [same]
    exact before
  · rw [pushed]
    exact keeps.effect before caps

theorem advance (keeps : actuator.Keeps safe) {self : RunningController σ}
    (before : safe self.actuator) (samples : GpuIndex → Util) :
    safe (self.advance actuator samples).actuator := by
  unfold RunningController.advance
  split
  · next tick given =>
    split
    · exact keeps.tick tick given _ samples before
    · exact before
  · exact before

theorem refreshTiers (codec : Codec) (self : RunningController σ) (input : PollInput) :
    (self.refreshTiers codec input).2.actuator = self.actuator := by
  obtain ⟨source, brain, same, _⟩ := RunningController.refreshTiers_snd codec self input
  rw [same]

theorem loopTick (keeps : actuator.Keeps safe) (codec : Codec) {self : RunningController σ}
    (before : safe self.actuator) (event : ControllerEvent) :
    safe (self.loopTick codec actuator event).actuator :=
  @RunningController.loopTick_invariant σ actuator self (fun state => safe state.actuator) codec
    event (fun state holds => (refreshTiers codec state event.polled).symm ▸ holds)
    (fun gpuByIndex _ _ domainName holds =>
      keeps.runDomain holds gpuByIndex event.moment domainName)
    (fun _ holds => keeps.advance holds event.samples) before

/-- **Over every run.** -/
theorem rounds (keeps : actuator.Keeps safe) (codec : Codec) {self : RunningController σ}
    (before : safe self.actuator) (events : List ControllerEvent) :
    safe (run (RunningController.loopTick codec actuator) self events).actuator :=
  run_invariant (fun _ (state : RunningController σ) => safe state.actuator) before
    (fun _ event _ holds => keeps.loopTick codec holds event) events

end Actuator.Keeps

/-! ### The simulated fleet -/

/-- The fleet it was, each GPU with a cap from zero to its maximum. -/
def SameFleet (start backend : SimBackend) : Prop :=
  Dict.Matches (fun _ (before after : SimGpu) =>
    after.maxCapW = before.maxCapW ∧ 0 ≤ after.capW ∧ after.capW ≤ after.maxCapW)
    start.gpus backend.gpus

/-- Every cap is from zero to the hardware maximum. -/
def InEnvelope (backend : SimBackend) : Prop :=
  ∀ idx gpu, backend.gpus.get? idx = some gpu → 0 ≤ gpu.capW ∧ gpu.capW ≤ gpu.maxCapW

theorem InEnvelope.sameFleet {backend : SimBackend} (inside : InEnvelope backend) :
    SameFleet backend backend := by
  intro idx
  cases found : backend.gpus.get? idx with
  | none => exact .none
  | some gpu => exact .some ⟨rfl, inside idx gpu found⟩

theorem keeps_sameFleet (start : SimBackend) : simActuator.Keeps (SameFleet start) where
  setPowerCap backend idx watts same := by
    cases found : backend.gpus.get? idx with
    | none =>
      have missing : backend.setPowerCap idx watts = .error (.keyError (toString idx)) := by
        rw [SimBackend.setPowerCap, SimBackend.gpu, found]
        rfl
      simp only [simActuator, missing]
      exact same
    | some gpu =>
      have set : backend.setPowerCap idx watts = .ok ⟨backend.gpus.set idx (gpu.setCap watts)⟩ := by
        rw [SimBackend.setPowerCap, SimBackend.gpu, found]
        rfl
      simp only [simActuator, set]
      intro place
      rw [Dict.get?_set]
      split
      · next here =>
        obtain ⟨before, stood, sameMax, nonneg, below⟩ := same.exists_left found
        rw [here, stood]
        exact .some ⟨sameMax, le_min (le_max_left _ _) (nonneg.trans below), min_le_right _ _⟩
      · exact same place
  pushAllCaps _ given := nomatch given
  tick tick given backend samples same idx := by
    cases given
    have here := same idx
    rw [SimBackend.tick, Dict.get?_mapVals]
    cases found : backend.gpus.get? idx with
    | none =>
      rw [found] at here
      exact here
    | some gpu =>
      rw [found] at here
      cases stood : start.gpus.get? idx with
      | none =>
        rw [stood] at here
        cases here
      | some before =>
        rw [stood] at here
        cases here with
        | some holds => exact .some holds

/-- A GPU with a cap that is not negative draws no less than nothing. -/
theorem powerDrawW_nonneg {gpu : SimGpu} (nonneg : 0 ≤ gpu.capW) : 0 ≤ gpu.powerDrawW := by
  have load := gpu.currentUtil.nonneg
  exact le_min (by positivity) nonneg

/-- **The fleet stays in its envelope.** Whatever a controller with any brain meets, in a dry run or not,
in sim mode or not: after every run the GPUs and their maxima are those of the start, and each GPU draws
from zero to its cap, which is at most its maximum. -/
theorem fleet_stays_in_envelope (codec : Codec) {self : RunningController SimBackend}
    (inside : InEnvelope self.actuator) (events : List ControllerEvent) :
    let fleet := (run (RunningController.loopTick codec simActuator) self events).actuator
    (∀ idx, idx ∈ fleet.gpus.keys ↔ idx ∈ self.actuator.gpus.keys) ∧
      ∀ idx gpu, fleet.gpus.get? idx = some gpu →
        (∃ before, self.actuator.gpus.get? idx = some before ∧ gpu.maxCapW = before.maxCapW) ∧
          0 ≤ gpu.powerDrawW ∧ gpu.powerDrawW ≤ gpu.capW ∧ gpu.capW ≤ gpu.maxCapW := by
  intro fleet
  have same : SameFleet self.actuator fleet :=
    (keeps_sameFleet self.actuator).rounds codec inside.sameFleet events
  refine ⟨fun idx => same.mem_keys_iff.symm, fun idx gpu found => ?_⟩
  obtain ⟨before, stood, sameMax, nonneg, below⟩ := same.exists_left found
  exact ⟨⟨before, stood, sameMax⟩, powerDrawW_nonneg nonneg, gpu.powerDrawW_le, below⟩

/-- A fleet of a preset starts in its envelope. -/
theorem inEnvelope_cappedFleet {nGpus : ℕ} {capW : ℚ} (nonneg : 0 ≤ capW) (first : GpuIndex → Util) :
    InEnvelope (cappedFleet nGpus capW first) := by
  intro idx gpu found
  rw [get?_cappedFleet found]
  exact ⟨nonneg, le_rfl⟩

/-- A GPU under full load. -/
def busyLoad : Util := ⟨100, hundred_nonneg, hundred_le⟩

/-- Two domains on the demo fleet, with the proportional brain. -/
def demoController : RunningController SimBackend where
  config := { quotaConfig := some MeteredController.sharedQuota, simMode := true }
  deciding :=
    { topology := MeteredController.twoDomains, managedDomains := ["d0", "d1"], brain := .dpm {} }
  actuator := oversubScenario 3 fun _ => busyLoad

theorem inEnvelope_demoController : InEnvelope demoController.actuator :=
  inEnvelope_cappedFleet (by norm_num) _

/-- A round in which Prometheus answers with no JSON, and the registry is gone. -/
def demoEvent : ControllerEvent where
  nodeSample := .error (.jsonDecodeError "Expecting value: line 1 column 1 (char 0)")
  moment := { ts := 0, around := { now := 0, isGpuBusy := fun _ => false } }
  samples _ := busyLoad
  polled := ⟨true, .error ⟨some 404⟩⟩

/-- After two rounds of the demo GPU 2 is in its envelope. -/
theorem fleet_stays_in_envelope_demo :
    let fleet := (run (RunningController.loopTick (PriorityConfigSource.boostCodec 10 "10")
      simActuator) demoController [demoEvent, demoEvent]).actuator
    ∃ gpu, fleet.gpus.get? 2 = some gpu ∧ gpu.powerDrawW ≤ gpu.capW ∧ gpu.capW ≤ gpu.maxCapW := by
  intro fleet
  obtain ⟨sameGpus, inside⟩ := fleet_stays_in_envelope (PriorityConfigSource.boostCodec 10 "10")
    inEnvelope_demoController [demoEvent, demoEvent]
  have listed : (2 : GpuIndex) ∈ demoController.actuator.gpus.keys :=
    mem_keys_cappedFleet.mpr ⟨by norm_num, by norm_num⟩
  obtain ⟨gpu, found⟩ := Dict.mem_keys_iff.mp ((sameGpus 2).mpr listed)
  exact ⟨gpu, found, (inside 2 gpu found).2.2⟩

/-! ### A dry run -/

namespace RunningController

section DryRun

variable {σ τ : Type} {actuator : Actuator σ} {idle : Actuator τ} {moment : Moment}
  {live : RunningController σ} {still : τ}

/-- The same controller in a dry run, with an actuator that stands still. -/
def dryTwin (live : RunningController σ) (still : τ) : RunningController τ where
  config := { live.config with dryRun := true }
  deciding := live.deciding
  energy := live.energy
  tenantEnergy := live.tenantEnergy
  gauges := live.gauges
  printed := live.printed
  prioritySource := live.prioritySource
  actuator := still

/-- One domain: where the push does not raise, the twin does the same but for the actuator. -/
theorem runDomain_dryTwin (quiet : ∀ state caps, (actuator.push caps state).1 = .ok ())
    (gpuByIndex : Dict ℤ GpuSample) (domainName : String) :
    (live.dryTwin still).runDomain idle (some gpuByIndex) moment domainName =
      ((live.runDomain actuator (some gpuByIndex) moment domainName).1,
        (live.runDomain actuator (some gpuByIndex) moment domainName).2.dryTwin still) := by
  have sampled : (live.dryTwin still).source idle (some gpuByIndex) =
      live.source actuator (some gpuByIndex) := rfl
  have unpushed : ∀ caps, (live.dryTwin still).effect idle caps = (.ok (), still) := fun _ => rfl
  have silent : ∀ caps, ∃ pushed, live.effect actuator caps = (.ok (), pushed) := by
    intro caps
    unfold effect
    split
    · exact ⟨_, rfl⟩
    · exact ⟨_, Prod.ext (quiet _ caps) rfl⟩
  have sameStart : (live.dryTwin still).deciding = live.deciding := rfl
  unfold runDomain
  dsimp only
  rw [sampled, sameStart]
  cases live.deciding.observe (live.source actuator (some gpuByIndex)) moment domainName with
  | mk outcome adopted =>
    cases outcome with
    | error exc => rfl
    | ok readings =>
      dsimp only
      cases adopted.brain.decide adopted.topology domainName (adopted.domainState
          (live.source actuator (some gpuByIndex)) readings moment domainName) moment.around with
      | error exc => rfl
      | ok answer =>
        obtain ⟨decision, brain⟩ := answer
        obtain ⟨pushed, effected⟩ := silent decision.caps
        have accounted : ({ live with deciding := { adopted with brain := brain } }.account domainName
            readings.gpuDraws).effect actuator decision.caps = (.ok (), pushed) := effected
        dsimp only
        rw [accounted]
        rfl

theorem runDomains_dryTwin (quiet : ∀ state caps, (actuator.push caps state).1 = .ok ())
    (gpuByIndex : Dict ℤ GpuSample) (domainNames : List String) :
    runDomains idle (some gpuByIndex) moment domainNames (live.dryTwin still) =
      ((runDomains actuator (some gpuByIndex) moment domainNames live).1,
        (runDomains actuator (some gpuByIndex) moment domainNames live).2.dryTwin still) := by
  induction domainNames generalizing live with
  | nil => rfl
  | cons domainName rest ih =>
    unfold runDomains
    rw [runDomain_dryTwin quiet]
    cases live.runDomain actuator (some gpuByIndex) moment domainName with
    | mk outcome next =>
      cases outcome with
      | error exc => rfl
      | ok decision =>
        dsimp only
        rw [ih]
        cases runDomains actuator (some gpuByIndex) moment rest next with
        | mk outcome last => cases outcome <;> rfl

theorem refreshTiers_dryTwin (codec : Codec) (input : PollInput) :
    (live.dryTwin still).refreshTiers codec input =
      ((live.refreshTiers codec input).1, (live.refreshTiers codec input).2.dryTwin still) := by
  unfold refreshTiers
  cases polled : live.prioritySource with
  | none => simp only [dryTwin, polled]
  | some source =>
    cases brain : live.deciding.brain with
    | priorityPrs old =>
      simp only [dryTwin, polled, brain]
      cases afterPoll codec source input with
      | mk outcome after =>
        cases outcome with
        | error exc => rfl
        | ok done =>
          simp only [setTiers, brain]
          cases old.setTiers after.snapshot <;> rfl
    | _ => simp only [dryTwin, polled, brain, setTiers]

/-- Telemetry that is not read off the actuator is not read off it in a dry run either. -/
theorem readsActuator_dryTwin : (live.dryTwin still).readsActuator = live.readsActuator := rfl

/-- A round of the loop. -/
theorem loopTick_dryTwin (codec : Codec) (quiet : ∀ state caps, (actuator.push caps state).1 = .ok ())
    (sampled : live.readsActuator = false) (event : ControllerEvent) :
    (live.dryTwin still).loopTick codec idle event =
      (live.loopTick codec actuator event).dryTwin still := by
  have same := (sameController_refreshTiers codec live event.polled).config
  unfold loopTick
  rw [refreshTiers_dryTwin]
  cases refreshed : live.refreshTiers codec event.polled with
  | mk outcome next =>
    rw [refreshed] at same
    have off : next.readsActuator = false := by
      rw [readsActuator, same]
      exact sampled
    have noSim : next.config.simMode = false := (Bool.or_eq_false_iff.mp off).1
    cases outcome with
    | error exc => rfl
    | ok done =>
      dsimp only
      unfold runOnce sampleNode
      rw [readsActuator_dryTwin, off]
      cases event.nodeSample with
      | error exc => rfl
      | ok gpuByIndex =>
        have passes := @runDomains_dryTwin σ τ actuator idle event.moment next still quiet gpuByIndex
          next.deciding.managedDomains
        have kept := @runDomains_invariant σ actuator (some gpuByIndex) event.moment next
          (fun state => state.config.simMode = false) (fun state domainName before => by
            rw [(sameController_runDomain actuator (some gpuByIndex) event.moment state
              domainName).config]
            exact before) next.deciding.managedDomains noSim
        have sameStart : (next.dryTwin still).deciding = next.deciding := rfl
        simp only [Bool.false_eq_true, if_false, Except.map, sameStart]
        rw [passes]
        cases ran : runDomains actuator (some gpuByIndex) event.moment next.deciding.managedDomains
            next with
        | mk outcome last =>
          rw [ran] at kept
          have unmoved : ∀ {ρ : Type} (other : Actuator ρ) (state : RunningController ρ),
              state.config.simMode = false → state.advance other event.samples = state := by
            intro ρ other state off
            unfold advance
            split
            · rw [if_neg (by rw [off]; exact Bool.false_ne_true)]
            · rfl
          cases outcome with
          | error exc => rfl
          | ok decisions =>
            have dryOff : (last.dryTwin still).config.simMode = false := kept
            simp only [unmoved actuator last kept, unmoved idle _ dryOff]

/-- **A dry run prints the live run.** Two controllers that read the same samples of Prometheus, one of
them in a dry run: after every run they have made the same decisions, exported and printed the same and
metered the same, whatever the live one has pushed to an actuator whose pushes do not raise; and the
other actuator stands where it stood. -/
theorem dry_run_prints_the_live_run (codec : Codec)
    (quiet : ∀ state caps, (actuator.push caps state).1 = .ok ())
    (sampled : live.readsActuator = false) (events : List ControllerEvent) :
    run (loopTick codec idle) (live.dryTwin still) events =
      (run (loopTick codec actuator) live events).dryTwin still := by
  have both := @run_related _ _ (loopTick codec actuator) live _ (loopTick codec idle)
    (live.dryTwin still)
    (fun state twin => state.readsActuator = false ∧ twin = state.dryTwin still) ⟨sampled, rfl⟩
    (fun state twin event holds => by
      obtain ⟨off, rfl⟩ := holds
      refine ⟨?_, loopTick_dryTwin codec quiet off event⟩
      rw [readsActuator, (sameController_loopTick codec actuator state event).config]
      exact off) events
  exact both.2

end DryRun

/-- An actuator that keeps what is pushed to it. -/
def recorder : Actuator (List (Dict GpuIndex ℚ)) where
  read _ idx := .error (.keyError (toString idx))
  setPowerCap pushes _ _ := (.ok (), pushes)
  pushAllCaps := some fun pushes caps => (.ok (), pushes ++ [caps])

/-- A live controller on the recorder; the demo fleet is left alone in the dry run. -/
theorem dry_run_prints_the_live_run_demo :
    let live : RunningController (List (Dict GpuIndex ℚ)) :=
      { config := { telemetry := "prom" }, deciding := demoController.deciding, actuator := [] }
    (run (loopTick (PriorityConfigSource.boostCodec 10 "10") simActuator)
        (live.dryTwin demoController.actuator) [demoEvent, demoEvent]).printed =
      (run (loopTick (PriorityConfigSource.boostCodec 10 "10") recorder) live
        [demoEvent, demoEvent]).printed := by
  intro live
  have quiet : ∀ pushes caps, (recorder.push caps pushes).1 = .ok () := fun _ _ => rfl
  rw [dry_run_prints_the_live_run (PriorityConfigSource.boostCodec 10 "10") quiet rfl
    [demoEvent, demoEvent]]
  rfl

/-! ### Energy -/

section Energy

variable {σ : Type} {actuator : Actuator σ} {self : RunningController σ} {config : QuotaConfig}
  {domainName : String}

/-- The draw a read gives, if it gives one. -/
def readingOf (read : GpuIndex → Except PyError (Option GpuReading)) (idx : GpuIndex) : Option ℚ :=
  match read idx with
  | .ok (some reading) => some reading.powerDrawW
  | _ => none

/-- What is collected of the draws is what the metering collects. -/
theorem gpuDraws_readDomain {read : GpuIndex → Except PyError (Option GpuReading)}
    {domain : PowerDomain} {readings : Readings}
    (collected : readDomain read domain.gpuIndices = .ok readings) :
    readings.gpuDraws = MeteredController.gpuDraws domain (readingOf read) := by
  have along : ∀ (indices : List GpuIndex) (before after : Readings),
      readDomain read indices before = .ok after → after.gpuDraws =
        indices.foldl (fun draws idx => (readingOf read idx).elim draws (draws.set idx))
          before.gpuDraws := by
    intro indices
    induction indices with
    | nil =>
      intro before after done
      cases done
      rfl
    | cons idx rest ih =>
      intro before after done
      rw [readDomain, List.foldlM_cons] at done
      obtain ⟨next, stored, later⟩ := ok_of_bind done
      rw [List.foldl_cons, ih next after later]
      obtain ⟨answer, answered, kept⟩ := ok_of_bind stored
      cases answer with
      | none =>
        cases kept
        simp only [readingOf, answered, Option.elim_none]
      | some reading =>
        cases kept
        simp only [readingOf, answered, Option.elim_some]
        rfl
  rw [along domain.gpuIndices {} readings collected]
  unfold MeteredController.gpuDraws
  congr 1
  funext draws idx
  cases readingOf read idx <;> rfl

/-- The domain that was observed, and what its draws were collected from. -/
theorem gpuDraws_observe {loop adopted : ControlLoop} {source : Source} {moment : Moment}
    {readings : Readings}
    (observed : loop.observe source moment domainName = (.ok readings, adopted)) :
    ∃ domain budget, loop.topology.domains.get? domainName = some domain ∧
      readDomain (source.read (ControlLoop.fallbackCap budget domain)) domain.gpuIndices =
        .ok readings := by
  unfold ControlLoop.observe at observed
  cases present : loop.topology.domain domainName with
  | error exc =>
    rw [present] at observed
    cases observed
  | ok domain =>
    rw [present] at observed
    dsimp only at observed
    split at observed
    · cases observed
    · next budget answer =>
      exact ⟨domain, budget, domains_of_domain present, congrArg Prod.fst observed⟩

/-- The draws that are collected are those of GPUs of the domain. -/
theorem mem_gpuIndices_of_observe {loop adopted : ControlLoop} {source : Source} {moment : Moment}
    {readings : Readings}
    (observed : loop.observe source moment domainName = (.ok readings, adopted)) :
    ∃ domain, loop.topology.domains.get? domainName = some domain ∧
      ∀ gpu ∈ readings.gpuDraws.keys, gpu ∈ domain.gpuIndices := by
  obtain ⟨domain, budget, listed, collected⟩ := gpuDraws_observe observed
  refine ⟨domain, listed, fun gpu shown => ?_⟩
  rw [gpuDraws_readDomain collected, Dict.mem_keys_iff] at shown
  obtain ⟨watts, found⟩ := shown
  rw [MeteredController.get?_gpuDraws] at found
  split at found
  · assumption
  · cases found

/-- The controller as far as it meters, on the topology it started with. -/
def meteredOn (topology : PDNTopology) (self : RunningController σ) : MeteredController :=
  { self.metered with topology := topology }

/-- No sample of a tick has a draw below zero. -/
def DrawsNonneg (event : ControllerEvent) : Prop :=
  ∀ gpuByIndex idx sample watts, event.nodeSample = .ok gpuByIndex →
    gpuByIndex.get? idx = some sample → sample.powerDrawW = some watts → 0 ≤ watts

/-- No draw that a source gives is negative. -/
def SourceNonneg (source : Source) : Prop :=
  ∀ fallback idx watts, readingOf (source.read fallback) idx = some watts → 0 ≤ watts

theorem sourceNonneg_actuator {read : GpuIndex → Except PyError ActuatorReading}
    (nonneg : ∀ idx answer, read idx = .ok answer → 0 ≤ answer.powerDraw) :
    SourceNonneg (.actuator read) := by
  intro fallback idx watts found
  unfold readingOf at found
  cases answered : read idx with
  | error exc =>
    simp only [Source.read, answered, Except.map] at found
    cases found
  | ok answer =>
    simp only [Source.read, answered, Except.map, Option.some.injEq] at found
    exact found ▸ nonneg idx answer answered

theorem sourceNonneg_prom {event : ControllerEvent} {gpuByIndex : Dict ℤ GpuSample}
    (nonneg : DrawsNonneg event) (sampled : event.nodeSample = .ok gpuByIndex) :
    SourceNonneg (.prom gpuByIndex) := by
  intro fallback idx watts found
  unfold readingOf at found
  cases listed : gpuByIndex.get? idx with
  | none =>
    simp only [Source.read, listed] at found
    cases found
  | some sample =>
    simp only [Source.read, listed, Option.map_some, Option.some.injEq] at found
    cases draw : sample.powerDrawW with
    | none =>
      rw [draw] at found
      exact found ▸ le_rfl
    | some reported =>
      rw [draw] at found
      exact found ▸ nonneg gpuByIndex idx sample reported sampled listed draw

/-- **What a pass meters**: nothing, where it raises before the brain has decided; else the draws of
the domain that its source gives, also where the push raises. -/
theorem metered_runDomain (topology : PDNTopology) (actuator : Actuator σ)
    (gpuByIndex : Option (Dict ℤ GpuSample)) (moment : Moment) (self : RunningController σ)
    (domainName : String) :
    (self.runDomain actuator gpuByIndex moment domainName).2.meteredOn topology =
        self.meteredOn topology ∨
      ∃ domain fallback, self.deciding.topology.domains.get? domainName = some domain ∧
        (self.runDomain actuator gpuByIndex moment domainName).2.meteredOn topology =
          (self.meteredOn topology).account domainName (MeteredController.gpuDraws domain
            (readingOf ((self.source actuator gpuByIndex).read fallback))) := by
  rcases runDomain_cases actuator gpuByIndex moment self domainName with
    ⟨exc, loop, decided, ran⟩ | ⟨readings, adopted, decision, loop, observed, _, decided, ran⟩
  · have same := (ControlLoop.sameNode_decideDomain self.deciding (self.source actuator gpuByIndex)
      moment domainName).managed
    rw [decided] at same
    refine .inl ?_
    rw [ran, meteredOn, meteredOn, metered, metered, same]
  · have same := (ControlLoop.sameNode_decideDomain self.deciding (self.source actuator gpuByIndex)
      moment domainName).managed
    rw [decided] at same
    have managed : loop.managedDomains = self.deciding.managedDomains := same
    obtain ⟨domain, budget, listed, collected⟩ := gpuDraws_observe observed
    refine .inr ⟨domain, ControlLoop.fallbackCap budget domain, listed, ?_⟩
    have accounted : ∀ pushed : σ,
        ({ { self with deciding := loop }.account domainName readings.gpuDraws with
            actuator := pushed } : RunningController σ).meteredOn topology =
          (self.meteredOn topology).account domainName readings.gpuDraws := by
      intro pushed
      simp only [meteredOn, metered, account, MeteredController.account, managed]
    rw [ran, ← gpuDraws_readDomain collected]
    dsimp only
    split
    · next exc pushed _ => exact accounted pushed
    · next pushed _ => exact accounted pushed

/-- A state of the controller whose counters are in step, on a safe actuator. -/
structure InStep (start : RunningController σ) (config : QuotaConfig) (safe : σ → Prop)
    (state : RunningController σ) : Prop where
  same : SameController start state
  agrees : MeteredController.Agrees config start.deciding.topology
    (state.meteredOn start.deciding.topology)
  safe : safe state.actuator

/-- A pass keeps the counters in step. -/
theorem InStep.runDomain {start state : RunningController σ} {safe : σ → Prop}
    (inStep : InStep start config safe state) (keeps : actuator.Keeps safe)
    (valid : config.Valid) (ids : (config.tenants.map TenantQuota.tenantId).Nodup)
    (apart : DisjointDomains start.deciding.topology) {home : PowerDomain}
    (presentHome : start.deciding.topology.domains.get? config.domainName = some home)
    (inside : ∀ tenant ∈ config.tenants, ∀ gpu ∈ tenant.gpuIndices, gpu ∈ home.gpuIndices)
    {gpuByIndex : Option (Dict ℤ GpuSample)}
    (nonneg : SourceNonneg (state.source actuator gpuByIndex)) (moment : Moment)
    (domainName : String) :
    InStep start config safe (state.runDomain actuator gpuByIndex moment domainName).2 := by
  refine ⟨inStep.same.trans (sameController_runDomain actuator gpuByIndex moment state domainName), ?_,
    keeps.runDomain inStep.safe gpuByIndex moment domainName⟩
  rcases metered_runDomain start.deciding.topology actuator gpuByIndex moment state domainName with
    same | ⟨domain, fallback, listed, accounted⟩
  · rw [same]
    exact inStep.agrees
  · rw [accounted]
    rw [inStep.same.sameNode.domains] at listed
    refine inStep.agrees.account valid ids apart presentHome inside listed fun gpu watts found => ?_
    rw [MeteredController.get?_gpuDraws] at found
    split at found
    · exact nonneg fallback gpu watts found
    · cases found

/-- A round of the loop keeps the counters in step. -/
theorem InStep.loopTick {start state : RunningController σ} {safe : σ → Prop}
    (inStep : InStep start config safe state) (codec : Codec) (keeps : actuator.Keeps safe)
    (readsNonneg : ∀ state, safe state → ∀ idx answer, actuator.read state idx = .ok answer →
      0 ≤ answer.powerDraw)
    (valid : config.Valid) (ids : (config.tenants.map TenantQuota.tenantId).Nodup)
    (apart : DisjointDomains start.deciding.topology) {home : PowerDomain}
    (presentHome : start.deciding.topology.domains.get? config.domainName = some home)
    (inside : ∀ tenant ∈ config.tenants, ∀ gpu ∈ tenant.gpuIndices, gpu ∈ home.gpuIndices)
    {event : ControllerEvent} (nonneg : DrawsNonneg event) :
    InStep start config safe (state.loopTick codec actuator event) := by
  refine @loopTick_invariant σ actuator state (InStep start config safe) codec event
    (fun state before => ?_) (fun gpuByIndex sampled state domainName before => ?_)
    (fun state before => ?_) inStep
  · have same := sameController_refreshTiers codec state event.polled
    obtain ⟨source, brain, refreshed, _⟩ := refreshTiers_snd codec state event.polled
    rw [refreshed] at same ⊢
    exact ⟨before.same.trans same, before.agrees, before.safe⟩
  · refine before.runDomain keeps valid ids apart presentHome inside ?_ event.moment domainName
    cases gpuByIndex with
    | none => exact sourceNonneg_actuator (readsNonneg state.actuator before.safe)
    | some sample => exact sourceNonneg_prom nonneg (sampled sample rfl)
  · refine ⟨before.same.trans (sameController_advance actuator state event.samples), ?_,
      keeps.advance before.safe event.samples⟩
    unfold advance
    split
    · split
      · exact before.agrees
      · exact before.agrees
    · exact before.agrees

/-- **The counters of the tenants are the report.** For a quota that was accepted and fits a topology of
disjoint domains: after every run of the loop, from counters that start at zero, what was exported for a
tenant is what the report says, whichever pushes, reads or polls failed, as long as no draw that is read
is negative. -/
theorem counters_match_showback (codec : Codec) {safe : σ → Prop} (keeps : actuator.Keeps safe)
    (readsNonneg : ∀ state, safe state → ∀ idx answer, actuator.read state idx = .ok answer →
      0 ≤ answer.powerDraw)
    (isSafe : safe self.actuator) (quota : self.config.quotaConfig = some config)
    (noEnergy : self.energy = {}) (noCounters : self.tenantEnergy = .empty)
    (valid : config.validate = .ok ())
    (fits : validateQuotaAgainstTopology config self.deciding.topology = .ok ())
    (ids : (config.tenants.map TenantQuota.tenantId).Nodup)
    (apart : DisjointDomains self.deciding.topology) {events : List ControllerEvent}
    (nonneg : ∀ event ∈ events, DrawsNonneg event) :
    ∀ tenant ∈ config.tenants,
      (run (loopTick codec actuator) self events).energyShowback.get? tenant.tenantId =
        some ((run (loopTick codec actuator) self events).metered.exportedKwh tenant.tenantId) := by
  obtain ⟨home, presentHome, inside⟩ :=
    @MeteredController.exists_home_of_validate (self.meteredOn self.deciding.topology) config fits
  have start : InStep self config safe self := by
    refine ⟨.refl self, ⟨quota, rfl, fun tenant _ => ?_⟩, isSafe⟩
    have nothing : (tenant.gpuIndices.map fun gpu =>
        (EnergyAccountant.energyJ {}).getD gpu 0).sum = 0 := by
      simp [Dict.getD]
    have counters : (self.meteredOn self.deciding.topology).tenantEnergy = .empty := noCounters
    have energy : (self.meteredOn self.deciding.topology).energy = {} := noEnergy
    rw [MeteredController.exportedKwh, counters, Ledger.total_empty, MeteredController.usedKwh,
      energy, EnergyAccountant.tenantEnergyWh, nothing, zero_div, zero_div]
  have every := run_invariant
    (fun past state => (∀ event ∈ past, DrawsNonneg event) → InStep self config safe state)
    (fun _ => start) (fun past event state before all => by
      have now : DrawsNonneg event := all event (List.mem_append_right _ (List.mem_singleton_self _))
      have past := before fun other inside => all other (List.mem_append_left _ inside)
      exact past.loopTick codec keeps readsNonneg (QuotaConfig.valid_of_validate valid) ids apart
        presentHome inside now) events nonneg
  intro tenant member
  have report := MeteredController.get?_energyShowback every.agrees.quota ids member
  rw [← every.agrees.agree tenant member] at report
  exact report

end Energy

/-- The second tenant of the demo, after two rounds. -/
theorem counters_match_showback_demo :
    let after := run (loopTick (PriorityConfigSource.boostCodec 10 "10") simActuator) demoController
      [demoEvent, demoEvent]
    after.energyShowback.get? "tenant-b" = some (after.metered.exportedKwh "tenant-b") := by
  refine counters_match_showback (PriorityConfigSource.boostCodec 10 "10")
    (keeps_sameFleet demoController.actuator) (fun fleet same idx answer read => ?_)
    inEnvelope_demoController.sameFleet rfl rfl rfl (ok_of_toOption (by decide +kernel))
    (ok_of_toOption (by decide +kernel)) (by decide +kernel)
    MeteredController.disjointDomains_twoDomains (fun event member gpuByIndex _ _ _ sampled => ?_)
    (MeteredController.halfQuota "tenant-b" [1]) (List.mem_cons_of_mem _ List.mem_cons_self)
  · cases found : fleet.gpus.get? idx with
    | none =>
      simp only [simActuator, SimBackend.getPowerDraw, SimBackend.gpu, found, bind, Except.bind,
        reduceCtorEq] at read
    | some gpu =>
      obtain ⟨_, _, _, nonneg, _⟩ := same.exists_left found
      simp only [simActuator, SimBackend.getPowerDraw, SimBackend.getPowerCap, SimBackend.getMaxCapW,
        SimBackend.gpu, found, bind, Except.bind, pure, Except.pure, Except.ok.injEq] at read
      rw [← read]
      exact powerDrawW_nonneg nonneg
  · have isDemo : event = demoEvent := by simpa using member
    subst isDemo
    cases sampled

end RunningController

end Opendps.Controller
