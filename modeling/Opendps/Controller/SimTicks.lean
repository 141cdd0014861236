/-
**Ticks of a controller on the simulated fleet.**

In sim mode the fleet is the telemetry and what is pushed to. A tick goes through exactly when the fleet
has every GPU of every managed domain and the brain refuses none (`runOnce_sim_iff`), which is so in
every round of a run or in none: `sim_runs_iff` says when it is so for the fleet that the command line
builds.

A tick reads each domain after the domains before it were pushed. Where the domains have no GPU in common
this makes no difference: the decisions are those on the telemetry from before the tick, and the fleet is
as if they had been pushed in one go (`sim_tick_decides_at_once`).
-/

import Opendps.Brain.CappedGpus
import Opendps.Controller.StandaloneRuns
import Opendps.Sim.Presets

namespace Opendps.Controller

open Opendps.Lib Opendps.Pdn Opendps.Brain Opendps.Telemetry Opendps.Sim

/-! ### What the fleet answers -/

/-- What a tick has of a simulated GPU. -/
def simReading (gpu : SimGpu) : GpuReading where
  powerDrawW := gpu.powerDrawW
  powerCapW := gpu.capW
  maxCapW := gpu.maxCapW

theorem read_sim (backend : SimBackend) (fallback : ℚ) (idx : GpuIndex) :
    (Source.actuator (simActuator.read backend)).read fallback idx =
      match backend.gpus.get? idx with
      | some gpu => .ok (some (simReading gpu))
      | none => .error (.keyError (toString idx)) := by
  cases found : backend.gpus.get? idx with
  | none =>
    simp only [Source.read, simActuator, SimBackend.getPowerDraw, SimBackend.gpu, found]
    rfl
  | some gpu =>
    simp only [Source.read, simActuator, SimBackend.getPowerDraw, SimBackend.getPowerCap,
      SimBackend.getMaxCapW, SimBackend.gpu, found]
    rfl

/-- What pushing a decision does to one GPU. -/
def cappedBy (decision : BrainDecision) (idx : GpuIndex) (gpu : SimGpu) : SimGpu :=
  match decision.caps.get? idx with
  | some watts => gpu.setCap watts
  | none => gpu

/-- What pushing decisions one after another does to one GPU. -/
def cappedByAll (decisions : List BrainDecision) (idx : GpuIndex) (gpu : SimGpu) : SimGpu :=
  decisions.foldl (fun gpu decision => cappedBy decision idx gpu) gpu

theorem setEach_of_pushCaps {caps : List (GpuIndex × ℚ)} {backend pushed : SimBackend}
    (goes : backend.pushCaps caps = .ok pushed) :
    simActuator.setEach caps backend = (.ok (), pushed) := by
  induction caps generalizing backend with
  | nil =>
    cases goes
    rfl
  | cons item rest ih =>
    rw [SimBackend.pushCaps, List.foldlM_cons] at goes
    obtain ⟨next, set, later⟩ := ok_of_bind goes
    have once : simActuator.setPowerCap backend item.1 item.2 = (.ok (), next) := by
      simp only [simActuator, set]
    unfold Actuator.setEach
    rw [once]
    exact ih later

/-- A push of caps for GPUs of the fleet. -/
theorem push_sim {backend : SimBackend} {caps : Dict GpuIndex ℚ}
    (listed : ∀ idx ∈ caps.keys, idx ∈ backend.gpus.keys) :
    ∃ pushed, simActuator.push caps backend = (.ok (), pushed) ∧
      ∀ idx, pushed.gpus.get? idx = (backend.gpus.get? idx).map fun gpu =>
        match caps.get? idx with
        | some watts => gpu.setCap watts
        | none => gpu := by
  obtain ⟨pushed, goes, sets, leaves⟩ := @SimBackend.pushCaps_ok backend caps.items caps.nodup
    fun item member => listed item.1 (List.mem_map_of_mem member)
  refine ⟨pushed, setEach_of_pushCaps goes, fun idx => ?_⟩
  cases told : caps.get? idx with
  | some watts => exact sets idx watts (Dict.get?_eq_some_iff.mp told)
  | none =>
    rw [leaves idx (Dict.get?_eq_none_iff.mp told)]
    exact Option.map_id'.symm

/-! ### One domain -/

section Domain

variable {loop : ControlLoop} {backend : SimBackend} {domain : PowerDomain} {domainName : String}

/-- What the brain is shown of a domain of the fleet: the draws and the maxima of its GPUs. -/
theorem decideDomain_shown (present : loop.topology.domain domainName = .ok domain)
    (listed : ∀ idx ∈ domain.gpuIndices, idx ∈ backend.gpus.keys) (moment : Moment) :
    ∃ state : DomainState, (∀ gpu, gpu ∈ state.gpuDraws.keys ↔ gpu ∈ domain.gpuIndices) ∧
      (∀ gpu, gpu ∈ state.gpuMaxCaps.keys ↔ gpu ∈ domain.gpuIndices) ∧
      loop.decideDomain (.actuator (simActuator.read backend)) moment domainName =
        match loop.brain.decide (loop.adopt moment domainName) domainName state moment.around with
        | .error exc => (.error exc, { loop with topology := loop.adopt moment domainName })
        | .ok (decision, brain) =>
          (.ok decision, { loop with topology := loop.adopt moment domainName, brain := brain }) := by
  obtain ⟨budget, answer⟩ := ControlLoop.budgetAt_isOk present moment
  have found : ∀ idx ∈ domain.gpuIndices,
      (Source.actuator (simActuator.read backend)).read (ControlLoop.fallbackCap budget domain) idx =
        .ok (some (((backend.gpus.get? idx).map simReading).getD ⟨0, 0, 0⟩)) := by
    intro idx member
    obtain ⟨gpu, stored⟩ := Dict.mem_keys_iff.mp (listed idx member)
    rw [read_sim, stored]
    rfl
  obtain ⟨readings, collected, draws, _, maxCaps⟩ := readDomain_ok found {}
  refine ⟨loop.domainState (.actuator (simActuator.read backend)) readings moment domainName,
    fun gpu => ?_, fun gpu => ?_, ControlLoop.decideDomain_eq present answer collected⟩
  · show gpu ∈ readings.gpuDraws.keys ↔ _
    rw [Dict.mem_keys_iff, draws]
    by_cases member : gpu ∈ domain.gpuIndices <;> simp [member]
  · show gpu ∈ readings.gpuMaxCaps.keys ↔ _
    rw [Dict.mem_keys_iff, maxCaps]
    by_cases member : gpu ∈ domain.gpuIndices <;> simp [member]

/-- Adopting a budget leaves a domain where it is. -/
theorem domain_adopt (loop : ControlLoop) (moment : Moment) (adopted name : String) :
    (loop.adopt moment adopted).domain name = loop.topology.domain name := by
  rw [PDNTopology.domain, (loop.adopt_leaves moment adopted).1, PDNTopology.domain]

/-- A domain of the fleet with no GPU that the brain refuses is decided, and its GPUs are those
capped. -/
theorem decideDomain_sim (sound : loop.brain.Sound)
    (present : loop.topology.domain domainName = .ok domain)
    (listed : ∀ idx ∈ domain.gpuIndices, idx ∈ backend.gpus.keys)
    (serves : ∀ idx ∈ domain.gpuIndices, ¬ loop.brain.RefusesGpu domainName idx) (moment : Moment) :
    ∃ decision next, loop.decideDomain (.actuator (simActuator.read backend)) moment domainName =
        (.ok decision, next) ∧
      (∀ gpu, gpu ∈ decision.caps.keys ↔ gpu ∈ domain.gpuIndices) ∧ next.brain.Sound ∧
      ∀ name gpu, next.brain.RefusesGpu name gpu ↔ loop.brain.RefusesGpu name gpu := by
  obtain ⟨state, shown, maxima, decided⟩ := decideDomain_shown present listed moment
  have served : ¬ loop.brain.Refuses domainName state := by
    rintro ⟨gpu, drawn, _, refused⟩
    exact serves gpu ((shown gpu).mp drawn) refused
  obtain ⟨decision, brain, call, kept⟩ := AnyBrain.decide_isOk sound
    ((domain_adopt loop moment domainName domainName).trans present) served moment.around
  have known : ∀ gpu ∈ state.gpuDraws.keys, gpu ∈ state.gpuMaxCaps.keys := fun gpu drawn =>
    (maxima gpu).mpr ((shown gpu).mp drawn)
  rw [call] at decided
  exact ⟨decision, _, decided, fun gpu =>
    (AnyBrain.mem_keys_decide_of_known call known gpu).trans (shown gpu), kept,
    (AnyBrain.refusal_decide call).2⟩

/-- A domain of the fleet that is decided has no GPU that the brain refuses. -/
theorem serves_of_decideDomain {decision : BrainDecision} {next : ControlLoop} {moment : Moment}
    (present : loop.topology.domain domainName = .ok domain)
    (listed : ∀ idx ∈ domain.gpuIndices, idx ∈ backend.gpus.keys)
    (decided : loop.decideDomain (.actuator (simActuator.read backend)) moment domainName =
      (.ok decision, next)) :
    ∀ idx ∈ domain.gpuIndices, ¬ loop.brain.RefusesGpu domainName idx := by
  intro idx owned refused
  obtain ⟨state, shown, maxima, same⟩ := decideDomain_shown present listed moment
  obtain ⟨exc, _, raised⟩ := AnyBrain.decide_of_refuses
    ((domain_adopt loop moment domainName domainName).trans present)
    ⟨idx, (shown idx).mpr owned, (maxima idx).mpr owned, refused⟩ moment.around
  rw [same, raised] at decided
  cases decided

end Domain

namespace RunningController

variable {self : RunningController SimBackend} {domainName : String} {domain : PowerDomain}
  {moment : Moment}

/-- What a fleet becomes when decisions are pushed, or in a dry run. -/
def Pushed (dryRun : Bool) (decisions : List BrainDecision) (before after : SimBackend) : Prop :=
  ∀ idx, after.gpus.get? idx =
    (before.gpus.get? idx).map (if dryRun then id else cappedByAll decisions idx)

theorem Pushed.mem_keys_iff {dryRun : Bool} {decisions : List BrainDecision}
    {before after : SimBackend} (pushed : Pushed dryRun decisions before after) {idx : GpuIndex} :
    idx ∈ after.gpus.keys ↔ idx ∈ before.gpus.keys := by
  rw [Dict.mem_keys_iff, Dict.mem_keys_iff, pushed idx]
  cases before.gpus.get? idx <;> simp

/-- **A pass over a domain of the fleet** goes through and puts its decision in force. -/
theorem runDomain_sim (sound : self.deciding.brain.Sound)
    (present : self.deciding.topology.domain domainName = .ok domain)
    (listed : ∀ idx ∈ domain.gpuIndices, idx ∈ self.actuator.gpus.keys)
    (serves : ∀ idx ∈ domain.gpuIndices, ¬ self.deciding.brain.RefusesGpu domainName idx)
    (moment : Moment) :
    ∃ decision next, self.runDomain simActuator none moment domainName = (.ok decision, next) ∧
      self.deciding.decideDomain (.actuator (simActuator.read self.actuator)) moment domainName =
        (.ok decision, next.deciding) ∧
      (∀ gpu, gpu ∈ decision.caps.keys ↔ gpu ∈ domain.gpuIndices) ∧
      (next.deciding.brain.Sound ∧ ∀ name gpu, next.deciding.brain.RefusesGpu name gpu ↔
        self.deciding.brain.RefusesGpu name gpu) ∧
      Pushed self.config.dryRun [decision] self.actuator next.actuator := by
  obtain ⟨decision, loop, decided, keys, kept⟩ :=
    decideDomain_sim sound present listed serves moment
  obtain ⟨pushed, goes, sets⟩ := push_sim fun idx capped => listed idx ((keys idx).mp capped)
  rcases runDomain_cases simActuator none moment self domainName with
    ⟨exc, other, raised, _⟩ | ⟨readings, adopted, made, next, _, _, same, ran⟩
  · cases decided.symm.trans raised
  · have both := decided.symm.trans same
    cases both
    by_cases dry : self.config.dryRun = true
    · have unpushed : self.effect simActuator decision.caps = (.ok (), self.actuator) := if_pos dry
      simp only [unpushed] at ran
      refine ⟨decision, _, ran, decided, keys, kept, fun idx => ?_⟩
      rw [dry, if_pos rfl]
      exact Option.map_id'.symm
    · have effected : self.effect simActuator decision.caps = (.ok (), pushed) :=
        (if_neg dry).trans goes
      simp only [effected] at ran
      refine ⟨decision, _, ran, decided, keys, kept, fun idx => ?_⟩
      rw [if_neg dry]
      exact sets idx

/-! ### One tick -/

/-- The fleet has every GPU of some domains of a topology. -/
def Covers (topology : PDNTopology) (backend : SimBackend) (domainNames : List String) : Prop :=
  ∀ domainName ∈ domainNames, ∃ domain, topology.domain domainName = .ok domain ∧
    ∀ idx ∈ domain.gpuIndices, idx ∈ backend.gpus.keys

/-- A brain refuses no GPU of some domains of a topology. -/
def Serves (brain : AnyBrain) (topology : PDNTopology) (domainNames : List String) : Prop :=
  ∀ domainName ∈ domainNames, ∀ domain, topology.domain domainName = .ok domain →
    ∀ idx ∈ domain.gpuIndices, ¬ brain.RefusesGpu domainName idx

/-- A decision caps the GPUs of a domain. -/
def CapsDomain (topology : PDNTopology) (domainName : String) (decision : BrainDecision) : Prop :=
  ∀ domain, topology.domain domainName = .ok domain →
    ∀ gpu, gpu ∈ decision.caps.keys ↔ gpu ∈ domain.gpuIndices

theorem Pushed.cons {dryRun : Bool} {decision : BrainDecision} {decisions : List BrainDecision}
    {before between after : SimBackend} (first : Pushed dryRun [decision] before between)
    (later : Pushed dryRun decisions between after) :
    Pushed dryRun (decision :: decisions) before after := by
  intro idx
  rw [later idx, first idx, Option.map_map]
  cases dryRun <;> rfl

/-- The domains of a tick on a fleet that has them. -/
theorem runDomains_sim {domainNames : List String} (sound : self.deciding.brain.Sound)
    (covers : Covers self.deciding.topology self.actuator domainNames)
    (serves : Serves self.deciding.brain self.deciding.topology domainNames) (moment : Moment) :
    ∃ decisions last, runDomains simActuator none moment domainNames self = (.ok decisions, last) ∧
      List.Forall₂ (CapsDomain self.deciding.topology) domainNames decisions ∧
      Pushed self.config.dryRun decisions self.actuator last.actuator := by
  induction domainNames generalizing self with
  | nil =>
    refine ⟨[], self, rfl, .nil, fun idx => ?_⟩
    cases self.config.dryRun <;> exact Option.map_id'.symm
  | cons domainName rest ih =>
    obtain ⟨domain, present, listed⟩ := covers domainName List.mem_cons_self
    obtain ⟨decision, next, ran, _, keys, ⟨kept, sameBrain⟩, first⟩ := runDomain_sim sound present
      listed (serves domainName List.mem_cons_self domain present) moment
    have same := sameController_runDomain simActuator none moment self domainName
    rw [ran] at same
    have sameDomains : ∀ name, next.deciding.topology.domain name =
        self.deciding.topology.domain name := fun name => by
      unfold PDNTopology.domain
      rw [same.sameNode.domains]
    have later : Covers next.deciding.topology next.actuator rest := by
      intro name member
      obtain ⟨other, found, inside⟩ := covers name (List.mem_cons_of_mem _ member)
      exact ⟨other, (sameDomains name).trans found, fun idx owned =>
        first.mem_keys_iff.mpr (inside idx owned)⟩
    have stillServes : Serves next.deciding.brain next.deciding.topology rest := by
      intro name member other found idx owned refused
      exact serves name (List.mem_cons_of_mem _ member) other ((sameDomains name).symm.trans found) idx
        owned ((sameBrain name idx).mp refused)
    obtain ⟨decisions, last, others, caps, pushed⟩ := ih kept later stillServes
    refine ⟨decision :: decisions, last, ?_, .cons ?_ ?_, first.cons ?_⟩
    · simp only [runDomains, ran, others]
    · intro found same gpu
      cases present.symm.trans same
      exact keys gpu
    · refine caps.imp fun name made covered found same gpu => ?_
      exact covered found ((sameDomains name).trans same) gpu
    · have dryRun := same.config
      rw [← show next.config.dryRun = self.config.dryRun from congrArg _ dryRun]
      exact pushed

/-- A pass over a domain that goes through finds its GPUs in the fleet, and the brain refuses none. -/
theorem covers_of_runDomain {decision : BrainDecision} {next : RunningController SimBackend}
    (ran : self.runDomain simActuator none moment domainName = (.ok decision, next)) :
    Covers self.deciding.topology self.actuator [domainName] ∧
      Serves self.deciding.brain self.deciding.topology [domainName] := by
  rcases runDomain_cases simActuator none moment self domainName with
    ⟨exc, other, _, raised⟩ | ⟨readings, adopted, made, loop, _, _, decided, _⟩
  · cases raised.symm.trans ran
  · obtain ⟨domain, budget, present, _, reads⟩ := ControlLoop.read_of_decideDomain decided
    have listed : ∀ idx ∈ domain.gpuIndices, idx ∈ self.actuator.gpus.keys := by
      intro idx member
      obtain ⟨found, read⟩ := reads idx member
      rw [source, read_sim] at read
      cases stored : self.actuator.gpus.get? idx with
      | none =>
        rw [stored] at read
        cases read
      | some gpu => exact Dict.mem_keys_iff.mpr ⟨gpu, stored⟩
    refine ⟨fun name member => ?_, fun name member found same => ?_⟩
    · rw [List.mem_singleton.mp member]
      exact ⟨domain, present, listed⟩
    · rw [List.mem_singleton.mp member] at same ⊢
      cases present.symm.trans same
      exact serves_of_decideDomain present listed decided

/-- A controller in sim mode that is fit to decide, after any past. -/
structure SimState (start state : RunningController SimBackend) : Prop where
  same : SameController start state
  sameGpus : ∀ idx, idx ∈ state.actuator.gpus.keys ↔ idx ∈ start.actuator.gpus.keys
  sound : state.deciding.brain.Sound
  refuses : ∀ name gpu, state.deciding.brain.RefusesGpu name gpu ↔
    start.deciding.brain.RefusesGpu name gpu

theorem SimState.covers_iff {start state : RunningController SimBackend}
    (past : SimState start state) (domainNames : List String) :
    Covers state.deciding.topology state.actuator domainNames ↔
      Covers start.deciding.topology start.actuator domainNames := by
  unfold Covers PDNTopology.domain
  rw [past.same.sameNode.domains]
  simp only [past.sameGpus]

theorem SimState.serves_iff {start state : RunningController SimBackend}
    (past : SimState start state) (domainNames : List String) :
    Serves state.deciding.brain state.deciding.topology domainNames ↔
      Serves start.deciding.brain start.deciding.topology domainNames := by
  unfold Serves PDNTopology.domain
  rw [past.same.sameNode.domains]
  simp only [past.refuses]

/-- A pass leaves the controller fit, whatever it does. -/
theorem SimState.runDomain {start state : RunningController SimBackend}
    (past : SimState start state) (gpuByIndex : Option (Dict ℤ GpuSample)) (moment : Moment)
    (domainName : String) :
    SimState start (state.runDomain simActuator gpuByIndex moment domainName).2 := by
  refine ⟨past.same.trans (sameController_runDomain simActuator gpuByIndex moment state domainName),
    fun idx => ?_, ?_, ?_⟩
  · have keeps : simActuator.Keeps fun backend =>
        ∀ idx, idx ∈ backend.gpus.keys ↔ idx ∈ start.actuator.gpus.keys := by
      refine ⟨fun backend idx watts same place => ?_, fun _ given => (nomatch given),
        fun tick given backend samples same place => ?_⟩
      · rw [← same place]
        cases found : backend.gpus.get? idx with
        | none => simp only [simActuator, SimBackend.setPowerCap, SimBackend.gpu, found, bind,
            Except.bind]
        | some gpu =>
          simp only [simActuator, SimBackend.setPowerCap, SimBackend.gpu, found, bind, Except.bind,
            pure, Except.pure]
          rw [Dict.mem_keys_iff, Dict.mem_keys_iff, Dict.get?_set]
          by_cases here : place = idx <;> simp [here, found]
      · cases given
        rw [← same place, SimBackend.tick, Dict.keys_mapVals]
    exact keeps.runDomain past.sameGpus gpuByIndex moment domainName idx
  · rw [deciding_runDomain]
    rcases state.deciding.decideDomain_cases (state.source simActuator gpuByIndex) moment domainName
      with unknown | ⟨brain, adopted, rfl | ⟨_, _, call⟩⟩
    · rw [unknown]
      exact past.sound
    · rw [adopted]
      exact past.sound
    · rw [adopted]
      exact AnyBrain.sound_decide past.sound call
  · rw [deciding_runDomain]
    rcases state.deciding.decideDomain_cases (state.source simActuator gpuByIndex) moment domainName
      with unknown | ⟨brain, adopted, rfl | ⟨_, _, call⟩⟩
    · rw [unknown]
      exact past.refuses
    · rw [adopted]
      exact past.refuses
    · rw [adopted]
      exact fun name gpu => ((AnyBrain.refusal_decide call).2 name gpu).trans (past.refuses name gpu)

theorem SimState.advance {start state : RunningController SimBackend}
    (past : SimState start state) (samples : GpuIndex → Util) :
    SimState start (state.advance simActuator samples) := by
  have deciding : (state.advance simActuator samples).deciding = state.deciding := by
    unfold RunningController.advance
    split
    · split <;> rfl
    · rfl
  refine ⟨past.same.trans (sameController_advance simActuator state samples), fun idx => ?_,
    deciding ▸ past.sound, deciding ▸ past.refuses⟩
  · rw [← past.sameGpus idx]
    unfold RunningController.advance
    simp only [simActuator]
    split
    · rw [SimBackend.tick, Dict.keys_mapVals]
    · exact Iff.rfl

theorem SimState.refreshTiers {start state : RunningController SimBackend}
    (past : SimState start state) (codec : Codec) (input : PollInput) :
    SimState start (state.refreshTiers codec input).2 := by
  have same := sameController_refreshTiers codec state input
  obtain ⟨source, brain, refreshed, kind⟩ := refreshTiers_snd codec state input
  rw [refreshed] at same ⊢
  rcases kind with rfl | ⟨_, _, before, rfl, _⟩
  · exact ⟨past.same.trans same, past.sameGpus, past.sound, past.refuses⟩
  · refine ⟨past.same.trans same, past.sameGpus, trivial, fun name gpu => ?_⟩
    rw [← past.refuses, before]
    exact .rfl

/-- **Every past leaves the controller fit.** -/
theorem SimState.rounds (codec : Codec) {start : RunningController SimBackend}
    (sound : start.deciding.brain.Sound) (events : List ControllerEvent) :
    SimState start (run (loopTick codec simActuator) start events) :=
  run_invariant (fun _ state => SimState start state)
    ⟨.refl start, fun _ => .rfl, sound, fun _ _ => .rfl⟩
    (fun _ event state past => @loopTick_invariant SimBackend simActuator state (SimState start) codec
      event (fun _ before => before.refreshTiers codec event.polled)
      (fun gpuByIndex _ _ domainName before => before.runDomain gpuByIndex event.moment domainName)
      (fun _ before => before.advance event.samples) past) events

/-- The sample of a tick in sim mode. -/
theorem sampleNode_sim (sim : self.config.simMode = true) (event : ControllerEvent) :
    self.sampleNode event = .ok none := by
  unfold sampleNode readsActuator
  rw [sim]
  rfl

/-- The domains of a tick that goes through are in the fleet, and the brain refuses none of their
GPUs. -/
theorem covers_of_runDomains {start : RunningController SimBackend} {domainNames : List String}
    {decisions : List BrainDecision} {last : RunningController SimBackend}
    (past : SimState start self)
    (ran : runDomains simActuator none moment domainNames self = (.ok decisions, last)) :
    Covers start.deciding.topology start.actuator domainNames ∧
      Serves start.deciding.brain start.deciding.topology domainNames := by
  induction domainNames generalizing self decisions last with
  | nil => exact ⟨fun _ member => absurd member List.not_mem_nil,
      fun _ member => absurd member List.not_mem_nil⟩
  | cons domainName rest ih =>
    unfold runDomains at ran
    have passed := past.runDomain none moment domainName
    cases first : self.runDomain simActuator none moment domainName with
    | mk outcome next =>
      rw [first] at ran passed
      cases outcome with
      | error exc => cases ran
      | ok decision =>
        dsimp only at ran
        cases others : runDomains simActuator none moment rest next with
        | mk outcome final =>
          rw [others] at ran
          cases outcome with
          | error exc => cases ran
          | ok made =>
            obtain ⟨covers, serves⟩ := covers_of_runDomain first
            obtain ⟨coversRest, servesRest⟩ := ih passed others
            refine ⟨fun name member => ?_, fun name member => ?_⟩
            · rcases List.mem_cons.mp member with rfl | inside
              · exact (past.covers_iff _).mp covers name (List.mem_singleton_self name)
              · exact coversRest name inside
            · rcases List.mem_cons.mp member with rfl | inside
              · exact (past.serves_iff _).mp serves name (List.mem_singleton_self name)
              · exact servesRest name inside

/-- **When a tick in sim mode goes through**: exactly when the fleet has the managed domains and the
brain refuses none of their GPUs. -/
theorem runOnce_sim_iff (sim : self.config.simMode = true) (sound : self.deciding.brain.Sound)
    (event : ControllerEvent) :
    (∃ decisions, (self.runOnce simActuator event).1 = .ok decisions) ↔
      Covers self.deciding.topology self.actuator self.deciding.managedDomains ∧
        Serves self.deciding.brain self.deciding.topology self.deciding.managedDomains := by
  unfold runOnce
  rw [sampleNode_sim sim]
  dsimp only
  constructor
  · rintro ⟨decisions, through⟩
    cases ran : runDomains simActuator none event.moment self.deciding.managedDomains self with
    | mk outcome next =>
      rw [ran] at through
      cases outcome with
      | error exc => cases through
      | ok made =>
        exact covers_of_runDomains ⟨.refl self, fun _ => .rfl, sound, fun _ _ => .rfl⟩ ran
  · rintro ⟨covers, serves⟩
    obtain ⟨decisions, last, ran, _⟩ := runDomains_sim sound covers serves event.moment
    rw [ran]
    exact ⟨decisions, rfl⟩

/-- The decisions of a tick are those on the fleet as it was, as long as the domains that are left show
what they showed then. -/
theorem runDomains_at_once {first : SimBackend} {domainNames : List String}
    (sound : self.deciding.brain.Sound)
    (covers : Covers self.deciding.topology self.actuator domainNames)
    (serves : Serves self.deciding.brain self.deciding.topology domainNames) (nodup : domainNames.Nodup)
    (apart : DisjointDomains self.deciding.topology)
    (shown : ∀ domainName ∈ domainNames, ∀ domain,
      self.deciding.topology.domain domainName = .ok domain → ∀ idx ∈ domain.gpuIndices,
        self.actuator.gpus.get? idx = first.gpus.get? idx) (moment : Moment) :
    ∃ decisions last, runDomains simActuator none moment domainNames self = (.ok decisions, last) ∧
      ControlLoop.decideDomains (.actuator (simActuator.read first)) moment domainNames
        self.deciding = (.ok decisions, last.deciding) ∧
      Pushed self.config.dryRun decisions self.actuator last.actuator := by
  induction domainNames generalizing self with
  | nil =>
    refine ⟨[], self, rfl, rfl, fun idx => ?_⟩
    cases self.config.dryRun <;> exact Option.map_id'.symm
  | cons domainName rest ih =>
    rw [List.nodup_cons] at nodup
    obtain ⟨domain, present, listed⟩ := covers domainName List.mem_cons_self
    obtain ⟨decision, next, ran, decided, keys, ⟨kept, sameBrain⟩, pushed⟩ := runDomain_sim sound
      present listed (serves domainName List.mem_cons_self domain present) moment
    have same := sameController_runDomain simActuator none moment self domainName
    rw [ran] at same
    have sameDomains : ∀ name, next.deciding.topology.domain name =
        self.deciding.topology.domain name := fun name => by
      unfold PDNTopology.domain
      rw [same.sameNode.domains]
    have atStart : self.deciding.decideDomain (.actuator (simActuator.read first)) moment domainName =
        (.ok decision, next.deciding) := by
      rw [← decided]
      refine ControlLoop.decideDomain_congr (fun found budget here _ idx owned => ?_) fun _ _ => rfl
      rw [read_sim, read_sim, shown domainName List.mem_cons_self found here idx owned]
    have later : Covers next.deciding.topology next.actuator rest := by
      intro name member
      obtain ⟨other, found, inside⟩ := covers name (List.mem_cons_of_mem _ member)
      exact ⟨other, (sameDomains name).trans found, fun idx owned =>
        pushed.mem_keys_iff.mpr (inside idx owned)⟩
    have stillServes : Serves next.deciding.brain next.deciding.topology rest := by
      intro name member other found idx owned refused
      exact serves name (List.mem_cons_of_mem _ member) other ((sameDomains name).symm.trans found) idx
        owned ((sameBrain name idx).mp refused)
    -- the push touched this domain's GPUs only, and no other domain has one of them
    have stillShown : ∀ name ∈ rest, ∀ other, next.deciding.topology.domain name = .ok other →
        ∀ idx ∈ other.gpuIndices, next.actuator.gpus.get? idx = first.gpus.get? idx := by
      intro name member other found idx owned
      rw [sameDomains name] at found
      have different : name ≠ domainName := fun same => nodup.1 (same ▸ member)
      have outside : idx ∉ domain.gpuIndices :=
        apart name other domainName domain (domains_of_domain found) (domains_of_domain present)
          different idx owned
      have uncapped : decision.caps.get? idx = none :=
        Dict.get?_eq_none_iff.mpr fun capped => outside ((keys idx).mp capped)
      rw [pushed idx, ← shown name (List.mem_cons_of_mem _ member) other found idx owned]
      cases self.actuator.gpus.get? idx with
      | none => rfl
      | some gpu =>
        cases self.config.dryRun with
        | true => rfl
        | false => simp [cappedByAll, cappedBy, uncapped]
    have disjoint : DisjointDomains next.deciding.topology := by
      unfold DisjointDomains
      rw [same.sameNode.domains]
      exact apart
    obtain ⟨decisions, last, others, atOnce, rested⟩ := ih kept later stillServes nodup.2 disjoint
      stillShown
    refine ⟨decision :: decisions, last, ?_, ?_, pushed.cons ?_⟩
    · simp only [runDomains, ran, others]
    · simp only [ControlLoop.decideDomains, atStart, atOnce]
    · rw [← show next.config.dryRun = self.config.dryRun from congrArg _ same.config]
      exact rested

/-- **A tick decides at once.** In every round of every run on a fleet with the managed domains, which
have no GPU in common and none that the brain refuses: the tick goes through, its decisions are those of
the deciding part on the telemetry from before the tick, though each domain is read after the ones before
it were pushed, and the fleet is the old one with all decisions pushed, under the new load. -/
theorem sim_tick_decides_at_once (codec : Codec) (sim : self.config.simMode = true)
    (sound : self.deciding.brain.Sound)
    (covers : Covers self.deciding.topology self.actuator self.deciding.managedDomains)
    (serves : Serves self.deciding.brain self.deciding.topology self.deciding.managedDomains)
    (nodup : self.deciding.managedDomains.Nodup) (apart : DisjointDomains self.deciding.topology)
    (events : List ControllerEvent) (event : ControllerEvent) :
    let before := run (loopTick codec simActuator) self events
    ∃ decisions after, before.runOnce simActuator event = (.ok decisions, after) ∧
      before.deciding.runOnce (.actuator (simActuator.read before.actuator)) event.moment =
        (.ok decisions, after.deciding) ∧
      ∀ idx, after.actuator.gpus.get? idx = (before.actuator.gpus.get? idx).map fun gpu =>
        { (if self.config.dryRun then gpu else cappedByAll decisions idx gpu) with
          currentUtil := event.samples idx } := by
  intro before
  have past := SimState.rounds codec sound events
  have managed := past.same.sameNode.managed
  have config : before.config = self.config := past.same.config
  have disjoint : DisjointDomains before.deciding.topology := by
    unfold DisjointDomains
    rw [past.same.sameNode.domains]
    exact apart
  obtain ⟨decisions, last, ran, atOnce, pushed⟩ := @runDomains_at_once before before.actuator
    self.deciding.managedDomains past.sound ((past.covers_iff _).mpr covers)
    ((past.serves_iff _).mpr serves) nodup disjoint
    (fun _ _ _ _ _ _ => rfl) event.moment
  have same : SameController before last := by
    have passes := @runDomains_invariant SimBackend simActuator none event.moment before
      (SameController before) (fun state domainName holds =>
        holds.trans (sameController_runDomain simActuator none event.moment state domainName))
      self.deciding.managedDomains (.refl before)
    rw [ran] at passes
    exact passes
  have simMode : last.config.simMode = true := by rw [same.config, config, sim]
  refine ⟨decisions, last.advance simActuator event.samples, ?_, ?_, fun idx => ?_⟩
  · rw [runOnce, sampleNode_sim (config ▸ sim), managed]
    simp only [ran]
  · have kept : (last.advance simActuator event.samples).deciding = last.deciding := by
      unfold advance
      split
      · split <;> rfl
      · rfl
    rw [kept, ControlLoop.runOnce, managed]
    exact atOnce
  · have loaded : (last.advance simActuator event.samples).actuator =
        last.actuator.tick event.samples := by
      simp only [advance, simActuator, simMode, if_true]
    rw [loaded, SimBackend.tick, Dict.get?_mapVals, pushed idx, Option.map_map, config]
    cases self.config.dryRun <;> rfl

/-- The demo, in its second round. -/
theorem sim_tick_decides_at_once_demo :
    let codec := PriorityConfigSource.boostCodec 10 "10"
    let before := run (loopTick codec simActuator) demoController [demoEvent]
    ∃ decisions after, before.runOnce simActuator demoEvent = (.ok decisions, after) ∧
      before.deciding.runOnce (.actuator (simActuator.read before.actuator)) demoEvent.moment =
        (.ok decisions, after.deciding) := by
  intro codec before
  have covers : Covers demoController.deciding.topology demoController.actuator
      demoController.deciding.managedDomains := by
    have inside : ∀ idx, idx ∈ demoController.actuator.gpus.keys ↔ 0 ≤ idx ∧ idx < 3 :=
      fun idx => mem_keys_cappedFleet
    have listed : ∀ name ∈ ["d0", "d1"], ∃ domain,
        (MeteredController.twoDomains.domain name).toOption = some domain ∧
          ∀ idx ∈ domain.gpuIndices, 0 ≤ idx ∧ idx < 3 := by
      intro name member
      rcases List.mem_pair.mp member with rfl | rfl
      · exact ⟨_, rfl, by decide⟩
      · exact ⟨_, rfl, by decide⟩
    intro name member
    obtain ⟨domain, present, owned⟩ := listed name member
    exact ⟨domain, ok_of_toOption present, fun idx own => (inside idx).mpr (owned idx own)⟩
  have sound : demoController.deciding.brain.Sound := trivial
  have serves : Serves demoController.deciding.brain demoController.deciding.topology
      demoController.deciding.managedDomains := fun _ _ _ _ _ _ refused => refused.elim
  have nodup : demoController.deciding.managedDomains.Nodup := by decide +kernel
  obtain ⟨decisions, after, ran, atOnce, _⟩ := sim_tick_decides_at_once codec rfl sound covers serves
    nodup MeteredController.disjointDomains_twoDomains [demoEvent] demoEvent
  exact ⟨decisions, after, ran, atOnce⟩

/-! ### The fleet of the command line -/

end RunningController

/-- The number of GPUs the domains of a topology list. -/
def totalGpuCount (topology : PDNTopology) : ℕ :=
  (topology.domains.values.map fun domain => domain.gpuIndices.length).sum

namespace RunningController

/-- What the command line starts in sim mode: all domains managed, and the headline demo with as many
GPUs as the topology lists. -/
def ofSim (config : ControllerConfig) (deciding : ControlLoop) (first : GpuIndex → Util) :
    RunningController SimBackend where
  config := { config with simMode := true }
  deciding := { deciding with managedDomains := deciding.topology.domains.keys }
  actuator := oversubScenario (totalGpuCount deciding.topology) first

/-- **When the sim mode of the command line works**: in every round of every run, a tick goes through
exactly when the topology numbers its GPUs below their total, and the brain refuses none of them. -/
theorem sim_runs_iff (codec : Codec) (config : ControllerConfig) {deciding : ControlLoop}
    (sound : deciding.brain.Sound) (first : GpuIndex → Util) (events : List ControllerEvent)
    (event : ControllerEvent) :
    (∃ decisions, ((run (loopTick codec simActuator) (ofSim config deciding first) events).runOnce
        simActuator event).1 = .ok decisions) ↔
      ∀ domainName domain, deciding.topology.domains.get? domainName = some domain →
        ∀ idx ∈ domain.gpuIndices, (0 ≤ idx ∧ idx < totalGpuCount deciding.topology) ∧
          ¬ deciding.brain.RefusesGpu domainName idx := by
  have past := @SimState.rounds codec (ofSim config deciding first) sound events
  have sim : (run (loopTick codec simActuator) (ofSim config deciding first) events).config.simMode =
      true := by rw [past.same.config]; rfl
  rw [runOnce_sim_iff sim past.sound, past.covers_iff, past.serves_iff, past.same.sameNode.managed]
  have numbered : ∀ idx, idx ∈ (ofSim config deciding first).actuator.gpus.keys ↔
      0 ≤ idx ∧ idx < totalGpuCount deciding.topology := fun idx => mem_keys_cappedFleet
  constructor
  · rintro ⟨covers, serves⟩ domainName domain present idx owned
    have managed : domainName ∈ deciding.topology.domains.keys := Dict.mem_keys_iff.mpr ⟨domain, present⟩
    obtain ⟨found, same, inside⟩ := covers domainName managed
    have other : deciding.topology.domains.get? domainName = some found := domains_of_domain same
    rw [present, Option.some.injEq] at other
    subst other
    exact ⟨(numbered idx).mp (inside idx owned), serves domainName managed domain same idx owned⟩
  · intro below
    refine ⟨fun domainName member => ?_, fun domainName _ domain present idx owned =>
      (below domainName domain (domains_of_domain present) idx owned).2⟩
    obtain ⟨domain, present⟩ := Dict.mem_keys_iff.mp member
    refine ⟨domain, ?_, fun idx owned =>
      (numbered idx).mpr (below domainName domain present idx owned).1⟩
    show PDNTopology.domain deciding.topology domainName = _
    rw [PDNTopology.domain, present]

/-- The two domains of the demo number their GPUs from 0 to 2, so no round of the sim mode fails. -/
theorem sim_runs_iff_demo :
    ∃ decisions, ((run (loopTick (PriorityConfigSource.boostCodec 10 "10") simActuator)
      (ofSim {} demoController.deciding fun _ => busyLoad) [demoEvent]).runOnce simActuator
        demoEvent).1 = .ok decisions := by
  have sound : demoController.deciding.brain.Sound := trivial
  refine (sim_runs_iff (PriorityConfigSource.boostCodec 10 "10") {} sound (fun _ => busyLoad)
    [demoEvent] demoEvent).mpr fun domainName domain present idx owned => ?_
  have table : ∀ item ∈ demoController.deciding.topology.domains.items, ∀ idx ∈ item.2.gpuIndices,
      0 ≤ idx ∧ idx < totalGpuCount demoController.deciding.topology := by decide +kernel
  exact ⟨table _ (Dict.get?_eq_some_iff.mp present) idx owned, fun refused => refused.elim⟩

end RunningController

end Opendps.Controller
