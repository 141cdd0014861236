/-
**The standalone controller: a whole tick and the loop around it.**

`runOnce` is the tick with all it does: for one managed domain after another it adopts a budget, reads
the telemetry, asks the brain, meters the energy, pushes the caps, sets the gauges and prints a line; in
sim mode the fleet then draws a new load. The actuator is any (`Actuator`), so what is read for a domain
may depend on what was pushed for the one before. `loopTick` is a round of `run`: it polls the priority
source, if there is one, hands the tiers to the brain, runs the tick, and swallows what is raised.

What a domain's pass does is said once, in `runDomain_cases`. `SameController` is what no round changes:
which domains there are, which are managed and what was configured.
-/

import Opendps.Controller.ControlTick
import Opendps.Controller.Metering
import Opendps.Controller.PriorityPolling
import Opendps.Sim.Backend

namespace Opendps.Controller

open Opendps.Lib Opendps.Pdn Opendps.Brain Opendps.Telemetry Opendps.Sim

/-! ### The actuator -/

/-- What a controller drives, over the states of whatever it is. A call that raises may have had an
effect. -/
structure Actuator (σ : Type) where
  read : σ → GpuIndex → Except PyError ActuatorReading
  setPowerCap : σ → GpuIndex → ℚ → Except PyError Unit × σ
  pushAllCaps : Option (σ → Dict GpuIndex ℚ → Except PyError Unit × σ) := none
  tick : Option (σ → (GpuIndex → Util) → σ) := none

namespace Actuator

variable {σ : Type}

/-- Set one cap after another; the caps before one that raises stay set. -/
def setEach (actuator : Actuator σ) : List (GpuIndex × ℚ) → σ → Except PyError Unit × σ
  | [], state => (.ok (), state)
  | (gpuIdx, capW) :: rest, state =>
    match actuator.setPowerCap state gpuIdx capW with
    | (.error exc, next) => (.error exc, next)
    | (.ok (), next) => actuator.setEach rest next

/-- Push caps, in one call where the actuator has one. -/
def push (actuator : Actuator σ) (caps : Dict GpuIndex ℚ) (state : σ) : Except PyError Unit × σ :=
  match actuator.pushAllCaps with
  | some pushAllCaps => pushAllCaps state caps
  | none => actuator.setEach caps.items state

end Actuator

/-- The simulated fleet as an actuator. -/
def simActuator : Actuator SimBackend where
  read backend idx := do
    let powerDraw ← backend.getPowerDraw idx
    let powerCap ← backend.getPowerCap idx
    let maxCapW ← backend.getMaxCapW idx
    pure { powerDraw := powerDraw, powerCap := powerCap, maxCapW := some maxCapW }
  setPowerCap backend idx watts :=
    match backend.setPowerCap idx watts with
    | .error exc => (.error exc, backend)
    | .ok next => (.ok (), next)
  tick := some SimBackend.tick

/-! ### What is exported and printed -/

/-- What a domain is exported as. -/
structure DomainStats where
  idleStrandedW : ℚ := 0
  hotCount : ℕ := 0
  idleCount : ℕ := 0
  drawW : ℚ
  capW : ℚ

/-- Idle GPUs and the headroom they do not use, alike for every brain. -/
def domainStats (gpuDraws caps : Dict GpuIndex ℚ) (hotThreshold : ℚ := 6 / 10) : DomainStats :=
  caps.items.foldl (fun stats item =>
    let draw := gpuDraws.getD item.1 0
    let ratio := if 0 < item.2 then draw / item.2 else 0
    if ratio < hotThreshold then
      { stats with
        idleCount := stats.idleCount + 1
        idleStrandedW := stats.idleStrandedW + max 0 (item.2 - draw) }
    else { stats with hotCount := stats.hotCount + 1 })
    { drawW := gpuDraws.values.sum, capW := caps.values.sum }

/-- The gauges, by domain and by domain and GPU. -/
structure Gauges where
  prsActive : Dict String Bool := .empty
  stats : Dict String DomainStats := .empty
  gpuDraw : Dict (String × String) ℚ := .empty
  gpuCap : Dict (String × String) ℚ := .empty

/-- Update all gauges after a brain decision. -/
def updateDecisionMetrics (gauges : Gauges) (domain : String) (prsActive : Bool)
    (stats : DomainStats) (gpuDraws gpuCaps : Dict GpuIndex ℚ) : Gauges where
  prsActive := gauges.prsActive.set domain prsActive
  stats := gauges.stats.set domain stats
  gpuDraw := gauges.gpuDraw.setAll (gpuDraws.items.map fun item => ((domain, toString item.1), item.2))
  gpuCap := gauges.gpuCap.setAll (gpuCaps.items.map fun item => ((domain, toString item.1), item.2))

/-- The line that is printed for a decision. -/
def jsonLine (decision : BrainDecision) : Json :=
  .object
    [("ts", .float (.finite decision.ts)), ("domain", .str decision.domain),
     ("caps", .object (decision.caps.items.map fun item => (toString item.1, .float (.finite item.2)))),
     ("reason", .str decision.reason)]

/-! ### The controller -/

/-- What a controller is configured with besides what it decides with. -/
structure ControllerConfig where
  intervalS : ℚ := 5
  dryRun : Bool := false
  simMode : Bool := false
  brainType : String := "prs"
  metricsPort : Option ℕ := none
  telemetry : String := "prom"
  quotaConfig : Option QuotaConfig := none

/-- A controller and what it drives. -/
structure RunningController (σ : Type) where
  config : ControllerConfig
  deciding : ControlLoop
  energy : EnergyAccountant := {}
  tenantEnergy : TenantEnergy := .empty
  gauges : Gauges := {}
  printed : List Json := []
  prioritySource : Option PriorityConfigSource := none
  actuator : σ

/-- What a tick meets: the sample of the node, the clock and the store, the load the fleet draws at the
end, and what a poll of the priorities meets. -/
structure ControllerEvent where
  nodeSample : Except PyError (Dict ℤ GpuSample)
  moment : Moment
  samples : GpuIndex → Util
  polled : PollInput

/-- The brains whose domains are exported as reclaiming. -/
def prsBrainTypes : List String := ["prs", "job-prs", "quota-prs", "priority-prs", "thermal-prs"]

/-- A domain that is found is in the table. -/
theorem domains_of_domain {topology : PDNTopology} {domainName : String} {domain : PowerDomain}
    (present : topology.domain domainName = .ok domain) :
    topology.domains.get? domainName = some domain := by
  unfold PDNTopology.domain at present
  split at present
  · next found hit =>
    cases present
    exact hit
  · cases present

/-- Adopt the budget of a domain and read its telemetry. -/
def ControlLoop.observe (self : ControlLoop) (source : Source) (moment : Moment)
    (domainName : String) : Except PyError Readings × ControlLoop :=
  match self.topology.domain domainName with
  | .error exc => (.error exc, self)
  | .ok domain =>
    let adopted := { self with topology := self.adopt moment domainName }
    match adopted.topology.domainBudgetW domainName with
    | .error exc => (.error exc, adopted)
    | .ok budget =>
      (readDomain (source.read (ControlLoop.fallbackCap budget domain)) domain.gpuIndices, adopted)

namespace RunningController

variable {σ : Type}

/-- Draws are read from the actuator in sim mode and when it is configured as the telemetry. -/
def readsActuator (self : RunningController σ) : Bool :=
  self.config.simMode || self.config.telemetry = "actuator"

/-- The controller as far as it meters. -/
def metered (self : RunningController σ) : MeteredController where
  topology := self.deciding.topology
  managedDomains := self.deciding.managedDomains
  intervalS := self.config.intervalS
  quotaConfig := self.config.quotaConfig
  energy := self.energy
  tenantEnergy := self.tenantEnergy

/-- Integrate the draws of a domain and attribute them to its tenants. -/
def account (self : RunningController σ) (domainName : String) (draws : Dict GpuIndex ℚ) :
    RunningController σ :=
  let accounted := self.metered.account domainName draws
  { self with energy := accounted.energy, tenantEnergy := accounted.tenantEnergy }

/-- What pushing caps does to the actuator; a dry run does not push. -/
def effect (self : RunningController σ) (actuator : Actuator σ) (caps : Dict GpuIndex ℚ) :
    Except PyError Unit × σ :=
  if self.config.dryRun then (.ok (), self.actuator) else actuator.push caps self.actuator

/-- Set the gauges, if there is a port for them, and print the decision. -/
def report (self : RunningController σ) (domainName : String) (draws : Dict GpuIndex ℚ)
    (decision : BrainDecision) : RunningController σ :=
  { self with
    gauges := match self.config.metricsPort with
      | none => self.gauges
      | some _ => updateDecisionMetrics self.gauges domainName
          (decide (self.config.brainType ∈ prsBrainTypes)) (domainStats draws decision.caps) draws
          decision.caps
    printed := self.printed ++ [jsonLine decision] }

/-- Where the telemetry of a domain is read: off the actuator as it is by then, or in the sample of the
tick. -/
def source (self : RunningController σ) (actuator : Actuator σ) :
    Option (Dict ℤ GpuSample) → Source
  | none => .actuator (actuator.read self.actuator)
  | some gpuByIndex => .prom gpuByIndex

/-- The pass of a tick over one domain. -/
def runDomain (actuator : Actuator σ) (gpuByIndex : Option (Dict ℤ GpuSample)) (moment : Moment)
    (self : RunningController σ) (domainName : String) :
    Except PyError BrainDecision × RunningController σ :=
  let source := self.source actuator gpuByIndex
  match self.deciding.observe source moment domainName with
  | (.error exc, adopted) => (.error exc, { self with deciding := adopted })
  | (.ok readings, adopted) =>
    match adopted.brain.decide adopted.topology domainName
        (adopted.domainState source readings moment domainName) moment.around with
    | .error exc => (.error exc, { self with deciding := adopted })
    | .ok (decision, brain) =>
      let accounted := { self with deciding := { adopted with brain := brain } }.account domainName
        readings.gpuDraws
      match accounted.effect actuator decision.caps with
      | (.error exc, pushed) => (.error exc, { accounted with actuator := pushed })
      | (.ok (), pushed) => (.ok decision,
          { accounted with actuator := pushed }.report domainName readings.gpuDraws decision)

/-- One domain after another; an exception ends the tick. -/
def runDomains (actuator : Actuator σ) (gpuByIndex : Option (Dict ℤ GpuSample)) (moment : Moment) :
    List String → RunningController σ →
      Except PyError (List BrainDecision) × RunningController σ
  | [], self => (.ok [], self)
  | domainName :: rest, self =>
    match self.runDomain actuator gpuByIndex moment domainName with
    | (.error exc, next) => (.error exc, next)
    | (.ok decision, next) =>
      match runDomains actuator gpuByIndex moment rest next with
      | (.error exc, last) => (.error exc, last)
      | (.ok decisions, last) => (.ok (decision :: decisions), last)

/-- What a tick reads before its domains: nothing, where draws are read off the actuator. -/
def sampleNode (self : RunningController σ) (event : ControllerEvent) :
    Except PyError (Option (Dict ℤ GpuSample)) :=
  if self.readsActuator then .ok none else event.nodeSample.map some

/-- In sim mode the fleet draws a new load. -/
def advance (self : RunningController σ) (actuator : Actuator σ) (samples : GpuIndex → Util) :
    RunningController σ :=
  match actuator.tick with
  | some tick =>
    if self.config.simMode then { self with actuator := tick self.actuator samples } else self
  | none => self

/-- One control tick. -/
def runOnce (actuator : Actuator σ) (self : RunningController σ) (event : ControllerEvent) :
    Except PyError (List BrainDecision) × RunningController σ :=
  match self.sampleNode event with
  | .error exc => (.error exc, self)
  | .ok gpuByIndex =>
    match runDomains actuator gpuByIndex event.moment self.deciding.managedDomains self with
    | (.error exc, next) => (.error exc, next)
    | (.ok decisions, next) => (.ok decisions, next.advance actuator event.samples)

/-- A source after a poll, also one that raised: then no more than the client is set up. -/
def afterPoll (codec : Codec) (source : PriorityConfigSource) (input : PollInput) :
    Except PyError Unit × PriorityConfigSource :=
  match source.poll codec input with
  | .ok next => (.ok (), next)
  | .error exc => (.error exc, { source with hasApi := source.hasApi || input.clientLoads })

/-- Hand the tiers to the brain; one brain takes them. -/
def setTiers (self : RunningController σ) (tiers : Dict ℤ String) :
    Except PyError Unit × RunningController σ :=
  match self.deciding.brain with
  | .priorityPrs brain =>
    match brain.setTiers tiers with
    | .error exc => (.error exc, self)
    | .ok next => (.ok (), { self with deciding := { self.deciding with brain := .priorityPrs next } })
  | _ => (.error (.typeError "configured priority source requires a brain with set_tiers()"), self)

/-- Poll the priorities, if there is a source, and hand them to the brain. -/
def refreshTiers (codec : Codec) (self : RunningController σ) (input : PollInput) :
    Except PyError Unit × RunningController σ :=
  match self.prioritySource with
  | none => (.ok (), self)
  | some source =>
    match self.deciding.brain with
    | .priorityPrs _ =>
      match afterPoll codec source input with
      | (.error exc, source) => (.error exc, { self with prioritySource := some source })
      | (.ok (), source) => { self with prioritySource := some source }.setTiers source.snapshot
    | _ => self.setTiers source.snapshot

/-- A round of the loop of `run`; what is raised in it is swallowed. -/
def loopTick (codec : Codec) (actuator : Actuator σ) (self : RunningController σ)
    (event : ControllerEvent) : RunningController σ :=
  match self.refreshTiers codec event.polled with
  | (.error _, next) => next
  | (.ok (), next) => (next.runOnce actuator event).2

/-- Per-tenant cumulative energy in kilowatt-hours. -/
def energyShowback (self : RunningController σ) : Dict String ℚ := self.metered.energyShowback

/-! ### One domain -/

variable {actuator : Actuator σ} {gpuByIndex : Option (Dict ℤ GpuSample)} {moment : Moment}
  {self : RunningController σ} {domainName : String}

/-- A pass of the deciding part is the reading, then the brain. -/
theorem decideDomain_eq_observe (loop : ControlLoop) (source : Source) (moment : Moment)
    (domainName : String) : loop.decideDomain source moment domainName =
      match loop.observe source moment domainName with
      | (.error exc, adopted) => (.error exc, adopted)
      | (.ok readings, adopted) =>
        match adopted.brain.decide adopted.topology domainName
            (adopted.domainState source readings moment domainName) moment.around with
        | .error exc => (.error exc, adopted)
        | .ok (decision, brain) => (.ok decision, { adopted with brain := brain }) := by
  unfold ControlLoop.decideDomain ControlLoop.observe
  cases loop.topology.domain domainName with
  | error exc => rfl
  | ok domain =>
    dsimp only
    cases (loop.adopt moment domainName).domainBudgetW domainName with
    | error exc => rfl
    | ok budget =>
      dsimp only
      cases readDomain (source.read (ControlLoop.fallbackCap budget domain)) domain.gpuIndices <;> rfl

/-- **What a pass does.** It decides as the deciding part does; where that raises, nothing else happens.
Else the draws it has read are metered and the caps pushed, and if the push does not raise, the decision
is exported and printed. -/
theorem runDomain_cases (actuator : Actuator σ) (gpuByIndex : Option (Dict ℤ GpuSample))
    (moment : Moment) (self : RunningController σ) (domainName : String) :
    (∃ exc loop, self.deciding.decideDomain (self.source actuator gpuByIndex) moment domainName =
        (.error exc, loop) ∧
      self.runDomain actuator gpuByIndex moment domainName =
        (.error exc, { self with deciding := loop })) ∨
    ∃ readings adopted decision loop,
      self.deciding.observe (self.source actuator gpuByIndex) moment domainName =
        (.ok readings, adopted) ∧
      adopted.brain.decide adopted.topology domainName (adopted.domainState
        (self.source actuator gpuByIndex) readings moment domainName) moment.around =
          .ok (decision, loop.brain) ∧
      self.deciding.decideDomain (self.source actuator gpuByIndex) moment domainName =
        (.ok decision, loop) ∧
      self.runDomain actuator gpuByIndex moment domainName =
        let accounted := { self with deciding := loop }.account domainName readings.gpuDraws
        match self.effect actuator decision.caps with
        | (.error exc, pushed) => (.error exc, { accounted with actuator := pushed })
        | (.ok (), pushed) => (.ok decision,
            { accounted with actuator := pushed }.report domainName readings.gpuDraws decision) := by
  rw [decideDomain_eq_observe]
  unfold runDomain
  dsimp only
  cases observed : self.deciding.observe (self.source actuator gpuByIndex) moment domainName with
  | mk outcome adopted =>
    cases outcome with
    | error exc => exact .inl ⟨exc, adopted, rfl, rfl⟩
    | ok readings =>
      dsimp only
      cases decided : adopted.brain.decide adopted.topology domainName (adopted.domainState
          (self.source actuator gpuByIndex) readings moment domainName) moment.around with
      | error exc => exact .inl ⟨exc, adopted, rfl, rfl⟩
      | ok answer =>
        obtain ⟨decision, brain⟩ := answer
        exact .inr ⟨readings, adopted, decision, { adopted with brain := brain }, rfl, decided, rfl,
          rfl⟩

/-- **The deciding part of a pass is a pass of the deciding part**, also where the push raises. -/
theorem deciding_runDomain (actuator : Actuator σ) (gpuByIndex : Option (Dict ℤ GpuSample))
    (moment : Moment) (self : RunningController σ) (domainName : String) :
    (self.runDomain actuator gpuByIndex moment domainName).2.deciding =
      (self.deciding.decideDomain (self.source actuator gpuByIndex) moment domainName).2 := by
  rcases runDomain_cases actuator gpuByIndex moment self domainName with
    ⟨exc, loop, decided, ran⟩ | ⟨readings, adopted, decision, loop, _, _, decided, ran⟩
  · rw [ran, decided]
  · rw [ran, decided]
    dsimp only
    split <;> rfl

/-- Where the actuator stands after a pass: as it stood, or pushed to. -/
theorem actuator_runDomain (actuator : Actuator σ) (gpuByIndex : Option (Dict ℤ GpuSample))
    (moment : Moment) (self : RunningController σ) (domainName : String) :
    (self.runDomain actuator gpuByIndex moment domainName).2.actuator = self.actuator ∨
      ∃ caps, (self.runDomain actuator gpuByIndex moment domainName).2.actuator =
        (self.effect actuator caps).2 := by
  rcases runDomain_cases actuator gpuByIndex moment self domainName with
    ⟨exc, loop, decided, ran⟩ | ⟨readings, adopted, decision, loop, _, _, decided, ran⟩
  · rw [ran]
    exact .inl rfl
  · rw [ran]
    refine .inr ⟨decision.caps, ?_⟩
    dsimp only
    split
    · next pushed =>
      rw [pushed]
    · next pushed =>
      rw [pushed]
      rfl

/-! ### What no round changes -/

/-- Two states of one controller: what was configured, and the node it decides for. -/
structure SameController (before after : RunningController σ) : Prop where
  config : after.config = before.config
  sameNode : ControlLoop.SameNode before.deciding after.deciding

theorem SameController.refl (self : RunningController σ) : SameController self self :=
  ⟨rfl, .refl _⟩

theorem SameController.trans {other next : RunningController σ}
    (first : SameController self other) (second : SameController other next) :
    SameController self next :=
  ⟨second.config.trans first.config, first.sameNode.trans second.sameNode⟩

theorem sameController_runDomain (actuator : Actuator σ) (gpuByIndex : Option (Dict ℤ GpuSample))
    (moment : Moment) (self : RunningController σ) (domainName : String) :
    SameController self (self.runDomain actuator gpuByIndex moment domainName).2 := by
  refine ⟨?_, deciding_runDomain actuator gpuByIndex moment self domainName ▸
    ControlLoop.sameNode_decideDomain _ _ _ _⟩
  rcases runDomain_cases actuator gpuByIndex moment self domainName with
    ⟨exc, loop, decided, ran⟩ | ⟨readings, adopted, decision, loop, _, _, decided, ran⟩
  · rw [ran]
  · rw [ran]
    dsimp only
    split <;> rfl

/-! ### Ticks and rounds -/

/-- What every pass keeps, the domains of a tick keep, wherever it stops. -/
theorem runDomains_invariant {inv : RunningController σ → Prop}
    (kept : ∀ state domainName, inv state →
      inv (state.runDomain actuator gpuByIndex moment domainName).2)
    (domainNames : List String) (before : inv self) :
    inv (runDomains actuator gpuByIndex moment domainNames self).2 := by
  induction domainNames generalizing self with
  | nil => exact before
  | cons domainName rest ih =>
    have first := kept self domainName before
    unfold runDomains
    cases ran : self.runDomain actuator gpuByIndex moment domainName with
    | mk outcome next =>
      rw [ran] at first
      cases outcome with
      | error exc => exact first
      | ok decision =>
        have later := ih first
        dsimp only
        cases others : runDomains actuator gpuByIndex moment rest next with
        | mk outcome last =>
          rw [others] at later
          cases outcome <;> exact later

/-- What a tick reads in is the sample of the node, if it is anything. -/
def Sampled (event : ControllerEvent) (gpuByIndex : Option (Dict ℤ GpuSample)) : Prop :=
  ∀ sample, gpuByIndex = some sample → event.nodeSample = .ok sample

theorem sampled_of_sampleNode {event : ControllerEvent} {gpuByIndex : Option (Dict ℤ GpuSample)}
    (read : self.sampleNode event = .ok gpuByIndex) : Sampled event gpuByIndex := by
  intro sample isSample
  subst isSample
  unfold sampleNode at read
  split at read
  · cases read
  · cases answered : event.nodeSample with
    | error exc =>
      rw [answered] at read
      cases read
    | ok found =>
      rw [answered] at read
      cases read
      rfl

/-- What every pass and a new load keep, a tick keeps. -/
theorem runOnce_invariant {inv : RunningController σ → Prop} {event : ControllerEvent}
    (kept : ∀ gpuByIndex, Sampled event gpuByIndex → ∀ state domainName, inv state →
      inv (state.runDomain actuator gpuByIndex event.moment domainName).2)
    (advanced : ∀ state, inv state → inv (state.advance actuator event.samples))
    (before : inv self) : inv (self.runOnce actuator event).2 := by
  unfold runOnce
  cases read : self.sampleNode event with
  | error exc => exact before
  | ok gpuByIndex =>
    have passed := runDomains_invariant (kept gpuByIndex (sampled_of_sampleNode read))
      self.deciding.managedDomains before
    dsimp only
    cases ran : runDomains actuator gpuByIndex event.moment self.deciding.managedDomains self with
    | mk outcome next =>
      rw [ran] at passed
      cases outcome with
      | error exc => exact passed
      | ok decisions => exact advanced next passed

/-- Refreshing the tiers changes the source and the tiers of the brain, and nothing else. -/
theorem refreshTiers_snd (codec : Codec) (self : RunningController σ) (input : PollInput) :
    ∃ source brain, (self.refreshTiers codec input).2 = { self with
        prioritySource := source, deciding := { self.deciding with brain := brain } } ∧
      (brain = self.deciding.brain ∨ ∃ old new, self.deciding.brain = .priorityPrs old ∧
        brain = .priorityPrs new ∧ ∃ tiers, old.setTiers tiers = .ok new) := by
  cases polled : self.prioritySource with
  | none =>
    refine ⟨none, self.deciding.brain, ?_, .inl rfl⟩
    simp only [refreshTiers, polled]
    rw [← polled]
  | some source =>
    cases brain : self.deciding.brain with
    | priorityPrs old =>
      cases poll : afterPoll codec source input with
      | mk outcome after =>
        cases outcome with
        | error exc =>
          refine ⟨some after, .priorityPrs old, ?_, .inl rfl⟩
          simp only [refreshTiers, polled, brain, poll]
          rw [← brain]
        | ok done =>
          simp only [refreshTiers, polled, brain, poll, setTiers]
          cases set : old.setTiers after.snapshot with
          | error exc =>
            refine ⟨some after, .priorityPrs old, ?_, .inl rfl⟩
            rw [← brain]
          | ok new => exact ⟨some after, .priorityPrs new, rfl, .inr ⟨old, new, rfl, rfl, _, set⟩⟩
    | _ =>
      refine ⟨some source, self.deciding.brain, ?_, .inl brain⟩
      simp only [refreshTiers, polled, brain, setTiers]
      rw [← polled, ← brain]

theorem sameController_refreshTiers (codec : Codec) (self : RunningController σ)
    (input : PollInput) : SameController self (self.refreshTiers codec input).2 := by
  obtain ⟨source, brain, same, kind⟩ := refreshTiers_snd codec self input
  rw [same]
  refine ⟨rfl, rfl, rfl, fun _ => rfl, rfl, rfl, rfl, rfl, rfl, ?_⟩
  rcases kind with rfl | ⟨old, new, before, rfl, _⟩
  · exact .rfl
  · rw [before]
    exact .rfl

/-- What refreshing the tiers, every pass and a new load keep, a round of the loop keeps. -/
theorem loopTick_invariant {inv : RunningController σ → Prop} {codec : Codec}
    {event : ControllerEvent}
    (refreshed : ∀ state, inv state → inv (state.refreshTiers codec event.polled).2)
    (kept : ∀ gpuByIndex, Sampled event gpuByIndex → ∀ state domainName, inv state →
      inv (state.runDomain actuator gpuByIndex event.moment domainName).2)
    (advanced : ∀ state, inv state → inv (state.advance actuator event.samples))
    (before : inv self) : inv (self.loopTick codec actuator event) := by
  have polled := refreshed self before
  unfold loopTick
  cases poll : self.refreshTiers codec event.polled with
  | mk outcome next =>
    rw [poll] at polled
    cases outcome with
    | error exc => exact polled
    | ok done => exact runOnce_invariant kept advanced polled

theorem sameController_advance (actuator : Actuator σ) (self : RunningController σ)
    (samples : GpuIndex → Util) : SameController self (self.advance actuator samples) := by
  unfold advance
  split
  · split
    · exact ⟨rfl, .refl _⟩
    · exact .refl self
  · exact .refl self

theorem sameController_loopTick (codec : Codec) (actuator : Actuator σ)
    (self : RunningController σ) (event : ControllerEvent) :
    SameController self (self.loopTick codec actuator event) :=
  loopTick_invariant (fun state same => same.trans (sameController_refreshTiers codec state _))
    (fun gpuByIndex _ state domainName same =>
      same.trans (sameController_runDomain actuator gpuByIndex _ state domainName))
    (fun state same => same.trans (sameController_advance actuator state _)) (.refl self)

end RunningController

end Opendps.Controller
