/-
**The standalone controller, one call on its actuator at a time.**

A tick reads the draw, the cap and the maximum of each GPU and sets the caps one after another, and the
node it runs on does not stand still meanwhile. Here the loop of `run` is a program (`Prog`) whose calls
are those on the actuator: it can be run next to whatever else works on the same GPUs.

`run_roundsCalls` connects it to the loop of `Standalone`, in which a round is one step: with nobody else
around, the calls of any rounds come to just these rounds.
-/

import Opendps.Controller.StandaloneRuns
import Opendps.Lib.Calls

namespace Opendps.Controller

open Opendps.Lib Opendps.Pdn Opendps.Brain Opendps.Telemetry Opendps.Sim

/-! ### The calls -/

/-- A call on an actuator that knows the hardware maximum and takes one cap at a time. -/
inductive DeviceCall where
  | getPowerDraw (idx : GpuIndex)
  | getPowerCap (idx : GpuIndex)
  | getMaxCapW (idx : GpuIndex)
  | setPowerCap (idx : GpuIndex) (watts : ℚ)
  | tick (samples : GpuIndex → Util)

/-- What a call gives. -/
def DeviceCall.Answer : DeviceCall → Type
  | .getPowerDraw _ => Except PyError ℚ
  | .getPowerCap _ => Except PyError ℚ
  | .getMaxCapW _ => Except PyError ℚ
  | .setPowerCap _ _ => Except PyError Unit
  | .tick _ => Unit

/-- Whether a call writes a cap. -/
def DeviceCall.isWrite : DeviceCall → Bool
  | .setPowerCap _ _ => true
  | _ => false

/-- An actuator as what each call does to a world. Reading changes nothing; not every actuator has a
`tick`. -/
structure Device (W : Type) where
  handle : (call : DeviceCall) → W → call.Answer × W
  ticks : Bool
  readsDraw : ∀ idx world, (handle (.getPowerDraw idx) world).2 = world
  readsCap : ∀ idx world, (handle (.getPowerCap idx) world).2 = world
  readsMax : ∀ idx world, (handle (.getMaxCapW idx) world).2 = world

/-- The calls as the operations of an actuator. -/
def Device.actuator {W : Type} (device : Device W) : Actuator W where
  read world idx :=
    match (device.handle (.getPowerDraw idx) world).1 with
    | .error exc => .error exc
    | .ok powerDraw =>
      match (device.handle (.getPowerCap idx) world).1 with
      | .error exc => .error exc
      | .ok powerCap =>
        match (device.handle (.getMaxCapW idx) world).1 with
        | .error exc => .error exc
        | .ok maxCapW => .ok ⟨powerDraw, powerCap, some maxCapW⟩
  setPowerCap world idx watts := device.handle (.setPowerCap idx watts) world
  tick := if device.ticks then some fun world samples => (device.handle (.tick samples) world).2
    else none

/-- A program of calls on an actuator. -/
abbrev Calls (α : Type) := Prog DeviceCall.Answer α

/-! ### The loop as calls -/

/-- Read the GPUs of a domain off the actuator. -/
def readDomainCalls : List GpuIndex → Readings → Calls (Except PyError Readings)
  | [], readings => .ret (.ok readings)
  | idx :: rest, readings =>
    .call (.getPowerDraw idx) fun powerDraw =>
      match powerDraw with
      | .error exc => .ret (.error exc)
      | .ok powerDraw =>
        .call (.getPowerCap idx) fun powerCap =>
          match powerCap with
          | .error exc => .ret (.error exc)
          | .ok powerCap =>
            .call (.getMaxCapW idx) fun maxCapW =>
              match maxCapW with
              | .error exc => .ret (.error exc)
              | .ok maxCapW =>
                readDomainCalls rest (readings.store idx ⟨powerDraw, powerCap, maxCapW⟩)

/-- Set one cap after another. -/
def setEachCalls : List (GpuIndex × ℚ) → Calls (Except PyError Unit)
  | [] => .ret (.ok ())
  | (gpuIdx, capW) :: rest =>
    .call (.setPowerCap gpuIdx capW) fun outcome =>
      match outcome with
      | .error exc => .ret (.error exc)
      | .ok () => setEachCalls rest

/-- Where temperatures come from; an actuator is not asked for them. -/
def temperatures : Option (Dict ℤ GpuSample) → Source
  | none => .actuator fun idx => .error (.keyError (toString idx))
  | some gpuByIndex => .prom gpuByIndex

/-- Adopt the budget of a domain and read its telemetry. -/
def ControlLoop.observeCalls (self : ControlLoop) (gpuByIndex : Option (Dict ℤ GpuSample))
    (moment : Moment) (domainName : String) : Calls (Except PyError Readings × ControlLoop) :=
  match self.topology.domain domainName with
  | .error exc => .ret (.error exc, self)
  | .ok domain =>
    let adopted := { self with topology := self.adopt moment domainName }
    match adopted.topology.domainBudgetW domainName with
    | .error exc => .ret (.error exc, adopted)
    | .ok budget =>
      match gpuByIndex with
      | none => (readDomainCalls domain.gpuIndices {}).bind fun outcome => .ret (outcome, adopted)
      | some gpuByIndex =>
        .ret (readDomain ((Source.prom gpuByIndex).read (fallbackCap budget domain))
          domain.gpuIndices, adopted)

namespace RunningController

/-- A controller without what it drives. -/
def mind {σ : Type} (self : RunningController σ) : RunningController Unit where
  config := self.config
  deciding := self.deciding
  energy := self.energy
  tenantEnergy := self.tenantEnergy
  gauges := self.gauges
  printed := self.printed
  prioritySource := self.prioritySource
  actuator := ()

/-- Push caps; a dry run does not push. -/
def effectCalls (self : RunningController Unit) (caps : Dict GpuIndex ℚ) :
    Calls (Except PyError Unit) :=
  if self.config.dryRun then .ret (.ok ()) else setEachCalls caps.items

/-- The pass of a tick over one domain. -/
def runDomainCalls (gpuByIndex : Option (Dict ℤ GpuSample)) (moment : Moment)
    (self : RunningController Unit) (domainName : String) :
    Calls (Except PyError BrainDecision × RunningController Unit) :=
  (self.deciding.observeCalls gpuByIndex moment domainName).bind fun observed =>
    let adopted := observed.2
    match observed.1 with
    | .error exc => .ret (.error exc, { self with deciding := adopted })
    | .ok readings =>
      match adopted.brain.decide adopted.topology domainName
          (adopted.domainState (temperatures gpuByIndex) readings moment domainName)
          moment.around with
      | .error exc => .ret (.error exc, { self with deciding := adopted })
      | .ok (decision, brain) =>
        let accounted := { self with deciding := { adopted with brain := brain } }.account domainName
          readings.gpuDraws
        (accounted.effectCalls decision.caps).bind fun pushed =>
          match pushed with
          | .error exc => .ret (.error exc, accounted)
          | .ok () => .ret (.ok decision, accounted.report domainName readings.gpuDraws decision)

/-- One domain after another; an exception ends the tick. -/
def runDomainsCalls (gpuByIndex : Option (Dict ℤ GpuSample)) (moment : Moment) :
    List String → RunningController Unit →
      Calls (Except PyError (List BrainDecision) × RunningController Unit)
  | [], self => .ret (.ok [], self)
  | domainName :: rest, self =>
    (self.runDomainCalls gpuByIndex moment domainName).bind fun passed =>
      match passed.1 with
      | .error exc => .ret (.error exc, passed.2)
      | .ok decision => (runDomainsCalls gpuByIndex moment rest passed.2).bind fun others =>
        match others.1 with
        | .error exc => .ret (.error exc, others.2)
        | .ok decisions => .ret (.ok (decision :: decisions), others.2)

/-- In sim mode the fleet draws a new load. -/
def advanceCalls (ticks : Bool) (self : RunningController Unit) (samples : GpuIndex → Util) :
    Calls (RunningController Unit) :=
  if ticks && self.config.simMode then .call (.tick samples) fun _ => .ret self else .ret self

/-- One control tick. -/
def runOnceCalls (ticks : Bool) (self : RunningController Unit) (event : ControllerEvent) :
    Calls (Except PyError (List BrainDecision) × RunningController Unit) :=
  match self.sampleNode event with
  | .error exc => .ret (.error exc, self)
  | .ok gpuByIndex =>
    (runDomainsCalls gpuByIndex event.moment self.deciding.managedDomains self).bind fun passed =>
      match passed.1 with
      | .error exc => .ret (.error exc, passed.2)
      | .ok decisions =>
        (passed.2.advanceCalls ticks event.samples).bind fun next => .ret (.ok decisions, next)

/-- A round of the loop of `run`; what is raised in it is swallowed. -/
def loopTickCalls (codec : Codec) (ticks : Bool) (self : RunningController Unit)
    (event : ControllerEvent) : Calls (RunningController Unit) :=
  match self.refreshTiers codec event.polled with
  | (.error _, next) => .ret next
  | (.ok (), next) => (next.runOnceCalls ticks event).bind fun ran => .ret ran.2

/-- Some rounds, one after another. -/
def roundsCalls (codec : Codec) (ticks : Bool) :
    List ControllerEvent → RunningController Unit → Calls (RunningController Unit)
  | [], self => .ret self
  | event :: rest, self =>
    (self.loopTickCalls codec ticks event).bind fun next => roundsCalls codec ticks rest next

end RunningController

/-! ### The calls of a device, with nobody else around -/

section Alone

variable {W : Type} {device : Device W} {world : W}

theorem handle_getPowerDraw (device : Device W) (idx : GpuIndex) (world : W) :
    device.handle (.getPowerDraw idx) world =
      ((device.handle (.getPowerDraw idx) world).1, world) :=
  Prod.ext rfl (device.readsDraw idx world)

theorem handle_getPowerCap (device : Device W) (idx : GpuIndex) (world : W) :
    device.handle (.getPowerCap idx) world =
      ((device.handle (.getPowerCap idx) world).1, world) :=
  Prod.ext rfl (device.readsCap idx world)

theorem handle_getMaxCapW (device : Device W) (idx : GpuIndex) (world : W) :
    device.handle (.getMaxCapW idx) world =
      ((device.handle (.getMaxCapW idx) world).1, world) :=
  Prod.ext rfl (device.readsMax idx world)

/-- Reading GPU by GPU is reading the domain. -/
theorem run_readDomainCalls (device : Device W) (world : W) (fallbackCap : ℚ)
    (gpuIndices : List GpuIndex) (before : Readings) :
    (readDomainCalls gpuIndices before).run device.handle world =
      (readDomain ((Source.actuator (device.actuator.read world)).read fallbackCap) gpuIndices before,
        world) := by
  induction gpuIndices generalizing before with
  | nil => rfl
  | cons idx rest ih =>
    rw [readDomain, List.foldlM_cons, readDomainCalls, Prog.run_call (handle_getPowerDraw device idx world)]
    simp only [Source.read, Device.actuator]
    cases (device.handle (.getPowerDraw idx) world).1 with
    | error exc => rfl
    | ok powerDraw =>
      dsimp only
      rw [Prog.run_call (handle_getPowerCap device idx world)]
      cases (device.handle (.getPowerCap idx) world).1 with
      | error exc => rfl
      | ok powerCap =>
        dsimp only
        rw [Prog.run_call (handle_getMaxCapW device idx world)]
        cases (device.handle (.getMaxCapW idx) world).1 with
        | error exc => rfl
        | ok maxCapW => exact ih _

/-- Setting cap after cap. -/
theorem run_setEachCalls (device : Device W) (caps : List (GpuIndex × ℚ)) (world : W) :
    (setEachCalls caps).run device.handle world = device.actuator.setEach caps world := by
  induction caps generalizing world with
  | nil => rfl
  | cons item rest ih =>
    obtain ⟨gpuIdx, capW⟩ := item
    have same : device.actuator.setPowerCap world gpuIdx capW =
        device.handle (.setPowerCap gpuIdx capW) world := rfl
    rw [Actuator.setEach, same, setEachCalls, Prog.run]
    cases device.handle (.setPowerCap gpuIdx capW) world with
    | mk outcome next =>
      cases outcome with
      | error exc => rfl
      | ok done => exact ih next

/-- The reading of a domain. -/
theorem run_observeCalls (loop : ControlLoop) (gpuByIndex : Option (Dict ℤ GpuSample))
    (self : RunningController W) (moment : Moment) (domainName : String) :
    (loop.observeCalls gpuByIndex moment domainName).run device.handle self.actuator =
      (loop.observe (self.source device.actuator gpuByIndex) moment domainName, self.actuator) := by
  unfold ControlLoop.observeCalls ControlLoop.observe
  cases loop.topology.domain domainName with
  | error exc => rfl
  | ok domain =>
    dsimp only
    cases (loop.adopt moment domainName).domainBudgetW domainName with
    | error exc => rfl
    | ok budget =>
      cases gpuByIndex with
      | some sample => rfl
      | none =>
        dsimp only
        rw [Prog.run_bind, run_readDomainCalls device self.actuator
          (ControlLoop.fallbackCap budget domain)]
        rfl

namespace RunningController

/-- What the calls of a program come to, next to what a step of the loop comes to. -/
def shown {α : Type} (result : α × RunningController W) : (α × RunningController Unit) × W :=
  ((result.1, result.2.mind), result.2.actuator)

/-- The pass over a domain. -/
theorem run_runDomainCalls (gpuByIndex : Option (Dict ℤ GpuSample)) (moment : Moment)
    (self : RunningController W) (domainName : String) :
    (self.mind.runDomainCalls gpuByIndex moment domainName).run device.handle self.actuator =
      shown (self.runDomain device.actuator gpuByIndex moment domainName) := by
  have sameThermal : ∀ (adopted : ControlLoop) (readings : Readings),
      adopted.domainState (temperatures gpuByIndex) readings moment domainName =
        adopted.domainState (self.source device.actuator gpuByIndex) readings moment domainName := by
    intro adopted readings
    cases gpuByIndex <;> rfl
  have sameStart : self.mind.deciding = self.deciding := rfl
  unfold runDomainCalls runDomain
  rw [Prog.run_bind, run_observeCalls, sameStart]
  dsimp only
  cases self.deciding.observe (self.source device.actuator gpuByIndex) moment domainName with
  | mk outcome adopted =>
    cases outcome with
    | error exc => rfl
    | ok readings =>
      dsimp only
      rw [sameThermal]
      cases adopted.brain.decide adopted.topology domainName (adopted.domainState
          (self.source device.actuator gpuByIndex) readings moment domainName) moment.around with
      | error exc => rfl
      | ok answer =>
        obtain ⟨decision, brain⟩ := answer
        dsimp only
        rw [Prog.run_bind]
        unfold effectCalls effect
        have sameConfig : (({ self.mind with deciding := { adopted with brain := brain } } :
            RunningController Unit).account domainName readings.gpuDraws).config = self.config := rfl
        have sameConfig' : (({ self with deciding := { adopted with brain := brain } } :
            RunningController W).account domainName readings.gpuDraws).config = self.config := rfl
        rw [sameConfig, sameConfig']
        cases self.config.dryRun with
        | true => rfl
        | false =>
          have pushes : device.actuator.push decision.caps self.actuator =
              device.actuator.setEach decision.caps.items self.actuator := rfl
          have standing : (({ self with deciding := { adopted with brain := brain } } :
              RunningController W).account domainName readings.gpuDraws).actuator = self.actuator := rfl
          simp only [Bool.false_eq_true, if_false]
          rw [run_setEachCalls, standing, pushes]
          cases device.actuator.setEach decision.caps.items self.actuator with
          | mk outcome pushed => cases outcome <;> rfl

/-- The domains of a tick. -/
theorem run_runDomainsCalls (gpuByIndex : Option (Dict ℤ GpuSample)) (moment : Moment)
    (domainNames : List String) (self : RunningController W) :
    (runDomainsCalls gpuByIndex moment domainNames self.mind).run device.handle self.actuator =
      shown (runDomains device.actuator gpuByIndex moment domainNames self) := by
  induction domainNames generalizing self with
  | nil => rfl
  | cons domainName rest ih =>
    rw [runDomainsCalls, runDomains, Prog.run_bind, run_runDomainCalls]
    cases self.runDomain device.actuator gpuByIndex moment domainName with
    | mk outcome next =>
      cases outcome with
      | error exc => rfl
      | ok decision =>
        simp only [shown]
        rw [Prog.run_bind, ih]
        cases runDomains device.actuator gpuByIndex moment rest next with
        | mk outcome last => cases outcome <;> rfl

/-- The new load. -/
theorem run_advanceCalls (self : RunningController W) (samples : GpuIndex → Util) :
    (self.mind.advanceCalls device.ticks samples).run device.handle self.actuator =
      ((self.advance device.actuator samples).mind, (self.advance device.actuator samples).actuator) := by
  have sameConfig : self.mind.config = self.config := rfl
  unfold advanceCalls advance Device.actuator
  rw [sameConfig]
  cases device.ticks <;> cases self.config.simMode <;> rfl

/-- A tick. -/
theorem run_runOnceCalls (self : RunningController W) (event : ControllerEvent) :
    (self.mind.runOnceCalls device.ticks event).run device.handle self.actuator =
      shown (self.runOnce device.actuator event) := by
  have sameSample : self.mind.sampleNode event = self.sampleNode event := rfl
  have sameDomains : self.mind.deciding.managedDomains = self.deciding.managedDomains := rfl
  unfold runOnceCalls runOnce
  rw [sameSample]
  cases self.sampleNode event with
  | error exc => rfl
  | ok gpuByIndex =>
    dsimp only
    rw [Prog.run_bind, sameDomains, run_runDomainsCalls]
    cases runDomains device.actuator gpuByIndex event.moment self.deciding.managedDomains self with
    | mk outcome next =>
      cases outcome with
      | error exc => rfl
      | ok decisions =>
        simp only [shown]
        rw [Prog.run_bind, run_advanceCalls]
        rfl

theorem refreshTiers_mind (codec : Codec) (self : RunningController W) (input : PollInput) :
    self.mind.refreshTiers codec input =
      ((self.refreshTiers codec input).1, (self.refreshTiers codec input).2.mind) := by
  unfold refreshTiers
  cases polled : self.prioritySource with
  | none => simp only [mind, polled]
  | some source =>
    cases brain : self.deciding.brain with
    | priorityPrs old =>
      simp only [mind, polled, brain]
      cases afterPoll codec source input with
      | mk outcome after =>
        cases outcome with
        | error exc => rfl
        | ok done =>
          simp only [setTiers, brain]
          cases old.setTiers after.snapshot <;> rfl
    | _ => simp only [mind, polled, brain, setTiers]

/-- A round. -/
theorem run_loopTickCalls (codec : Codec) (self : RunningController W) (event : ControllerEvent) :
    (self.mind.loopTickCalls codec device.ticks event).run device.handle self.actuator =
      ((self.loopTick codec device.actuator event).mind,
        (self.loopTick codec device.actuator event).actuator) := by
  have standing : (self.refreshTiers codec event.polled).2.actuator = self.actuator :=
    Actuator.Keeps.refreshTiers codec self event.polled
  unfold loopTickCalls loopTick
  rw [refreshTiers_mind]
  cases refreshed : self.refreshTiers codec event.polled with
  | mk outcome next =>
    rw [refreshed] at standing
    cases outcome with
    | error exc =>
      dsimp only
      rw [← standing]
      rfl
    | ok done =>
      dsimp only
      rw [Prog.run_bind, ← standing, run_runOnceCalls]
      rfl

/-- **With nobody else around, the calls are the rounds.** -/
theorem run_roundsCalls (codec : Codec) (events : List ControllerEvent) (self : RunningController W) :
    (roundsCalls codec device.ticks events self.mind).run device.handle self.actuator =
      ((run (loopTick codec device.actuator) self events).mind,
        (run (loopTick codec device.actuator) self events).actuator) := by
  induction events generalizing self with
  | nil => rfl
  | cons event rest ih =>
    rw [roundsCalls, Prog.run_bind, run_loopTickCalls, run_cons]
    exact ih _

end RunningController

end Alone

end Opendps.Controller
