/-
**What the calls of a controller are.**

The rounds of a controller as a program (`DeviceCalls`) may run next to anything. Here is what can be
said of the program before it is known what it runs next to, one lemma for each of its parts up to the
rounds.

* `makes_roundsCalls`: which calls there are at all. GPUs are read only where the telemetry comes off the
  actuator.
* `atMost_roundsCalls`: how many caps are set, at most one a round for each GPU that is managed.
* `safe_roundsCalls`: rely and guarantee. What pushing the caps of one decision comes to next to others
  (`PushRule`), the rounds come to for all the decisions they print.
-/

import Opendps.Brain.CappedGpus
import Opendps.Controller.DeviceCalls

namespace Opendps.Controller

open Opendps.Lib Opendps.Pdn Opendps.Brain Opendps.Telemetry Opendps.Sim

/-! ### Which calls a controller makes -/

variable {allowed : DeviceCall → Prop}

theorem makes_readDomainCalls (draws : ∀ idx, allowed (.getPowerDraw idx))
    (caps : ∀ idx, allowed (.getPowerCap idx)) (maxima : ∀ idx, allowed (.getMaxCapW idx))
    (gpuIndices : List GpuIndex) (before : Readings) :
    (readDomainCalls gpuIndices before).Makes allowed := by
  induction gpuIndices generalizing before with
  | nil => exact trivial
  | cons idx rest ih =>
    refine ⟨draws idx, fun powerDraw => ?_⟩
    cases powerDraw with
    | error exc => exact trivial
    | ok powerDraw =>
      refine ⟨caps idx, fun powerCap => ?_⟩
      cases powerCap with
      | error exc => exact trivial
      | ok powerCap =>
        refine ⟨maxima idx, fun maxCapW => ?_⟩
        cases maxCapW with
        | error exc => exact trivial
        | ok maxCapW => exact ih _

/-- The GPUs that are read are those of the domain. -/
theorem yields_readDomainCalls (gpuIndices : List GpuIndex) (before : Readings) :
    (readDomainCalls gpuIndices before).Yields fun outcome => ∀ readings, outcome = .ok readings →
      ∀ gpu ∈ readings.gpuDraws.keys, gpu ∈ before.gpuDraws.keys ∨ gpu ∈ gpuIndices := by
  induction gpuIndices generalizing before with
  | nil =>
    rintro readings ⟨⟩ gpu shown
    exact .inl shown
  | cons idx rest ih =>
    intro powerDraw
    cases powerDraw with
    | error exc => exact fun readings raised => (by cases raised)
    | ok powerDraw =>
      intro powerCap
      cases powerCap with
      | error exc => exact fun readings raised => (by cases raised)
      | ok powerCap =>
        intro maxCapW
        cases maxCapW with
        | error exc => exact fun readings raised => (by cases raised)
        | ok maxCapW =>
          refine Prog.Yields.mono (ih _) fun outcome inside readings same gpu shown => ?_
          rcases inside readings same gpu shown with stored | later
          · obtain ⟨draw, found⟩ := Dict.mem_keys_iff.mp stored
            rw [Readings.store, Dict.get?_set] at found
            split at found
            · next here => exact .inr (here ▸ List.mem_cons_self)
            · exact .inl (Dict.mem_keys_iff.mpr ⟨draw, found⟩)
          · exact .inr (List.mem_cons_of_mem idx later)

theorem makes_setEachCalls (writes : ∀ idx watts, allowed (.setPowerCap idx watts))
    (caps : List (GpuIndex × ℚ)) : (setEachCalls caps).Makes allowed := by
  induction caps with
  | nil => exact trivial
  | cons item rest ih =>
    refine ⟨writes item.1 item.2, fun outcome => ?_⟩
    cases outcome with
    | error exc => exact trivial
    | ok done => exact ih

/-- What reading a domain comes to, whatever is read: the controller is the one it was, and the GPUs are
those of the domain. -/
structure Observed (loop : ControlLoop) (domainName : String)
    (observed : Except PyError Readings × ControlLoop) : Prop where
  sameNode : ControlLoop.SameNode loop observed.2
  inside : ∀ readings, observed.1 = .ok readings → ∃ domain,
    loop.topology.domains.get? domainName = some domain ∧
      ∀ gpu ∈ readings.gpuDraws.keys, gpu ∈ domain.gpuIndices

theorem yields_observeCalls (self : ControlLoop) (gpuByIndex : Option (Dict ℤ GpuSample))
    (moment : Moment) (domainName : String) :
    (self.observeCalls gpuByIndex moment domainName).Yields (Observed self domainName) := by
  unfold ControlLoop.observeCalls
  cases present : self.topology.domain domainName with
  | error exc => exact ⟨.refl self, fun readings raised => (by cases raised)⟩
  | ok domain =>
    have listed := domains_of_domain present
    have sameNode : ControlLoop.SameNode self { self with topology := self.adopt moment domainName } :=
      self.sameNode_adopt moment domainName .rfl
    dsimp only
    cases (self.adopt moment domainName).domainBudgetW domainName with
    | error exc => exact ⟨sameNode, fun readings raised => (by cases raised)⟩
    | ok budget =>
      cases gpuByIndex with
      | none =>
        refine (yields_readDomainCalls domain.gpuIndices {}).bind fun outcome inside =>
          ⟨sameNode, fun readings same => ⟨domain, listed, fun gpu shown => ?_⟩⟩
        rcases inside readings same gpu shown with fresh | own
        · rw [Dict.keys_empty] at fresh
          cases fresh
        · exact own
      | some sample =>
        refine ⟨sameNode, fun readings collected => ⟨domain, listed, fun gpu shown => ?_⟩⟩
        rw [RunningController.gpuDraws_readDomain collected, Dict.mem_keys_iff] at shown
        obtain ⟨watts, found⟩ := shown
        rw [MeteredController.get?_gpuDraws] at found
        split at found
        · assumption
        · cases found

theorem makes_observeCalls (self : ControlLoop) {gpuByIndex : Option (Dict ℤ GpuSample)}
    (reads : gpuByIndex = none → ∀ idx, allowed (.getPowerDraw idx) ∧ allowed (.getPowerCap idx) ∧
      allowed (.getMaxCapW idx)) (moment : Moment) (domainName : String) :
    (self.observeCalls gpuByIndex moment domainName).Makes allowed := by
  unfold ControlLoop.observeCalls
  cases self.topology.domain domainName with
  | error exc => exact trivial
  | ok domain =>
    dsimp only
    cases (self.adopt moment domainName).domainBudgetW domainName with
    | error exc => exact trivial
    | ok budget =>
      cases gpuByIndex with
      | some sample => exact trivial
      | none =>
        exact (makes_readDomainCalls (fun idx => (reads rfl idx).1) (fun idx => (reads rfl idx).2.1)
          (fun idx => (reads rfl idx).2.2) domain.gpuIndices {}).bind fun outcome => trivial

namespace RunningController

variable {self : RunningController Unit} {gpuByIndex : Option (Dict ℤ GpuSample)} {moment : Moment}
  {domainName : String}

/-- A pass leaves the controller the one it was. -/
theorem yields_runDomainCalls (gpuByIndex : Option (Dict ℤ GpuSample)) (moment : Moment)
    (self : RunningController Unit) (domainName : String) :
    (self.runDomainCalls gpuByIndex moment domainName).Yields fun passed =>
      SameController self passed.2 := by
  refine (yields_observeCalls self.deciding gpuByIndex moment domainName).bind fun observed seen => ?_
  obtain ⟨outcome, adopted⟩ := observed
  cases outcome with
  | error exc => exact ⟨rfl, seen.sameNode⟩
  | ok readings =>
    dsimp only
    cases decided : adopted.brain.decide adopted.topology domainName
        (adopted.domainState (temperatures gpuByIndex) readings moment domainName) moment.around with
    | error exc => exact ⟨rfl, seen.sameNode⟩
    | ok answer =>
      obtain ⟨decision, brain⟩ := answer
      have sameNode : ControlLoop.SameNode self.deciding { adopted with brain := brain } :=
        seen.sameNode.trans ⟨rfl, rfl, fun _ => rfl, rfl, rfl, rfl, rfl, rfl,
          AnyBrain.readsFlags_decide decided⟩
      refine (Prog.yields_true _).bind fun pushed _ => ?_
      cases pushed with
      | error exc => exact ⟨rfl, sameNode⟩
      | ok done => exact ⟨rfl, sameNode⟩

/-- A pass reads, where there is no sample, and writes. -/
theorem makes_runDomainCalls (self : RunningController Unit)
    (reads : gpuByIndex = none → ∀ idx, allowed (.getPowerDraw idx) ∧ allowed (.getPowerCap idx) ∧
      allowed (.getMaxCapW idx)) (writes : ∀ idx watts, allowed (.setPowerCap idx watts))
    (moment : Moment) (domainName : String) :
    (self.runDomainCalls gpuByIndex moment domainName).Makes allowed := by
  refine (makes_observeCalls self.deciding reads moment domainName).bind fun observed => ?_
  obtain ⟨outcome, adopted⟩ := observed
  cases outcome with
  | error exc => exact trivial
  | ok readings =>
    dsimp only
    cases adopted.brain.decide adopted.topology domainName
        (adopted.domainState (temperatures gpuByIndex) readings moment domainName) moment.around with
    | error exc => exact trivial
    | ok answer =>
      have push : ∀ accounted : RunningController Unit,
          (accounted.effectCalls answer.1.caps).Makes allowed := by
        intro accounted
        unfold effectCalls
        split
        · exact trivial
        · exact makes_setEachCalls writes _
      refine (push _).bind fun pushed => ?_
      cases pushed with
      | error exc => exact trivial
      | ok done => exact trivial

theorem yields_runDomainsCalls (gpuByIndex : Option (Dict ℤ GpuSample)) (moment : Moment)
    (domainNames : List String) (self : RunningController Unit) :
    (runDomainsCalls gpuByIndex moment domainNames self).Yields fun passed =>
      SameController self passed.2 := by
  induction domainNames generalizing self with
  | nil => exact .refl self
  | cons domainName rest ih =>
    refine (yields_runDomainCalls gpuByIndex moment self domainName).bind fun passed same => ?_
    obtain ⟨outcome, next⟩ := passed
    cases outcome with
    | error exc => exact same
    | ok decision =>
      refine (ih next).bind fun others later => ?_
      obtain ⟨outcome, last⟩ := others
      cases outcome with
      | error exc => exact same.trans later
      | ok decisions => exact same.trans later

theorem makes_runDomainsCalls
    (reads : gpuByIndex = none → ∀ idx, allowed (.getPowerDraw idx) ∧ allowed (.getPowerCap idx) ∧
      allowed (.getMaxCapW idx)) (writes : ∀ idx watts, allowed (.setPowerCap idx watts))
    (moment : Moment) (domainNames : List String) (self : RunningController Unit) :
    (runDomainsCalls gpuByIndex moment domainNames self).Makes allowed := by
  induction domainNames generalizing self with
  | nil => exact trivial
  | cons domainName rest ih =>
    refine (self.makes_runDomainCalls reads writes moment domainName).bind fun passed => ?_
    obtain ⟨outcome, next⟩ := passed
    cases outcome with
    | error exc => exact trivial
    | ok decision =>
      refine (ih next).bind fun others => ?_
      obtain ⟨outcome, last⟩ := others
      cases outcome with
      | error exc => exact trivial
      | ok decisions => exact trivial

/-- The telemetry is read off the actuator where there is no sample of the node. -/
theorem readsActuator_of_sampleNode {event : ControllerEvent}
    (read : self.sampleNode event = .ok none) : self.readsActuator = true := by
  unfold sampleNode at read
  split at read
  · assumption
  · cases answered : event.nodeSample with
    | error exc =>
      rw [answered] at read
      cases read
    | ok sample =>
      rw [answered] at read
      cases read

theorem yields_loopTickCalls (codec : Codec) (ticks : Bool) (self : RunningController Unit)
    (event : ControllerEvent) :
    (self.loopTickCalls codec ticks event).Yields (SameController self) := by
  have polled := sameController_refreshTiers codec self event.polled
  unfold loopTickCalls
  cases refreshed : self.refreshTiers codec event.polled with
  | mk outcome next =>
    rw [refreshed] at polled
    cases outcome with
    | error exc => exact polled
    | ok done =>
      have ticked : (next.runOnceCalls ticks event).Yields fun ran => SameController self ran.2 := by
        unfold runOnceCalls
        cases next.sampleNode event with
        | error exc => exact polled
        | ok gpuByIndex =>
          refine (yields_runDomainsCalls gpuByIndex event.moment next.deciding.managedDomains next).bind
            fun passed same => ?_
          obtain ⟨outcome, last⟩ := passed
          cases outcome with
          | error exc => exact polled.trans same
          | ok decisions =>
            have advanced : (last.advanceCalls ticks event.samples).Yields (· = last) := by
              unfold advanceCalls
              split
              · exact fun _ => rfl
              · rfl
            refine advanced.bind fun after isLast => ?_
            rw [isLast]
            exact polled.trans same
      exact ticked.bind fun ran same => same

/-- **What a round calls**: it reads where the telemetry is read off the actuator, and draws a new load
in sim mode, where the actuator has one. -/
theorem makes_loopTickCalls {ticks : Bool} {event : ControllerEvent} (codec : Codec)
    (reads : self.readsActuator = true → ∀ idx, allowed (.getPowerDraw idx) ∧
      allowed (.getPowerCap idx) ∧ allowed (.getMaxCapW idx))
    (writes : ∀ idx watts, allowed (.setPowerCap idx watts))
    (loads : ticks = true → allowed (.tick event.samples)) :
    (self.loopTickCalls codec ticks event).Makes allowed := by
  have polled := (sameController_refreshTiers codec self event.polled).config
  unfold loopTickCalls
  cases refreshed : self.refreshTiers codec event.polled with
  | mk outcome next =>
    rw [refreshed] at polled
    cases outcome with
    | error exc => exact trivial
    | ok done =>
      have ticked : (next.runOnceCalls ticks event).Makes allowed := by
        unfold runOnceCalls
        cases read : next.sampleNode event with
        | error exc => exact trivial
        | ok gpuByIndex =>
          have offActuator : gpuByIndex = none → self.readsActuator = true := by
            rintro rfl
            rw [readsActuator, ← polled]
            exact readsActuator_of_sampleNode read
          refine (makes_runDomainsCalls (fun none => reads (offActuator none)) writes event.moment
            next.deciding.managedDomains next).bind fun passed => ?_
          obtain ⟨outcome, last⟩ := passed
          cases outcome with
          | error exc => exact trivial
          | ok decisions =>
            have advanced : (last.advanceCalls ticks event.samples).Makes allowed := by
              unfold advanceCalls
              split
              · next both => exact ⟨loads (Bool.and_eq_true_iff.mp both).1, fun _ => trivial⟩
              · exact trivial
            exact advanced.bind fun after => trivial
      exact ticked.bind fun ran => trivial

/-- **What the rounds call.** -/
theorem makes_roundsCalls {ticks : Bool} (codec : Codec) (events : List ControllerEvent)
    (reads : self.readsActuator = true → ∀ idx, allowed (.getPowerDraw idx) ∧
      allowed (.getPowerCap idx) ∧ allowed (.getMaxCapW idx))
    (writes : ∀ idx watts, allowed (.setPowerCap idx watts))
    (loads : ticks = true → ∀ event ∈ events, allowed (.tick event.samples)) :
    (roundsCalls codec ticks events self).Makes allowed := by
  induction events generalizing self with
  | nil => exact trivial
  | cons event rest ih =>
    refine (makes_loopTickCalls codec reads writes
      fun has => loads has event List.mem_cons_self).bind_of_yields
      (yields_loopTickCalls codec ticks self event) fun next same => ?_
    refine ih ?_ fun has other member => loads has other (List.mem_cons_of_mem event member)
    rw [readsActuator, same.config]
    exact reads

/-! ### How many caps a controller sets -/

/-- How many GPUs a domain lists. -/
def gpusIn (loop : ControlLoop) (domainName : String) : ℕ :=
  ((loop.topology.domains.get? domainName).map fun domain => domain.gpuIndices.length).getD 0

theorem atMost_setEachCalls (caps : List (GpuIndex × ℚ)) :
    (setEachCalls caps).AtMost DeviceCall.isWrite caps.length := by
  induction caps with
  | nil => exact trivial
  | cons item rest ih =>
    refine ⟨Nat.succ_pos _, fun outcome => ?_⟩
    cases outcome with
    | error exc => exact trivial
    | ok done => exact ih

/-- A program that makes no call that counts. -/
theorem atMost_of_makes {α : Type} {calls : Calls α} (makes : calls.Makes fun call => call.isWrite = false) :
    calls.AtMost DeviceCall.isWrite 0 := by
  induction calls with
  | ret value => exact trivial
  | call req resume ih =>
    unfold Prog.AtMost
    rw [if_neg (by rw [makes.1]; exact Bool.false_ne_true)]
    exact fun answer => ih answer (makes.2 answer)

/-- **A pass sets at most one cap for each GPU its domain lists.** -/
theorem atMost_runDomainCalls (gpuByIndex : Option (Dict ℤ GpuSample)) (moment : Moment)
    (self : RunningController Unit) (domainName : String) :
    (self.runDomainCalls gpuByIndex moment domainName).AtMost DeviceCall.isWrite
      (gpusIn self.deciding domainName) := by
  have reads := @makes_observeCalls (fun call => call.isWrite = false) self.deciding gpuByIndex
    (fun _ idx => ⟨rfl, rfl, rfl⟩) moment domainName
  rw [← Nat.zero_add (gpusIn self.deciding domainName)]
  refine (atMost_of_makes reads).bind_of_yields
    (yields_observeCalls self.deciding gpuByIndex moment domainName) fun observed seen => ?_
  obtain ⟨outcome, adopted⟩ := observed
  cases outcome with
  | error exc => exact trivial
  | ok readings =>
    dsimp only
    cases decided : adopted.brain.decide adopted.topology domainName
        (adopted.domainState (temperatures gpuByIndex) readings moment domainName) moment.around with
    | error exc => exact trivial
    | ok answer =>
      obtain ⟨decision, brain⟩ := answer
      obtain ⟨domain, listed, inside⟩ := seen.inside readings rfl
      have fewer : decision.caps.items.length ≤ gpusIn self.deciding domainName := by
        have within : decision.caps.keys ⊆ domain.gpuIndices := fun gpu capped =>
          inside gpu ((AnyBrain.mem_keys_decide decided gpu).mp capped).1
        have shorter := (List.subperm_of_subset decision.caps.keys_nodup within).length_le
        rw [Dict.keys, List.length_map] at shorter
        rw [gpusIn, listed]
        exact shorter
      have push : ∀ accounted : RunningController Unit,
          (accounted.effectCalls decision.caps).AtMost DeviceCall.isWrite
            (gpusIn self.deciding domainName) := by
        intro accounted
        unfold effectCalls
        split
        · exact trivial
        · exact (atMost_setEachCalls decision.caps.items).mono fewer
      rw [← Nat.add_zero (gpusIn self.deciding domainName)]
      refine (push _).bind_of_yields (Prog.yields_true _) fun pushed _ => ?_
      cases pushed with
      | error exc => exact trivial
      | ok done => exact trivial

theorem SameController.gpusIn_eq {before after : RunningController Unit}
    (same : SameController before after) : gpusIn after.deciding = gpusIn before.deciding := by
  funext domainName
  rw [gpusIn, gpusIn, same.sameNode.domains]

theorem atMost_runDomainsCalls (gpuByIndex : Option (Dict ℤ GpuSample)) (moment : Moment)
    (domainNames : List String) (self : RunningController Unit) :
    (runDomainsCalls gpuByIndex moment domainNames self).AtMost DeviceCall.isWrite
      (domainNames.map (gpusIn self.deciding)).sum := by
  induction domainNames generalizing self with
  | nil => exact trivial
  | cons domainName rest ih =>
    rw [List.map_cons, List.sum_cons]
    refine (atMost_runDomainCalls gpuByIndex moment self domainName).bind_of_yields
      (yields_runDomainCalls gpuByIndex moment self domainName) fun passed same => ?_
    obtain ⟨outcome, next⟩ := passed
    cases outcome with
    | error exc => exact trivial
    | ok decision =>
      rw [← same.gpusIn_eq, ← Nat.add_zero (List.sum _)]
      refine (ih next).bind_of_yields (Prog.yields_true _) fun others _ => ?_
      obtain ⟨outcome, last⟩ := others
      cases outcome with
      | error exc => exact trivial
      | ok decisions => exact trivial

/-- How many GPUs the managed domains list. -/
def managedGpus (self : RunningController Unit) : ℕ :=
  (self.deciding.managedDomains.map (gpusIn self.deciding)).sum

theorem SameController.managedGpus_eq {before after : RunningController Unit}
    (same : SameController before after) : after.managedGpus = before.managedGpus := by
  rw [managedGpus, managedGpus, same.gpusIn_eq, same.sameNode.managed]

theorem atMost_loopTickCalls (codec : Codec) (ticks : Bool) (self : RunningController Unit)
    (event : ControllerEvent) :
    (self.loopTickCalls codec ticks event).AtMost DeviceCall.isWrite self.managedGpus := by
  have polled := sameController_refreshTiers codec self event.polled
  unfold loopTickCalls
  cases refreshed : self.refreshTiers codec event.polled with
  | mk outcome next =>
    rw [refreshed] at polled
    cases outcome with
    | error exc => exact trivial
    | ok done =>
      rw [← polled.managedGpus_eq, ← Nat.add_zero next.managedGpus]
      refine Prog.AtMost.bind_of_yields ?_ (Prog.yields_true _) fun ran _ => trivial
      unfold runOnceCalls
      cases next.sampleNode event with
      | error exc => exact trivial
      | ok gpuByIndex =>
        rw [← Nat.add_zero next.managedGpus]
        refine (atMost_runDomainsCalls gpuByIndex event.moment next.deciding.managedDomains
          next).bind_of_yields (Prog.yields_true _) fun passed _ => ?_
        obtain ⟨outcome, last⟩ := passed
        cases outcome with
        | error exc => exact trivial
        | ok decisions =>
          refine atMost_of_makes (Prog.Makes.bind ?_ fun after => trivial)
          unfold advanceCalls
          split
          · exact ⟨rfl, fun _ => trivial⟩
          · exact trivial

/-- **Some rounds set at most one cap a round for each GPU that is managed.** -/
theorem atMost_roundsCalls (codec : Codec) (ticks : Bool) (events : List ControllerEvent)
    (self : RunningController Unit) : (roundsCalls codec ticks events self).AtMost DeviceCall.isWrite
      (events.length * self.managedGpus) := by
  induction events generalizing self with
  | nil => exact trivial
  | cons event rest ih =>
    rw [List.length_cons, Nat.succ_mul, Nat.add_comm]
    refine (atMost_loopTickCalls codec ticks self event).bind_of_yields
      (yields_loopTickCalls codec ticks self event) fun next same => ?_
    rw [← same.managedGpus_eq]
    exact ih next

/-! ### Pushing next to others -/

section Pushing

variable {W : Type} {handle : (call : DeviceCall) → W → call.Answer × W} {rely : W → W → Prop}
  {pushable : BrainDecision → Prop} {inv : List BrainDecision → W → Prop}
  {first self : RunningController Unit} {world : W}

/-- What holds of the printed decisions and the world, whatever the others do within `rely`: it outlasts
reads and decisions that are not pushed, and pushing a decision makes it hold with that decision. -/
structure PushRule (handle : (call : DeviceCall) → W → call.Answer × W) (rely : W → W → Prop)
    (dryRun : Bool) (pushable : BrainDecision → Prop) (inv : List BrainDecision → W → Prop) : Prop where
  refl : ∀ world, rely world world
  stable : ∀ decisions world later, inv decisions world → rely world later → inv decisions later
  reads : ∀ decisions call world, call.isWrite = false → inv decisions world →
    inv decisions (handle call world).2
  unpushed : ∀ decisions decision world, inv decisions world → inv (decisions ++ [decision]) world
  push : dryRun = false → ∀ decisions decision world, pushable decision → inv decisions world →
    (setEachCalls decision.caps.items).Safe handle rely (fun _ _ _ => True)
      (fun outcome later => outcome = .ok () ∧ inv (decisions ++ [decision]) later) world

/-- The controller that started, with the decisions it has printed since. -/
def Shows (inv : List BrainDecision → W → Prop) (first last : RunningController Unit) (world : W) : Prop :=
  SameController first last ∧
    ∃ decisions, last.printed = first.printed ++ decisions.map jsonLine ∧ inv decisions world

theorem Shows.stable (rule : PushRule handle rely first.config.dryRun pushable inv) {later : W}
    (shows : Shows inv first self world) (changed : rely world later) : Shows inv first self later := by
  obtain ⟨same, decisions, printed, holds⟩ := shows
  exact ⟨same, decisions, printed, rule.stable decisions world later holds changed⟩

/-- A decision that is printed. -/
theorem Shows.report {decisions : List BrainDecision} {decision : BrainDecision}
    {next : RunningController Unit} (same : SameController first next)
    (printed : next.printed = first.printed ++ decisions.map jsonLine)
    (holds : inv (decisions ++ [decision]) world) (domainName : String) (draws : Dict GpuIndex ℚ) :
    Shows inv first (next.report domainName draws decision) world := by
  refine ⟨⟨same.config, same.sameNode⟩, decisions ++ [decision], ?_, holds⟩
  show next.printed ++ [jsonLine decision] = _
  rw [printed, List.map_append, List.append_assoc]
  rfl

/-- **A pass next to others.** -/
theorem safe_runDomainCalls (rule : PushRule handle rely first.config.dryRun pushable inv)
    (inside : ∀ domainName domain, first.deciding.topology.domains.get? domainName = some domain →
      ∀ decision : BrainDecision, (∀ gpu ∈ decision.caps.keys, gpu ∈ domain.gpuIndices) →
        pushable decision)
    (shows : Shows inv first self world) (gpuByIndex : Option (Dict ℤ GpuSample)) (moment : Moment)
    (domainName : String) :
    (self.runDomainCalls gpuByIndex moment domainName).Safe handle rely (fun _ _ _ => True)
      (fun passed later => Shows inv first passed.2 later) world := by
  have reads := @makes_observeCalls (fun call => call.isWrite = false) self.deciding gpuByIndex
    (fun _ idx => ⟨rfl, rfl, rfl⟩) moment domainName
  have observes := @Prog.safe_of_makes _ _ _ _ _ handle rely (Shows inv first self) _
    (fun _ _ holds changed => holds.stable rule changed)
    (fun call isRead world holds => by
      obtain ⟨same, decisions, printed, holds⟩ := holds
      exact ⟨same, decisions, printed, rule.reads decisions call world isRead holds⟩)
    _ reads (yields_observeCalls self.deciding gpuByIndex moment domainName) world shows
  refine Prog.Safe.bind rule.refl (observes.mono (fun _ _ _ _ => trivial) fun observed later both => ?_)
  obtain ⟨seen, same, decisions, printed, holds⟩ := both
  obtain ⟨outcome, adopted⟩ := observed
  have unchanged : SameController first { self with deciding := adopted } :=
    same.trans ⟨rfl, seen.sameNode⟩
  cases outcome with
  | error exc =>
    exact fun last changed => ⟨unchanged, decisions, printed, rule.stable _ _ _ holds changed⟩
  | ok readings =>
    dsimp only
    cases decided : adopted.brain.decide adopted.topology domainName
        (adopted.domainState (temperatures gpuByIndex) readings moment domainName) moment.around with
    | error exc =>
      exact fun last changed => ⟨unchanged, decisions, printed, rule.stable _ _ _ holds changed⟩
    | ok answer =>
      obtain ⟨decision, brain⟩ := answer
      obtain ⟨domain, listed, owned⟩ := seen.inside readings rfl
      have capped : ∀ gpu ∈ decision.caps.keys, gpu ∈ domain.gpuIndices := fun gpu member =>
        owned gpu ((AnyBrain.mem_keys_decide decided gpu).mp member).1
      have decides : SameController first
          ({ self with deciding := { adopted with brain := brain } }.account domainName
            readings.gpuDraws) :=
        unchanged.trans ⟨rfl, rfl, rfl, fun _ => rfl, rfl, rfl, rfl, rfl, rfl,
          AnyBrain.readsFlags_decide decided⟩
      dsimp only
      unfold effectCalls
      cases dry : first.config.dryRun with
      | true =>
        rw [if_pos (by rw [decides.config, dry])]
        exact fun last changed => Shows.report decides printed
          (rule.stable _ _ _ (rule.unpushed _ decision _ holds) changed) domainName readings.gpuDraws
      | false =>
        rw [if_neg (by rw [decides.config, dry]; exact Bool.false_ne_true)]
        rw [same.sameNode.domains] at listed
        have pushes := rule.push dry decisions decision later (inside domainName domain listed decision
          capped) holds
        refine Prog.Safe.bind rule.refl (pushes.mono (fun _ _ _ _ => trivial) fun pushed last both => ?_)
        obtain ⟨rfl, holds⟩ := both
        exact fun final changed => Shows.report decides printed (rule.stable _ _ _ holds changed)
          domainName readings.gpuDraws

theorem safe_runDomainsCalls (rule : PushRule handle rely first.config.dryRun pushable inv)
    (inside : ∀ domainName domain, first.deciding.topology.domains.get? domainName = some domain →
      ∀ decision : BrainDecision, (∀ gpu ∈ decision.caps.keys, gpu ∈ domain.gpuIndices) →
        pushable decision)
    (gpuByIndex : Option (Dict ℤ GpuSample)) (moment : Moment) (domainNames : List String)
    (shows : Shows inv first self world) :
    (runDomainsCalls gpuByIndex moment domainNames self).Safe handle rely (fun _ _ _ => True)
      (fun passed later => Shows inv first passed.2 later) world := by
  induction domainNames generalizing self world with
  | nil => exact fun later changed => shows.stable rule changed
  | cons domainName rest ih =>
    refine Prog.Safe.bind rule.refl ((safe_runDomainCalls rule inside shows gpuByIndex moment
      domainName).mono (fun _ _ _ _ => trivial) fun passed later showsNext => ?_)
    obtain ⟨outcome, next⟩ := passed
    cases outcome with
    | error exc => exact fun last changed => showsNext.stable rule changed
    | ok decision =>
      refine Prog.Safe.bind rule.refl ((ih showsNext).mono (fun _ _ _ _ => trivial)
        fun others last showsLast => ?_)
      obtain ⟨outcome, after⟩ := others
      cases outcome <;> exact fun final changed => showsLast.stable rule changed

/-- A round next to others. -/
theorem safe_loopTickCalls (codec : Codec) (ticks : Bool)
    (rule : PushRule handle rely first.config.dryRun pushable inv)
    (inside : ∀ domainName domain, first.deciding.topology.domains.get? domainName = some domain →
      ∀ decision : BrainDecision, (∀ gpu ∈ decision.caps.keys, gpu ∈ domain.gpuIndices) →
        pushable decision)
    (shows : Shows inv first self world) (event : ControllerEvent) :
    (self.loopTickCalls codec ticks event).Safe handle rely (fun _ _ _ => True) (Shows inv first)
      world := by
  have polled := sameController_refreshTiers codec self event.polled
  have printed : (self.refreshTiers codec event.polled).2.printed = self.printed := by
    obtain ⟨source, brain, refreshed, _⟩ := refreshTiers_snd codec self event.polled
    rw [refreshed]
  unfold loopTickCalls
  cases refreshed : self.refreshTiers codec event.polled with
  | mk outcome next =>
    rw [refreshed] at polled printed
    have showsNext : Shows inv first next world := by
      obtain ⟨same, decisions, lines, holds⟩ := shows
      exact ⟨same.trans polled, decisions, printed.trans lines, holds⟩
    cases outcome with
    | error exc => exact fun later changed => showsNext.stable rule changed
    | ok done =>
      refine Prog.Safe.bind rule.refl ?_
      have ticked : (next.runOnceCalls ticks event).Safe handle rely (fun _ _ _ => True)
          (fun ran later => Shows inv first ran.2 later) world := by
        unfold runOnceCalls
        cases next.sampleNode event with
        | error exc => exact fun later changed => showsNext.stable rule changed
        | ok gpuByIndex =>
          refine Prog.Safe.bind rule.refl ((safe_runDomainsCalls rule inside gpuByIndex event.moment
            next.deciding.managedDomains showsNext).mono (fun _ _ _ _ => trivial)
            fun passed later showsLast => ?_)
          obtain ⟨outcome, last⟩ := passed
          cases outcome with
          | error exc => exact fun final changed => showsLast.stable rule changed
          | ok decisions =>
            refine Prog.Safe.bind rule.refl ?_
            unfold advanceCalls
            split
            · intro final changed
              obtain ⟨same, decisions, lines, holds⟩ := showsLast.stable rule changed
              have loaded : Shows inv first last (handle (.tick event.samples) final).2 :=
                ⟨same, decisions, lines, rule.reads decisions (.tick event.samples) final rfl holds⟩
              exact ⟨trivial, fun _ quiet _ more => (loaded.stable rule quiet).stable rule more⟩
            · exact fun final changed _ more => (showsLast.stable rule changed).stable rule more
      refine ticked.mono (fun _ _ _ _ => trivial) fun ran later showsRan => ?_
      exact fun final changed => Shows.stable rule showsRan changed

/-- **Rounds next to others.** -/
theorem safe_roundsCalls (codec : Codec) (ticks : Bool)
    (rule : PushRule handle rely first.config.dryRun pushable inv)
    (inside : ∀ domainName domain, first.deciding.topology.domains.get? domainName = some domain →
      ∀ decision : BrainDecision, (∀ gpu ∈ decision.caps.keys, gpu ∈ domain.gpuIndices) →
        pushable decision)
    (events : List ControllerEvent) (shows : Shows inv first self world) :
    (roundsCalls codec ticks events self).Safe handle rely (fun _ _ _ => True) (Shows inv first)
      world := by
  induction events generalizing self world with
  | nil => exact fun later changed => shows.stable rule changed
  | cons event rest ih =>
    exact Prog.Safe.bind rule.refl ((safe_loopTickCalls codec ticks rule inside shows event).mono
      (fun _ _ _ _ => trivial) fun next later showsNext => ih showsNext)

end Pushing

end RunningController

end Opendps.Controller
