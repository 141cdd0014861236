/-
**One control tick: telemetry, adoption, brain.**

For each managed domain a tick adopts the budget handed down for it, collects what the telemetry has
of its GPUs (`readDomain`) and asks the brain for caps. The telemetry is an actuator or a Prometheus
sample (`Source`); what a source does not have is filled in by an equal part of the budget
(`Source.read`). The caps a tick decides are pushed by the caller.

`readDomain_ok` says what was collected, `decideDomain_eq` what is decided from it. A tick changes the
adopted budgets and the brain, and nothing else of a controller (`SameNode`).
-/

import Opendps.Brain.Family
import Opendps.Telemetry.PromClient
import Opendps.Lib.Run

namespace Opendps.Controller

open Opendps.Lib Opendps.Pdn Opendps.Brain Opendps.Telemetry

/-! ### What is read -/

/-- What a tick has of one GPU. -/
structure GpuReading where
  powerDrawW : ℚ
  powerCapW : ℚ
  maxCapW : ℚ

/-- What an actuator answers about a GPU. Not every actuator knows the hardware maximum. -/
structure ActuatorReading where
  powerDraw : ℚ
  powerCap : ℚ
  maxCapW : Option ℚ

/-- Where a tick reads from: the actuator, or the samples of a node by index. -/
inductive Source where
  | actuator (read : GpuIndex → Except PyError ActuatorReading)
  | prom (gpuByIndex : Dict ℤ GpuSample)

namespace Source

/-- Read one GPU. Prometheus may not have it; a draw it has no value for is none. -/
def read (source : Source) (fallbackCap : ℚ) (idx : GpuIndex) :
    Except PyError (Option GpuReading) :=
  match source with
  | actuator read => (read idx).map fun answer => some
      { powerDrawW := answer.powerDraw, powerCapW := answer.powerCap
        maxCapW := answer.maxCapW.getD fallbackCap }
  | prom gpuByIndex => .ok ((gpuByIndex.get? idx).map fun g =>
      { powerDrawW := g.powerDrawW.getD 0, powerCapW := g.powerLimitW.getD fallbackCap
        maxCapW := g.powerMaxLimitW.getD fallbackCap })

/-- The temperature of a GPU; an actuator is not asked for it. -/
def temperature (source : Source) (idx : GpuIndex) : Option ℤ :=
  match source with
  | actuator _ => none
  | prom gpuByIndex => (gpuByIndex.get? idx).bind GpuSample.temperatureC

end Source

/-- The telemetry of a domain. -/
structure Readings where
  gpuDraws : Dict GpuIndex ℚ := .empty
  gpuCaps : Dict GpuIndex ℚ := .empty
  gpuMaxCaps : Dict GpuIndex ℚ := .empty

def Readings.store (readings : Readings) (idx : GpuIndex) (reading : GpuReading) : Readings where
  gpuDraws := readings.gpuDraws.set idx reading.powerDrawW
  gpuCaps := readings.gpuCaps.set idx reading.powerCapW
  gpuMaxCaps := readings.gpuMaxCaps.set idx reading.maxCapW

/-- Read the GPUs of a domain; one that the telemetry does not have is skipped. -/
def readDomain (read : GpuIndex → Except PyError (Option GpuReading)) (gpuIndices : List GpuIndex)
    (readings : Readings := {}) : Except PyError Readings :=
  gpuIndices.foldlM (fun readings idx => do
    match ← read idx with
    | none => pure readings
    | some reading => pure (readings.store idx reading)) readings

/-- What is collected when every GPU is read. -/
theorem readDomain_ok {read : GpuIndex → Except PyError (Option GpuReading)}
    {reading : GpuIndex → GpuReading} {gpuIndices : List GpuIndex}
    (found : ∀ idx ∈ gpuIndices, read idx = .ok (some (reading idx))) (before : Readings) :
    ∃ readings, readDomain read gpuIndices before = .ok readings ∧
      (∀ gpu, readings.gpuDraws.get? gpu = if gpu ∈ gpuIndices then some (reading gpu).powerDrawW
        else before.gpuDraws.get? gpu) ∧
      (∀ gpu, readings.gpuCaps.get? gpu = if gpu ∈ gpuIndices then some (reading gpu).powerCapW
        else before.gpuCaps.get? gpu) ∧
      ∀ gpu, readings.gpuMaxCaps.get? gpu = if gpu ∈ gpuIndices then some (reading gpu).maxCapW
        else before.gpuMaxCaps.get? gpu := by
  induction gpuIndices generalizing before with
  | nil => exact ⟨before, rfl, fun _ => rfl, fun _ => rfl, fun _ => rfl⟩
  | cons idx rest ih =>
    obtain ⟨readings, collected, draws, caps, maxCaps⟩ :=
      ih (fun other member => found other (List.mem_cons_of_mem idx member))
        (before.store idx (reading idx))
    refine ⟨readings, ?_, fun gpu => ?_, fun gpu => ?_, fun gpu => ?_⟩
    · rw [readDomain, List.foldlM_cons, found idx List.mem_cons_self]
      exact collected
    · rw [draws]
      by_cases here : gpu = idx <;> simp [Readings.store, here]
    · rw [caps]
      by_cases here : gpu = idx <;> simp [Readings.store, here]
    · rw [maxCaps]
      by_cases here : gpu = idx <;> simp [Readings.store, here]

/-- Sources that agree on the GPUs of a domain are read alike. -/
theorem readDomain_congr {read other : GpuIndex → Except PyError (Option GpuReading)}
    {gpuIndices : List GpuIndex} (same : ∀ idx ∈ gpuIndices, read idx = other idx)
    (before : Readings) : readDomain read gpuIndices before = readDomain other gpuIndices before := by
  induction gpuIndices generalizing before with
  | nil => rfl
  | cons idx rest ih =>
    have later := ih fun gpu member => same gpu (List.mem_cons_of_mem idx member)
    unfold readDomain
    rw [List.foldlM_cons, List.foldlM_cons, same idx List.mem_cons_self]
    cases answer : other idx with
    | error exc => rfl
    | ok reading =>
      cases reading with
      | none => exact later before
      | some reading => exact later (before.store idx reading)

/-- A domain is read when each of its GPUs is read or skipped. -/
theorem readDomain_of_isOk {read : GpuIndex → Except PyError (Option GpuReading)}
    {gpuIndices : List GpuIndex} (answers : ∀ idx ∈ gpuIndices, ∃ answer, read idx = .ok answer)
    (before : Readings) : ∃ readings, readDomain read gpuIndices before = .ok readings := by
  induction gpuIndices generalizing before with
  | nil => exact ⟨before, rfl⟩
  | cons idx rest ih =>
    have later := ih fun gpu member => answers gpu (List.mem_cons_of_mem idx member)
    obtain ⟨answer, answered⟩ := answers idx List.mem_cons_self
    rw [readDomain, List.foldlM_cons, answered]
    cases answer with
    | none => exact later before
    | some reading => exact later (before.store idx reading)

/-- A read that fails on one GPU fails. -/
theorem readDomain_isOk {read : GpuIndex → Except PyError (Option GpuReading)}
    {gpuIndices : List GpuIndex} {before readings : Readings}
    (collected : readDomain read gpuIndices before = .ok readings) :
    ∀ idx ∈ gpuIndices, ∃ answer, read idx = .ok answer := by
  induction gpuIndices generalizing before with
  | nil => exact fun idx member => nomatch member
  | cons first rest ih =>
    rw [readDomain, List.foldlM_cons] at collected
    obtain ⟨next, stored, later⟩ := ok_of_bind collected
    obtain ⟨answer, answered, _⟩ := ok_of_bind stored
    intro idx member
    rcases List.mem_cons.mp member with rfl | inside
    · exact ⟨answer, answered⟩
    · exact ih later idx inside

/-! ### What is decided -/

/-- What a tick meets besides its telemetry. `adopted` is the budget the store has for a domain, none
also when the store cannot be read. -/
structure Moment where
  ts : ℚ
  around : Surroundings
  adopted : String → Option ℚ := fun _ => none

/-- A controller, as far as it decides. -/
structure ControlLoop where
  topology : PDNTopology
  managedDomains : List String
  brain : AnyBrain
  storeLinked : Bool := false
  adoptedBudgetMinW : ℚ := 100
  thermalThrottledGpus : List GpuIndex := []
  thermalThrottleTempC : ℚ := 85

namespace ControlLoop

/-- Adopt the budget handed down for a domain; without one, or below the threshold, release it. -/
def adopt (self : ControlLoop) (moment : Moment) (domainName : String) : PDNTopology :=
  if self.storeLinked = true then
    match moment.adopted domainName with
    | some adopted =>
      if self.adoptedBudgetMinW ≤ adopted then self.topology.adoptBudget domainName adopted
      else self.topology.releaseBudget domainName
    | none => self.topology.releaseBudget domainName
  else self.topology

/-- The GPUs that count as throttling: those that are configured so, and those that are too hot. -/
def thermal (self : ControlLoop) (source : Source) (draws : Dict GpuIndex ℚ) :
    Dict GpuIndex Bool :=
  draws.filterMapVals fun idx _ =>
    if idx ∈ self.thermalThrottledGpus then some true
    else
      match source.temperature idx with
      | some temp => if self.thermalThrottleTempC ≤ temp then some true else none
      | none => none

def domainState (self : ControlLoop) (source : Source) (readings : Readings) (moment : Moment)
    (domainName : String) : DomainState where
  domainName := domainName
  gpuDraws := readings.gpuDraws
  gpuCaps := readings.gpuCaps
  gpuMaxCaps := readings.gpuMaxCaps
  ts := moment.ts
  gpuThermalThrottled := self.thermal source readings.gpuDraws

/-- The part of the budget that stands in for a cap or a maximum that is not reported. -/
def fallbackCap (budget : ℚ) (domain : PowerDomain) : ℚ :=
  budget / (max domain.gpuIndices.length 1 : ℕ)

/-- Decide the caps of one domain; an exception leaves the adopted budget behind. -/
def decideDomain (self : ControlLoop) (source : Source) (moment : Moment) (domainName : String) :
    Except PyError BrainDecision × ControlLoop :=
  match self.topology.domain domainName with
  | .error exc => (.error exc, self)
  | .ok domain =>
    let adopted := { self with topology := self.adopt moment domainName }
    match adopted.topology.domainBudgetW domainName with
    | .error exc => (.error exc, adopted)
    | .ok budget =>
      match readDomain (source.read (fallbackCap budget domain)) domain.gpuIndices with
      | .error exc => (.error exc, adopted)
      | .ok readings =>
        match adopted.brain.decide adopted.topology domainName
            (adopted.domainState source readings moment domainName) moment.around with
        | .error exc => (.error exc, adopted)
        | .ok (decision, brain) => (.ok decision, { adopted with brain := brain })

/-- Decide one domain after another; an exception ends the tick. -/
def decideDomains (source : Source) (moment : Moment) :
    List String → ControlLoop → Except PyError (List BrainDecision) × ControlLoop
  | [], self => (.ok [], self)
  | domainName :: rest, self =>
    match self.decideDomain source moment domainName with
    | (.error exc, next) => (.error exc, next)
    | (.ok decision, next) =>
      match decideDomains source moment rest next with
      | (.error exc, last) => (.error exc, last)
      | (.ok decisions, last) => (.ok (decision :: decisions), last)

/-- One tick, from the telemetry to the decisions. -/
def runOnce (self : ControlLoop) (source : Source) (moment : Moment) :
    Except PyError (List BrainDecision) × ControlLoop :=
  decideDomains source moment self.managedDomains self

/-! ### What a tick leaves alone -/

/-- Two states of one controller: the adopted budgets, which only a store changes, and the brain may
differ. -/
structure SameNode (before after : ControlLoop) : Prop where
  domains : after.topology.domains = before.topology.domains
  racks : after.topology.racks = before.topology.racks
  budgets : before.storeLinked = false → after.topology = before.topology
  managed : after.managedDomains = before.managedDomains
  linked : after.storeLinked = before.storeLinked
  threshold : after.adoptedBudgetMinW = before.adoptedBudgetMinW
  throttled : after.thermalThrottledGpus = before.thermalThrottledGpus
  throttleTemp : after.thermalThrottleTempC = before.thermalThrottleTempC
  readsFlags : after.brain.ReadsFlags ↔ before.brain.ReadsFlags

theorem SameNode.refl (self : ControlLoop) : SameNode self self :=
  ⟨rfl, rfl, fun _ => rfl, rfl, rfl, rfl, rfl, rfl, .rfl⟩

variable {self other next : ControlLoop} {source : Source} {moment : Moment} {domainName : String}

theorem SameNode.trans (first : SameNode self other) (second : SameNode other next) :
    SameNode self next where
  domains := second.domains.trans first.domains
  racks := second.racks.trans first.racks
  budgets := fun unlinked =>
    (second.budgets (first.linked.trans unlinked)).trans (first.budgets unlinked)
  managed := second.managed.trans first.managed
  linked := second.linked.trans first.linked
  threshold := second.threshold.trans first.threshold
  throttled := second.throttled.trans first.throttled
  throttleTemp := second.throttleTemp.trans first.throttleTemp
  readsFlags := second.readsFlags.trans first.readsFlags

/-- Adopting changes no more of a topology than its adopted budgets. -/
theorem adopt_leaves (self : ControlLoop) (moment : Moment) (domainName : String) :
    (self.adopt moment domainName).domains = self.topology.domains ∧
      (self.adopt moment domainName).racks = self.topology.racks ∧
      (self.storeLinked = false → self.adopt moment domainName = self.topology) := by
  unfold adopt
  split
  · next linked =>
    have contradiction : self.storeLinked = false → False := fun unlinked => by
      rw [unlinked] at linked
      cases linked
    split
    · split
      · exact ⟨rfl, rfl, fun unlinked => (contradiction unlinked).elim⟩
      · exact ⟨rfl, rfl, fun unlinked => (contradiction unlinked).elim⟩
    · exact ⟨rfl, rfl, fun unlinked => (contradiction unlinked).elim⟩
  · exact ⟨rfl, rfl, fun _ => rfl⟩

theorem sameNode_adopt (self : ControlLoop) (moment : Moment) (domainName : String)
    {brain : AnyBrain} (readsFlags : brain.ReadsFlags ↔ self.brain.ReadsFlags) :
    SameNode self { self with topology := self.adopt moment domainName, brain := brain } := by
  obtain ⟨domains, racks, budgets⟩ := self.adopt_leaves moment domainName
  exact ⟨domains, racks, budgets, rfl, rfl, rfl, rfl, rfl, readsFlags⟩

/-- **What a domain's pass does to the controller**: nothing where the domain is unknown; else it adopts
a budget, and where it goes through it keeps the brain that the call returns. -/
theorem decideDomain_cases (self : ControlLoop) (source : Source) (moment : Moment)
    (domainName : String) : (self.decideDomain source moment domainName).2 = self ∨
      ∃ brain, (self.decideDomain source moment domainName).2 =
          { self with topology := self.adopt moment domainName, brain := brain } ∧
        (brain = self.brain ∨ ∃ state decision, self.brain.decide (self.adopt moment domainName)
          domainName state moment.around = .ok (decision, brain)) := by
  unfold decideDomain
  cases self.topology.domain domainName with
  | error exc => exact .inl rfl
  | ok domain =>
    refine .inr ?_
    dsimp only
    split
    · exact ⟨self.brain, rfl, .inl rfl⟩
    · split
      · exact ⟨self.brain, rfl, .inl rfl⟩
      · split
        · exact ⟨self.brain, rfl, .inl rfl⟩
        · next decided => exact ⟨_, rfl, .inr ⟨_, _, decided⟩⟩

/-- A domain's pass leaves the node as it is. -/
theorem sameNode_decideDomain (self : ControlLoop) (source : Source) (moment : Moment)
    (domainName : String) : SameNode self (self.decideDomain source moment domainName).2 := by
  rcases self.decideDomain_cases source moment domainName with left | ⟨brain, adopted, decided⟩
  · rw [left]
    exact .refl self
  · rw [adopted]
    refine self.sameNode_adopt moment domainName ?_
    rcases decided with rfl | ⟨_, _, call⟩
    · exact .rfl
    · exact AnyBrain.readsFlags_decide call

/-- What every pass keeps, a tick keeps. -/
theorem decideDomains_invariant (inv : ControlLoop → Prop)
    (kept : ∀ state domainName, inv state → inv (state.decideDomain source moment domainName).2)
    (domainNames : List String) {self : ControlLoop} (before : inv self) :
    inv (decideDomains source moment domainNames self).2 := by
  induction domainNames generalizing self with
  | nil => exact before
  | cons domainName rest ih =>
    have first := kept self domainName before
    unfold decideDomains
    cases decided : self.decideDomain source moment domainName with
    | mk outcome next =>
      rw [decided] at first
      cases outcome with
      | error exc => exact first
      | ok decision =>
        have later := ih first
        dsimp only
        cases others : decideDomains source moment rest next with
        | mk outcome last =>
          rw [others] at later
          cases outcome <;> exact later

theorem sameNode_decideDomains (source : Source) (moment : Moment) (domainNames : List String)
    (self : ControlLoop) : SameNode self (decideDomains source moment domainNames self).2 :=
  decideDomains_invariant (SameNode self)
    (fun state domainName same => same.trans (state.sameNode_decideDomain source moment domainName))
    domainNames (.refl self)

theorem sameNode_runOnce (self : ControlLoop) (source : Source) (moment : Moment) :
    SameNode self (self.runOnce source moment).2 :=
  sameNode_decideDomains source moment self.managedDomains self

/-! ### The budget of a pass -/

/-- The budget of a domain once the budget handed down at a moment is adopted. -/
def budgetAt (self : ControlLoop) (moment : Moment) (domainName : String) : Except PyError ℚ :=
  (self.adopt moment domainName).domainBudgetW domainName

/-- A domain that exists has a budget. -/
theorem budgetAt_isOk {domain : PowerDomain} (present : self.topology.domain domainName = .ok domain)
    (moment : Moment) : ∃ budget, self.budgetAt moment domainName = .ok budget := by
  have adopted : (self.adopt moment domainName).domain domainName = .ok domain := by
    rw [PDNTopology.domain, (self.adopt_leaves moment domainName).1]
    exact present
  exact PDNTopology.domainBudgetW_isOk adopted

/-- A node's budget depends on the moment only, not on what happened before. -/
theorem SameNode.budgetAt_eq (same : SameNode self other) (moment : Moment) (domainName : String) :
    other.budgetAt moment domainName = self.budgetAt moment domainName := by
  have before := self.adopt_leaves moment domainName
  have after := other.adopt_leaves moment domainName
  refine PDNTopology.domainBudgetW_congr (after.1.trans (same.domains.trans before.1.symm))
    (after.2.1.trans (same.racks.trans before.2.1.symm)) ?_
  simp only [adopt, same.linked, same.threshold]
  split
  · split
    · split <;> simp [PDNTopology.adoptBudget, PDNTopology.releaseBudget]
    · simp [PDNTopology.releaseBudget]
  · next unlinked => rw [same.budgets (Bool.eq_false_of_not_eq_true unlinked)]

/-- A tick goes through when every pass does, and returns what the passes return. -/
theorem decideDomains_ok (inv : ControlLoop → Prop) {given : String → BrainDecision → Prop}
    {domainNames : List String}
    (pass : ∀ state, inv state → ∀ domainName ∈ domainNames, ∃ decision next,
      state.decideDomain source moment domainName = (.ok decision, next) ∧
        given domainName decision ∧ inv next) {self : ControlLoop} (before : inv self) :
    ∃ decisions last, decideDomains source moment domainNames self = (.ok decisions, last) ∧
      List.Forall₂ given domainNames decisions := by
  induction domainNames generalizing self with
  | nil => exact ⟨[], self, rfl, .nil⟩
  | cons domainName rest ih =>
    obtain ⟨decision, next, decided, holds, after⟩ := pass self before domainName List.mem_cons_self
    obtain ⟨decisions, last, others, hold⟩ := ih (fun state invariant other member =>
      pass state invariant other (List.mem_cons_of_mem domainName member)) after
    refine ⟨decision :: decisions, last, ?_, .cons holds hold⟩
    simp only [decideDomains, decided, others]

/-- A tick that goes through went through every domain. -/
theorem decideDomain_of_decideDomains {domainNames : List String} {decisions : List BrainDecision}
    {self last : ControlLoop}
    (through : decideDomains source moment domainNames self = (.ok decisions, last)) :
    ∀ domainName ∈ domainNames, ∃ state decision next, SameNode self state ∧
      state.decideDomain source moment domainName = (.ok decision, next) := by
  induction domainNames generalizing self decisions last with
  | nil => exact fun _ member => nomatch member
  | cons first rest ih =>
    unfold decideDomains at through
    cases decided : self.decideDomain source moment first with
    | mk outcome next =>
      rw [decided] at through
      cases outcome with
      | error exc => cases through
      | ok decision =>
        dsimp only at through
        intro domainName member
        rcases List.mem_cons.mp member with rfl | inside
        · exact ⟨self, decision, next, .refl self, decided⟩
        · have same := self.sameNode_decideDomain source moment first
          rw [decided] at same
          cases others : decideDomains source moment rest next with
          | mk outcome final =>
            rw [others] at through
            cases outcome with
            | error exc => cases through
            | ok decisions =>
              obtain ⟨state, answer, after, later, passed⟩ := ih others domainName inside
              exact ⟨state, answer, after, same.trans later, passed⟩

/-- A pass that goes through has its domain, and has read each of its GPUs. -/
theorem read_of_decideDomain {decision : BrainDecision}
    (through : self.decideDomain source moment domainName = (.ok decision, next)) :
    ∃ domain budget, self.topology.domain domainName = .ok domain ∧
      self.budgetAt moment domainName = .ok budget ∧ ∀ idx ∈ domain.gpuIndices,
        ∃ found, source.read (fallbackCap budget domain) idx = .ok found := by
  unfold decideDomain at through
  cases present : self.topology.domain domainName with
  | error exc =>
    rw [present] at through
    cases through
  | ok domain =>
    rw [present] at through
    dsimp only at through
    split at through
    · cases through
    · next budget answer =>
      split at through
      · cases through
      · next readings collected =>
        exact ⟨domain, budget, rfl, answer, readDomain_isOk collected⟩

/-- A tick that returns has read every GPU of every managed domain. -/
theorem reads_of_runOnce {loop : ControlLoop} (same : SameNode loop self)
    {decisions : List BrainDecision} (through : (self.runOnce source moment).1 = .ok decisions) :
    ∀ domainName ∈ loop.managedDomains, ∃ domain budget,
      loop.topology.domain domainName = .ok domain ∧ loop.budgetAt moment domainName = .ok budget ∧
      ∀ idx ∈ domain.gpuIndices, ∃ found, source.read (fallbackCap budget domain) idx = .ok found := by
  intro domainName member
  have whole : decideDomains source moment self.managedDomains self =
      (.ok decisions, (self.runOnce source moment).2) := by
    rw [← through]
    rfl
  rw [same.managed] at whole
  obtain ⟨state, decision, next, later, passed⟩ :=
    decideDomain_of_decideDomains whole domainName member
  have node := same.trans later
  obtain ⟨domain, budget, present, answer, reads⟩ := read_of_decideDomain passed
  rw [PDNTopology.domain, node.domains] at present
  rw [node.budgetAt_eq] at answer
  exact ⟨domain, budget, present, answer, reads⟩

/-- Sources that a controller cannot tell apart at a domain lead to one pass. -/
theorem decideDomain_congr {twin : Source}
    (reads : ∀ domain budget, self.topology.domain domainName = .ok domain →
      self.budgetAt moment domainName = .ok budget → ∀ idx ∈ domain.gpuIndices,
        source.read (fallbackCap budget domain) idx = twin.read (fallbackCap budget domain) idx)
    (flags : self.brain.ReadsFlags → ∀ draws, self.thermal source draws = self.thermal twin draws) :
    self.decideDomain source moment domainName = self.decideDomain twin moment domainName := by
  unfold decideDomain
  cases present : self.topology.domain domainName with
  | error exc => rfl
  | ok domain =>
    dsimp only
    cases answer : (self.adopt moment domainName).domainBudgetW domainName with
    | error exc => rfl
    | ok budget =>
      dsimp only
      rw [readDomain_congr (reads domain budget present answer)]
      cases readDomain (twin.read (fallbackCap budget domain)) domain.gpuIndices with
      | error exc => rfl
      | ok readings =>
        have decides : self.brain.decide (self.adopt moment domainName) domainName
            ({ self with topology := self.adopt moment domainName }.domainState source readings moment
              domainName) moment.around =
            self.brain.decide (self.adopt moment domainName) domainName
              ({ self with topology := self.adopt moment domainName }.domainState twin readings moment
                domainName) moment.around := by
          by_cases sees : self.brain.ReadsFlags
          · have same := flags sees readings.gpuDraws
            exact congrArg (fun given => self.brain.decide (self.adopt moment domainName) domainName
              { self.domainState twin readings moment domainName with gpuThermalThrottled := given }
              moment.around) same
          · exact AnyBrain.decide_flags sees _ _ (self.domainState twin readings moment domainName) _
              (self.thermal source readings.gpuDraws)
        dsimp only
        rw [decides]

/-- Passes that coincide on the node make ticks that coincide. -/
theorem decideDomains_congr {twin : Source} {domainNames : List String} (loop : ControlLoop)
    (pass : ∀ state, SameNode loop state → ∀ domainName ∈ domainNames,
      state.decideDomain source moment domainName = state.decideDomain twin moment domainName)
    {self : ControlLoop} (same : SameNode loop self) :
    decideDomains source moment domainNames self = decideDomains twin moment domainNames self := by
  induction domainNames generalizing self with
  | nil => rfl
  | cons domainName rest ih =>
    unfold decideDomains
    rw [pass self same domainName List.mem_cons_self]
    have after := same.trans (self.sameNode_decideDomain twin moment domainName)
    cases decided : self.decideDomain twin moment domainName with
    | mk outcome next =>
      rw [decided] at after
      cases outcome with
      | error exc => rfl
      | ok decision =>
        dsimp only
        rw [ih (fun state holds other member =>
          pass state holds other (List.mem_cons_of_mem domainName member)) after]

/-- **What a pass decides**, when the domain exists and every GPU is read. -/
theorem decideDomain_eq {domain : PowerDomain} {budget : ℚ} {readings : Readings}
    (present : self.topology.domain domainName = .ok domain)
    (answer : self.budgetAt moment domainName = .ok budget)
    (collected : readDomain (source.read (fallbackCap budget domain)) domain.gpuIndices =
      .ok readings) :
    self.decideDomain source moment domainName =
      match self.brain.decide (self.adopt moment domainName) domainName
          (self.domainState source readings moment domainName) moment.around with
      | .error exc => (.error exc, { self with topology := self.adopt moment domainName })
      | .ok (decision, brain) =>
        (.ok decision, { self with topology := self.adopt moment domainName, brain := brain }) := by
  rw [budgetAt] at answer
  simp only [decideDomain, present, answer, collected]
  rfl

end ControlLoop

end Opendps.Controller
