/-
**One fleet, read from the actuator and read from Prometheus.**

Both runs meet the same fleet: its draws, the caps in force and its hardware maxima. The actuator offers
all three (`HostFleet.actuatorTick`). Prometheus is asked for draws and caps, and the sample it is made
into has no maximum, so a tick fills in an equal part of the budget (`HostFleet.promTick`).

The two runs return the same caps for every brain exactly when that equal part is every hardware maximum
at every tick (`telemetry_paths_agree_iff`). One way the two ticks are one (`promTick_eq_actuatorTick`);
the other way a PRS brain with parameters that make one GPU idle and its floor high returns the maximum
it was given.
-/

import Opendps.Brain.PrsDemand
import Opendps.Controller.ControlTick

namespace Opendps.Controller

open Opendps.Lib Opendps.Pdn Opendps.Brain Opendps.Telemetry

/-! ### The fleet and its two runs -/

/-- The GPUs of one host and their hardware maxima. -/
structure HostFleet where
  hostname : String
  modelName : String
  gpus : List GpuIndex
  nodup : gpus.Nodup
  maxCapW : GpuIndex → ℚ

/-- What the GPUs show at one tick, and what else the tick meets. -/
structure FleetTick where
  moment : Moment
  powerDraw : GpuIndex → ℚ
  powerCap : GpuIndex → ℚ
  smClock : GpuIndex → Option ℚ := fun _ => none
  gpuUtil : GpuIndex → Option ℚ := fun _ => none
  gpuTemp : GpuIndex → Option ℚ := fun _ => none

/-- The draw and the cap of a GPU, with a maximum. -/
def FleetTick.reading (tick : FleetTick) (idx : GpuIndex) (maxCapW : ℚ) : GpuReading where
  powerDrawW := tick.powerDraw idx
  powerCapW := tick.powerCap idx
  maxCapW := maxCapW

namespace HostFleet

/-- An actuator that offers `get_power_draw`, `get_power_cap` and `get_max_cap_w`. -/
def actuatorRead (fleet : HostFleet) (tick : FleetTick) (idx : GpuIndex) :
    Except PyError ActuatorReading :=
  if idx ∈ fleet.gpus then
    .ok { powerDraw := tick.powerDraw idx, powerCap := tick.powerCap idx
          maxCapW := some (fleet.maxCapW idx) }
  else .error (.keyError (toString idx))

/-- What an exporter reports for the fleet. -/
def report (fleet : HostFleet) (tick : FleetTick) : HostReport where
  hostname := fleet.hostname
  modelName := fleet.modelName
  gpus := fleet.gpus
  nodup := fleet.nodup
  powerDraw := tick.powerDraw
  powerCap := tick.powerCap
  smClock := tick.smClock
  gpuUtil := tick.gpuUtil
  gpuTemp := tick.gpuTemp

/-- One tick that reads the actuator. -/
def actuatorTick (fleet : HostFleet) (loop : ControlLoop) (tick : FleetTick) :
    Except PyError (List BrainDecision) × ControlLoop :=
  loop.runOnce (.actuator (fleet.actuatorRead tick)) tick.moment

/-- One tick that reads Prometheus; its time is that of the sample. -/
def promTick (fleet : HostFleet) (loop : ControlLoop) (tick : FleetTick) :
    Except PyError (List BrainDecision) × ControlLoop :=
  match nodeSampleFromProm (fleet.report tick).answers tick.moment.ts with
  | .error exc => (.error exc, loop)
  | .ok node => loop.runOnce (.prom node.byIndex) { tick.moment with ts := node.ts }

/-- The controller after some ticks of a run. -/
def actuatorRun (fleet : HostFleet) (loop : ControlLoop) (ticks : List FleetTick) : ControlLoop :=
  run (fun state tick => (fleet.actuatorTick state tick).2) loop ticks

def promRun (fleet : HostFleet) (loop : ControlLoop) (ticks : List FleetTick) : ControlLoop :=
  run (fun state tick => (fleet.promTick state tick).2) loop ticks

/-- The caps a tick returns, domain by domain; none when it raises. -/
def returned (outcome : Except PyError (List BrainDecision)) :
    Option (List (GpuIndex → Option ℚ)) :=
  outcome.toOption.map fun decisions => decisions.map fun decision => decision.caps.get?

/-- The two runs return the same caps at every tick. -/
def Agree (fleet : HostFleet) (loop : ControlLoop) (ticks : List FleetTick) : Prop :=
  ∀ past tick rest, ticks = past ++ tick :: rest →
    returned (fleet.actuatorTick (fleet.actuatorRun loop past) tick).1 =
      returned (fleet.promTick (fleet.promRun loop past) tick).1

/-- No reported temperature reaches the threshold. -/
def Cool (fleet : HostFleet) (loop : ControlLoop) (ticks : List FleetTick) : Prop :=
  ∀ tick ∈ ticks, ∀ gpu ∈ fleet.gpus, ∀ temp, tick.gpuTemp gpu = some temp →
    (truncate temp : ℚ) < loop.thermalThrottleTempC

/-- Where every managed domain exists: its GPUs are those of the fleet, and at every tick an equal part
of its budget is the hardware maximum of each. -/
def MaximaAreFallback (fleet : HostFleet) (loop : ControlLoop) (ticks : List FleetTick) : Prop :=
  (∀ domainName ∈ loop.managedDomains, ∃ domain, loop.topology.domain domainName = .ok domain) →
    ∀ tick ∈ ticks, ∀ domainName ∈ loop.managedDomains, ∀ domain budget,
      loop.topology.domain domainName = .ok domain →
      loop.budgetAt tick.moment domainName = .ok budget →
      ∀ gpu ∈ domain.gpuIndices, gpu ∈ fleet.gpus ∧
        ControlLoop.fallbackCap budget domain = fleet.maxCapW gpu

/-! ### What the two sources have -/

variable {fleet : HostFleet} {loop state : ControlLoop} {tick : FleetTick} {ticks : List FleetTick}
  {domainName : String} {params : PRSParams}

theorem read_actuator (fleet : HostFleet) (tick : FleetTick) (fallback : ℚ) (idx : GpuIndex) :
    (Source.actuator (fleet.actuatorRead tick)).read fallback idx =
      if idx ∈ fleet.gpus then .ok (some (tick.reading idx (fleet.maxCapW idx)))
      else .error (.keyError (toString idx)) := by
  by_cases listed : idx ∈ fleet.gpus <;> simp only [Source.read, actuatorRead, listed] <;> rfl

/-- What Prometheus has of the fleet: no maximum, and no GPU but those of the fleet. -/
structure FromProm (fleet : HostFleet) (tick : FleetTick) (source : Source) : Prop where
  read : ∀ fallback idx, source.read fallback idx =
    .ok (if idx ∈ fleet.gpus then some (tick.reading idx fallback) else none)
  temperature : ∀ idx, source.temperature idx =
    if idx ∈ fleet.gpus then (tick.gpuTemp idx).map truncate else none

theorem exists_promSource (fleet : HostFleet) (tick : FleetTick) :
    ∃ source, FromProm fleet tick source ∧
      ∀ loop, fleet.promTick loop tick = loop.runOnce source tick.moment := by
  obtain ⟨node, modelName, sampled, stamped, byIndex⟩ :=
    (fleet.report tick).nodeSample_fleet tick.moment.ts
  have listed : (fleet.report tick).gpus = fleet.gpus := rfl
  rw [listed] at byIndex
  refine ⟨.prom node.byIndex, ⟨fun fallback idx => ?_, fun idx => ?_⟩, fun loop => ?_⟩
  · by_cases member : idx ∈ fleet.gpus <;> simp only [Source.read, byIndex, member] <;> rfl
  · by_cases member : idx ∈ fleet.gpus <;> simp only [Source.temperature, byIndex, member] <;> rfl
  · simp only [promTick, sampled, stamped]

/-- Every pass over what Prometheus has is read. -/
theorem FromProm.readDomain_ok {source : Source} (fromProm : FromProm fleet tick source)
    (fallback : ℚ) (gpuIndices : List GpuIndex) :
    ∃ readings, readDomain (source.read fallback) gpuIndices {} = .ok readings :=
  readDomain_of_isOk (fun idx _ => ⟨_, fromProm.read fallback idx⟩) {}

/-- What every tick keeps, whatever it reads, both runs keep. -/
theorem runs_invariant (inv : ControlLoop → Prop)
    (kept : ∀ source moment now, inv now → inv (now.runOnce source moment).2) (start : inv loop)
    (fleet : HostFleet) (ticks : List FleetTick) :
    inv (fleet.actuatorRun loop ticks) ∧ inv (fleet.promRun loop ticks) := by
  constructor
  · exact run_invariant (fun _ now => inv now) start (fun _ tick now => kept _ tick.moment now) ticks
  · refine run_invariant (fun _ now => inv now) start (fun _ tick now holds => ?_) ticks
    obtain ⟨source, _, ran⟩ := exists_promSource fleet tick
    rw [ran]
    exact kept source tick.moment now holds

/-- Both runs leave the node as it is. -/
theorem sameNode_runs (fleet : HostFleet) (loop : ControlLoop) (ticks : List FleetTick) :
    ControlLoop.SameNode loop (fleet.actuatorRun loop ticks) ∧
      ControlLoop.SameNode loop (fleet.promRun loop ticks) :=
  runs_invariant (ControlLoop.SameNode loop)
    (fun source moment now same => same.trans (now.sameNode_runOnce source moment)) (.refl loop)
    fleet ticks

/-! ### The same caps -/

/-- **The two ticks are one** when the equal parts are the maxima. -/
theorem promTick_eq_actuatorTick (same : ControlLoop.SameNode loop state)
    (maxima : ∀ domainName ∈ loop.managedDomains, ∀ domain budget,
      loop.topology.domain domainName = .ok domain →
      loop.budgetAt tick.moment domainName = .ok budget →
      ∀ gpu ∈ domain.gpuIndices, gpu ∈ fleet.gpus ∧
        ControlLoop.fallbackCap budget domain = fleet.maxCapW gpu)
    (cool : loop.brain.ReadsFlags → ∀ gpu ∈ fleet.gpus, ∀ temp, tick.gpuTemp gpu = some temp →
      (truncate temp : ℚ) < loop.thermalThrottleTempC) :
    fleet.actuatorTick state tick = fleet.promTick state tick := by
  obtain ⟨source, fromProm, ran⟩ := exists_promSource fleet tick
  rw [ran, actuatorTick, ControlLoop.runOnce, ControlLoop.runOnce, same.managed]
  refine ControlLoop.decideDomains_congr loop (fun now holds domainName member => ?_) same
  refine ControlLoop.decideDomain_congr (fun domain budget present answer idx inside => ?_)
    fun sees draws => ?_
  · rw [PDNTopology.domain, holds.domains] at present
    rw [holds.budgetAt_eq] at answer
    obtain ⟨listed, maximum⟩ := maxima domainName member domain budget present answer idx inside
    rw [read_actuator, fromProm.read, if_pos listed, if_pos listed, maximum]
  · have cold : ∀ idx temp, source.temperature idx = some temp →
        ¬ now.thermalThrottleTempC ≤ temp := by
      intro idx temp measured
      rw [fromProm.temperature] at measured
      split at measured
      · next listed =>
        obtain ⟨reported, shown, rfl⟩ := Option.map_eq_some_iff.mp measured
        rw [holds.throttleTemp]
        exact not_le.mpr (cool (holds.readsFlags.mp sees) idx listed reported shown)
      · cases measured
    unfold ControlLoop.thermal
    congr 1
    funext idx draw
    split
    · rfl
    · cases measured : source.temperature idx with
      | none => rfl
      | some temp =>
        dsimp only
        rw [if_neg (cold idx temp measured)]
        rfl

/-- The maxima make the two runs one. -/
theorem runs_eq (present : ∀ domainName ∈ loop.managedDomains, ∃ domain,
      loop.topology.domain domainName = .ok domain)
    (maxima : MaximaAreFallback fleet loop ticks)
    (cool : loop.brain.ReadsFlags → Cool fleet loop ticks) :
    fleet.actuatorRun loop ticks = fleet.promRun loop ticks := by
  refine run_congr (ControlLoop.SameNode.refl loop)
    (fun state tick same => same.trans (state.sameNode_runOnce _ tick.moment))
    fun state same tick member => ?_
  rw [promTick_eq_actuatorTick same (maxima present tick member) fun sees => cool sees tick member]

theorem returned_eq_some {outcome : Except PyError (List BrainDecision)}
    {caps : List (GpuIndex → Option ℚ)} (returns : returned outcome = some caps) :
    ∃ decisions, outcome = .ok decisions ∧
      decisions.map (fun decision => decision.caps.get?) = caps := by
  obtain ⟨decisions, through, rfl⟩ := Option.map_eq_some_iff.mp returns
  exact ⟨decisions, ok_of_toOption through, rfl⟩

/-- Without one of its managed domains a controller returns no caps, whatever it reads. -/
theorem returned_of_absent {source : Source} {moment : Moment}
    (same : ControlLoop.SameNode loop state) (absent : ¬ ∀ domainName ∈ loop.managedDomains,
      ∃ domain, loop.topology.domain domainName = .ok domain) :
    returned (state.runOnce source moment).1 = none := by
  refine Option.eq_none_iff_forall_ne_some.mpr fun caps returns => absent fun domainName member => ?_
  obtain ⟨decisions, through, _⟩ := returned_eq_some returns
  obtain ⟨domain, _, present, _⟩ := ControlLoop.reads_of_runOnce same through domainName member
  exact ⟨domain, present⟩

/-- The equal parts being the maxima, the two runs agree. -/
theorem agree_of_maxima (maxima : MaximaAreFallback fleet loop ticks)
    (cool : loop.brain.ReadsFlags → Cool fleet loop ticks) : Agree fleet loop ticks := by
  intro past tick rest split
  have member : tick ∈ ticks := by
    rw [split]
    exact List.mem_append_right past List.mem_cons_self
  have earlier : ∀ other ∈ past, other ∈ ticks := by
    rw [split]
    exact fun other inside => List.mem_append_left _ inside
  obtain ⟨actuator, prom⟩ := sameNode_runs fleet loop past
  by_cases present : ∀ domainName ∈ loop.managedDomains,
      ∃ domain, loop.topology.domain domainName = .ok domain
  · rw [← runs_eq present (fun _ other inside => maxima present other (earlier other inside))
      fun sees other inside => cool sees other (earlier other inside),
      promTick_eq_actuatorTick actuator (maxima present tick member) fun sees => cool sees tick member]
  · obtain ⟨source, _, ran⟩ := exists_promSource fleet tick
    rw [ran, actuatorTick, returned_of_absent actuator present, returned_of_absent prom present]

/-! ### A brain that answers with the maximum it was given -/

/-- Parameters under which a GPU with this draw and cap is idle, and its floor is high. -/
structure Probes (params : PRSParams) (draw cap floor : ℚ) : Prop where
  minCapW : params.minCapW = floor
  ewmaAlpha : params.ewmaAlpha = 1
  reclaimThreshold : draw / cap < params.reclaimThreshold
  capRaiseRateWPerTick : params.capRaiseRateWPerTick = 0

theorem exists_probes (draw cap floor : ℚ) : ∃ params, Probes params draw cap floor :=
  ⟨⟨floor, 1, draw / cap + 1, 0, 0, zero_lt_one, le_rfl, le_rfl⟩, rfl, rfl, lt_add_one _, rfl⟩

/-- Such a GPU is capped at its hardware maximum. -/
theorem get?_caps_probe {brain : PRSBrain} {given : DomainState} {gpu : GpuIndex}
    {draw cap floor maximum : ℚ} (probes : Probes brain.params draw cap floor) (budget : ℚ)
    (domainName : String) (draws : given.gpuDraws.get? gpu = some draw)
    (caps : given.gpuCaps.get? gpu = some cap) (maxCaps : given.gpuMaxCaps.get? gpu = some maximum)
    (high : maximum ≤ floor) :
    (brain.tick budget domainName given).caps.get? gpu = some maximum := by
  have params : (brain.tick budget domainName given).params = brain.params := rfl
  have smoothed : (brain.tick budget domainName given).smoothed gpu = draw := by
    have stored : (brain.tick budget domainName given).ewma.get? gpu = some draw := by
      rw [PRSBrain.tick, get?_updateEwma, draws, probes.ewmaAlpha, Option.map_some, blend]
      simp
    rw [Tick.smoothed, Dict.getD_of_some stored]
  have idle : (brain.tick budget domainName given).isHot gpu = false := by
    have capped : (brain.tick budget domainName given).state.gpuCaps.get? gpu = some cap := caps
    rw [Tick.isHot, Dict.getD_of_some capped, smoothed, params]
    exact decide_eq_false fun hot => absurd hot.2 (not_le.mpr probes.reclaimThreshold)
  have hwMax : (brain.tick budget domainName given).hwMax gpu = maximum := by
    have known : (brain.tick budget domainName given).state.gpuMaxCaps.get? gpu = some maximum :=
      maxCaps
    rw [Tick.hwMax, Dict.getD_of_some known]
  rw [Tick.get?_caps_of_unlimited probes.capRaiseRateWPerTick (Dict.mem_keys_iff.mpr ⟨draw, draws⟩),
    Tick.target, idle, if_neg Bool.false_ne_true, Tick.idleFloor, hwMax, params, probes.minCapW]
  exact congrArg some (min_eq_right (high.trans (le_max_left _ _)))

/-- A controller with a PRS brain of the given parameters. -/
structure Probing (loop : ControlLoop) (params : PRSParams) (state : ControlLoop) : Prop where
  same : ControlLoop.SameNode loop state
  isPrs : ∃ brain, state.brain = .prs brain ∧ brain.params = params

/-- Every pass keeps the parameters. -/
theorem Probing.decideDomain (probing : Probing loop params state) (source : Source)
    (moment : Moment) (domainName : String) :
    Probing loop params (state.decideDomain source moment domainName).2 := by
  refine ⟨probing.same.trans (state.sameNode_decideDomain source moment domainName), ?_⟩
  obtain ⟨brain, isPrs, kept⟩ := probing.isPrs
  rcases state.decideDomain_cases source moment domainName with left | ⟨next, adopted, decided⟩
  · rw [left]
    exact ⟨brain, isPrs, kept⟩
  · rw [adopted]
    rcases decided with same | ⟨given, decision, call⟩
    · exact ⟨brain, same.trans isPrs, kept⟩
    · rw [isPrs] at call
      obtain ⟨⟨_, after⟩, returned, stored⟩ := ok_of_bind call
      obtain ⟨budget, answer⟩ := PRSBrain.budget_of_decide returned
      exact ⟨after, (congrArg Prod.snd (Except.ok.inj stored)).symm,
        (PRSBrain.decide_ok answer returned).2.1.trans kept⟩

/-- Both runs keep the parameters. -/
theorem Probing.runs (probing : Probing loop params state) (fleet : HostFleet)
    (ticks : List FleetTick) : Probing loop params (fleet.actuatorRun state ticks) ∧
      Probing loop params (fleet.promRun state ticks) :=
  runs_invariant (Probing loop params)
    (fun source moment _ holds => ControlLoop.decideDomains_invariant (Probing loop params)
      (fun _ domainName before => before.decideDomain source moment domainName) _ holds)
    probing fleet ticks

/-- The telemetry a pass decides on. -/
structure Given (readings : Readings) (given : DomainState) : Prop where
  draws : given.gpuDraws = readings.gpuDraws
  caps : given.gpuCaps = readings.gpuCaps
  maxCaps : given.gpuMaxCaps = readings.gpuMaxCaps

/-- A pass over a domain that is read returns the caps of a PRS tick. -/
theorem Probing.pass (probing : Probing loop params state) {source : Source} {moment : Moment}
    {domain : PowerDomain} {budget : ℚ} {readings : Readings}
    (present : loop.topology.domain domainName = .ok domain)
    (answer : loop.budgetAt moment domainName = .ok budget)
    (collected : readDomain (source.read (ControlLoop.fallbackCap budget domain)) domain.gpuIndices =
      .ok readings) :
    ∃ decision, ∃ brain : PRSBrain, ∃ given,
      (state.decideDomain source moment domainName).1 = .ok decision ∧ brain.params = params ∧
      Given readings given ∧ decision.caps = (brain.tick budget domainName given).caps := by
  obtain ⟨brain, isPrs, kept⟩ := probing.isPrs
  rw [PDNTopology.domain, ← probing.same.domains] at present
  rw [← probing.same.budgetAt_eq] at answer
  have decided := ControlLoop.decideDomain_eq present answer collected
  obtain ⟨decision, after, call⟩ := brain.decide_isOk
    (state.domainState source readings moment domainName) answer
  refine ⟨decision, brain, state.domainState source readings moment domainName, ?_, kept,
    ⟨rfl, rfl, rfl⟩, (PRSBrain.decide_ok answer call).1⟩
  rw [decided, isPrs, AnyBrain.decide, call]
  rfl

/-- A tick goes through when every pass does. -/
theorem Probing.runOnce_ok (probing : Probing loop params state) (source : Source) (moment : Moment)
    (returns : String → BrainDecision → Prop)
    (pass : ∀ now, Probing loop params now → ∀ domainName ∈ loop.managedDomains,
      ∃ decision, (now.decideDomain source moment domainName).1 = .ok decision ∧
        returns domainName decision) :
    ∃ decisions, (state.runOnce source moment).1 = .ok decisions ∧
      List.Forall₂ returns loop.managedDomains decisions := by
  obtain ⟨decisions, last, through, hold⟩ := ControlLoop.decideDomains_ok (Probing loop params)
    (fun now holds domainName member => by
      obtain ⟨decision, passed, given⟩ := pass now holds domainName member
      exact ⟨decision, _, Prod.ext passed rfl, given, holds.decideDomain source moment domainName⟩)
    probing
  refine ⟨decisions, ?_, hold⟩
  rw [ControlLoop.runOnce, probing.same.managed, through]

/-- A source that has every GPU of the fleet, with this maximum. -/
def Shows (fleet : HostFleet) (tick : FleetTick) (maxCap : ℚ → GpuIndex → ℚ) (source : Source) :
    Prop :=
  ∀ fallback, ∀ idx ∈ fleet.gpus,
    source.read fallback idx = .ok (some (tick.reading idx (maxCap fallback idx)))

/-- The cap a pass returns for one GPU is the maximum the source gives. -/
def ReturnsMaximum (loop : ControlLoop) (tick : FleetTick) (maxCap : ℚ → GpuIndex → ℚ) (floor : ℚ)
    (gpu : GpuIndex) (domainName : String) (decision : BrainDecision) : Prop :=
  ∀ domain budget, loop.topology.domain domainName = .ok domain →
    loop.budgetAt tick.moment domainName = .ok budget → gpu ∈ domain.gpuIndices →
    maxCap (ControlLoop.fallbackCap budget domain) gpu ≤ floor →
    decision.caps.get? gpu = some (maxCap (ControlLoop.fallbackCap budget domain) gpu)

/-- A probing tick returns the maxima the source gives. -/
theorem Probing.returnsMaximum {floor : ℚ} {gpu : GpuIndex} {maxCap : ℚ → GpuIndex → ℚ}
    {source : Source} (probing : Probing loop params state)
    (probes : Probes params (tick.powerDraw gpu) (tick.powerCap gpu) floor)
    (shows : Shows fleet tick maxCap source)
    (present : ∀ domainName ∈ loop.managedDomains, ∃ domain,
      loop.topology.domain domainName = .ok domain ∧ ∀ idx ∈ domain.gpuIndices, idx ∈ fleet.gpus) :
    ∃ decisions, (state.runOnce source tick.moment).1 = .ok decisions ∧
      List.Forall₂ (ReturnsMaximum loop tick maxCap floor gpu) loop.managedDomains decisions := by
  refine probing.runOnce_ok source tick.moment _ fun now holds domainName member => ?_
  obtain ⟨domain, found, inFleet⟩ := present domainName member
  obtain ⟨budget, answer⟩ := ControlLoop.budgetAt_isOk found tick.moment
  obtain ⟨readings, collected, draws, caps, maxCaps⟩ := readDomain_ok
    (fun idx inside => shows (ControlLoop.fallbackCap budget domain) idx (inFleet idx inside)) {}
  obtain ⟨decision, brain, given, passed, rfl, telemetry, decides⟩ :=
    holds.pass found answer collected
  refine ⟨decision, passed, fun other watts same priced inside high => ?_⟩
  cases found.symm.trans same
  cases answer.symm.trans priced
  rw [decides]
  refine get?_caps_probe probes budget domainName ?_ ?_ ?_ high
  · rw [telemetry.draws, draws, if_pos inside]
    rfl
  · rw [telemetry.caps, caps, if_pos inside]
    rfl
  · rw [telemetry.maxCaps, maxCaps, if_pos inside]
    rfl

/-! ### When the two runs agree -/

/-- Two lists given along one list of names and equal under a view are equal there at every name. -/
theorem exists_of_forall₂ {α β γ : Type} {first second : α → β → Prop} {view : β → γ}
    {names : List α} {left right : List β} (given : List.Forall₂ first names left)
    (also : List.Forall₂ second names right) (same : left.map view = right.map view) {name : α}
    (member : name ∈ names) :
    ∃ one other, first name one ∧ second name other ∧ view one = view other := by
  induction given generalizing right with
  | nil => cases member
  | cons holds _ ih =>
    cases also with
    | cons also rest =>
      obtain ⟨head, tail⟩ := List.cons.inj same
      rcases List.mem_cons.mp member with rfl | inside
      · exact ⟨_, _, holds, also, head⟩
      · exact ih rest tail inside

theorem probing_loop (loop : ControlLoop) (params : PRSParams) :
    Probing { loop with brain := .prs { params := params } } params
      { loop with brain := .prs { params := params } } :=
  ⟨.refl _, _, rfl, rfl⟩

/-- Where a PRS brain agrees, the domains of a tick have no GPUs but those of the fleet. -/
theorem listed_of_agree {past rest : List FleetTick} (split : ticks = past ++ tick :: rest)
    (agree : Agree fleet { loop with brain := .prs { params := params } } ticks)
    (present : ∀ domainName ∈ loop.managedDomains, ∃ domain,
      loop.topology.domain domainName = .ok domain) :
    ∀ domainName ∈ loop.managedDomains, ∃ domain, loop.topology.domain domainName = .ok domain ∧
      ∀ idx ∈ domain.gpuIndices, idx ∈ fleet.gpus := by
  obtain ⟨actuator, prom⟩ := (probing_loop loop params).runs fleet past
  obtain ⟨source, fromProm, ran⟩ := exists_promSource fleet tick
  -- Prometheus skips what it does not have, so its tick returns
  obtain ⟨decisions, through, _⟩ := prom.runOnce_ok source tick.moment
    (fun _ _ => True) fun now holds domainName member => by
      obtain ⟨domain, found⟩ := present domainName member
      obtain ⟨budget, answer⟩ := ControlLoop.budgetAt_isOk found tick.moment
      obtain ⟨readings, collected⟩ :=
        fromProm.readDomain_ok (ControlLoop.fallbackCap budget domain) domain.gpuIndices
      obtain ⟨decision, _, _, passed, _⟩ := holds.pass found answer collected
      exact ⟨decision, passed, trivial⟩
  have same := agree past tick rest split
  rw [ran, through] at same
  -- so the actuator tick returns too, and it has read every GPU
  obtain ⟨others, returned, _⟩ := returned_eq_some same
  intro domainName member
  obtain ⟨domain, budget, found, _, reads⟩ := ControlLoop.reads_of_runOnce
    actuator.same returned domainName member
  refine ⟨domain, found, fun idx inside => ?_⟩
  obtain ⟨answer, answered⟩ := reads idx inside
  rw [read_actuator] at answered
  by_contra absent
  rw [if_neg absent] at answered
  cases answered

/-- Where the PRS brains agree, the equal parts are the maxima. -/
theorem maxima_of_agree
    (agree : ∀ params : PRSParams, Agree fleet { loop with brain := .prs { params := params } } ticks) :
    MaximaAreFallback fleet loop ticks := by
  intro present tick member domainName managed domain budget found answer gpu inside
  obtain ⟨past, rest, split⟩ := List.append_of_mem member
  have listed := listed_of_agree split (agree defaultParams) present
  obtain ⟨_, again, inFleet⟩ := listed domainName managed
  cases found.symm.trans again
  refine ⟨inFleet gpu inside, ?_⟩
  obtain ⟨fallback, isFallback⟩ : ∃ fallback, fallback = ControlLoop.fallbackCap budget domain :=
    ⟨_, rfl⟩
  obtain ⟨params, probes⟩ := exists_probes (tick.powerDraw gpu) (tick.powerCap gpu)
    (max fallback (fleet.maxCapW gpu))
  obtain ⟨actuatorProbes, promProbes⟩ := (probing_loop loop params).runs fleet past
  obtain ⟨source, fromProm, ran⟩ := exists_promSource fleet tick
  have actuator : Shows fleet tick (fun _ idx => fleet.maxCapW idx)
      (.actuator (fleet.actuatorRead tick)) := by
    intro fallback idx member
    rw [read_actuator, if_pos member]
  have prom : Shows fleet tick (fun fallback _ => fallback) source := by
    intro fallback idx member
    rw [fromProm.read, if_pos member]
  obtain ⟨decisions, through, maxima⟩ := actuatorProbes.returnsMaximum probes actuator listed
  obtain ⟨others, also, fallbacks⟩ := promProbes.returnsMaximum probes prom listed
  have same := agree params past tick rest split
  rw [actuatorTick, ran, through, also] at same
  obtain ⟨one, other, maximum, equal, caps⟩ := exists_of_forall₂ maxima fallbacks
    (Option.some.inj same) managed
  have first := maximum domain budget found answer inside (le_max_right _ _)
  have second := equal domain budget found answer inside (isFallback ▸ le_max_left _ _)
  exact Option.some.inj (second.symm.trans (caps ▸ first))

/-- **When the two telemetry paths decide alike.** Whatever the brain, the runs return the same caps at
every tick exactly when the equal part of a budget that stands in for a hardware maximum is that maximum,
at every tick and for every GPU. -/
theorem telemetry_paths_agree_iff (fleet : HostFleet) (loop : ControlLoop) (ticks : List FleetTick) :
    (∀ brain : AnyBrain, (brain.ReadsFlags → Cool fleet loop ticks) →
      Agree fleet { loop with brain := brain } ticks) ↔ MaximaAreFallback fleet loop ticks := by
  constructor
  · intro agree
    exact maxima_of_agree fun params => agree (.prs { params := params }) False.elim
  · intro maxima brain cool
    exact @agree_of_maxima fleet { loop with brain := brain } ticks maxima cool

/-! ### One fleet, two caps -/

theorem nodup_pair : ([0, 1] : List GpuIndex).Nodup := by decide

/-- A busy GPU and an idle one, of 1000 W each. -/
def pairFleet : HostFleet where
  hostname := "node-0"
  modelName := "gpu"
  gpus := [0, 1]
  nodup := nodup_pair
  maxCapW := fun _ => 1000

def pairTick : FleetTick where
  moment := { ts := 0, around := { now := 0, isGpuBusy := fun _ => false } }
  powerDraw := fun idx => if idx = 0 then 700 else 100
  powerCap := fun _ => 1000

def pairDomain : PowerDomain where
  name := "domain-0"
  budgetW := 1000
  gpuIndices := [0, 1]
  pduName := "pdu-A"

/-- Their domain has 1000 W, and the brain is PRS with its default arguments. -/
def pairLoop : ControlLoop where
  topology := { pdus := .empty, domains := ⟨[("domain-0", pairDomain)], List.nodup_singleton _⟩ }
  managedDomains := ["domain-0"]
  brain := .prs { params := defaultParams }

/-- What a tick returns for one GPU. -/
def capsOfGpu (gpu : GpuIndex) (outcome : Except PyError (List BrainDecision)) :
    Option (List (Option ℚ)) :=
  (returned outcome).map fun domains => domains.map fun caps => caps gpu

/-- The busy GPU gets what the idle one leaves, 800 W, from the actuator's telemetry, and half the budget
from that of Prometheus. -/
theorem telemetry_paths_differ :
    capsOfGpu 0 (pairFleet.actuatorTick pairLoop pairTick).1 = some [some 800] ∧
      capsOfGpu 0 (pairFleet.promTick pairLoop pairTick).1 = some [some 500] ∧
      ¬ Agree pairFleet pairLoop [pairTick] := by
  have actuator : capsOfGpu 0 (pairFleet.actuatorTick pairLoop pairTick).1 = some [some 800] := by
    decide +kernel
  have prom : capsOfGpu 0 (pairFleet.promTick pairLoop pairTick).1 = some [some 500] := by
    decide +kernel
  refine ⟨actuator, prom, fun agree => ?_⟩
  have whole : returned (pairFleet.actuatorTick pairLoop pairTick).1 =
      returned (pairFleet.promTick pairLoop pairTick).1 := agree [] pairTick [] rfl
  have same : capsOfGpu 0 (pairFleet.actuatorTick pairLoop pairTick).1 =
      capsOfGpu 0 (pairFleet.promTick pairLoop pairTick).1 := by
    rw [capsOfGpu, whole, capsOfGpu]
  rw [actuator, prom] at same
  exact absurd same (by decide +kernel)

end HostFleet

end Opendps.Controller
