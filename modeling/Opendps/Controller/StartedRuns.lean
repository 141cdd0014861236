/-
**A controller that was started.**

What `main` has checked holds in every round of the loop: nothing that is pushed, read or polled takes it
back (`started_controller_sound`). The loop swallows what a round raises, so a controller that is
misconfigured would fail silently, round after round; `started_rounds_fail_outside` says that one that
was started does not: what its rounds raise was raised by the telemetry, by the actuator or by a poll.

The exception is a quota brain whose smoothing factor or raise rate is out of range: its constructor does
not look at them, and each tick raises when it builds the brain of a tenant (`RefusalRaised`).
-/

import Opendps.Brain.CappedGpus
import Opendps.Controller.Startup

namespace Opendps.Controller

open Opendps.Lib Opendps.Pdn Opendps.Brain Opendps.Telemetry Opendps.Operator

namespace RunningController

/-- What is checked before the loop. -/
structure Sound {σ : Type} (state : RunningController σ) : Prop where
  unlinked : state.deciding.storeLinked = false
  managed : state.deciding.managedDomains = state.deciding.topology.domains.keys
  hotGpus : state.config.simMode = false → state.deciding.thermalThrottledGpus = []
  throttleTemp : 0 < state.deciding.thermalThrottleTempC
  quota : ∀ quota, state.config.quotaConfig = some quota → quota.validate = .ok () ∧
    validateQuotaAgainstTopology quota state.deciding.topology = .ok ()
  tiers : state.prioritySource = none → ∀ brain, state.deciding.brain = .priorityPrs brain →
    ∀ gpu ∈ brain.tiers.keys, gpu ∈ topologyGpus state.deciding.topology
  source : ∀ source, state.prioritySource = some source →
    state.TakesTiers ∧ KnownTiers source.baseline ∧ KnownTiers source.snapshot
  brain : state.deciding.brain.Sound

/-! ### What `main` has checked -/

section Start

variable {σ : Type} {codec : Codec} {args : Arguments}

/-- Only a quota brain has a quota. -/
theorem quotaFor_some {loaded : Except PyError (Option QuotaConfig)} {quota : QuotaConfig}
    (found : quotaFor args loaded = .ok (some quota)) : args.brain = .quotaPrs := by
  unfold quotaFor at found
  split at found
  · cases found
  · split at found
    · next isQuota => exact isQuota
    · cases found

/-- Only a priority brain has a source. -/
theorem dynamicFor_some {environ : Dict String String} {nodeName : String}
    (found : dynamicFor args environ = .ok (some nodeName)) : args.brain = .priorityPrs := by
  unfold dynamicFor at found
  split at found
  · next isPriority => exact isPriority
  · cases found

/-- The tiers that are taken are of GPUs of the topology. -/
theorem mem_topologyGpus_of_tiersFor {topology : PDNTopology} {dynamic : Bool}
    {tiers : Dict ℤ String} (found : tiersFor codec args topology dynamic = .ok tiers) :
    ∀ gpu ∈ tiers.keys, gpu ∈ topologyGpus topology := by
  unfold tiersFor at found
  split at found
  · cases found
  split at found
  · cases found
  split at found
  · split at found
    · cases found
    · split at found
      · cases found
      · split at found
        · cases found
        · next none =>
          cases found
          intro gpu member
          by_contra stray
          have listed : gpu ∈ strayGpus topology tiers :=
            mem_sortedBy.mpr (List.mem_filter.mpr ⟨member, decide_eq_true stray⟩)
          rw [not_not.mp none] at listed
          cases listed
  · cases found
    exact fun gpu member => absurd member List.not_mem_nil

theorem throttleTemp_pos {given : PyFloat} {temp : ℚ} (found : throttleTemp given = .ok temp) :
    0 < temp := by
  unfold throttleTemp at found
  split at found
  · split at found
    · next positive =>
      cases found
      exact positive
    · cases found
  · cases found

theorem simOnly_eq_nil {flag text : String} {gpus : List ℤ}
    (found : simOnly flag text false = .ok gpus) : gpus = [] := by
  unfold simOnly at found
  split at found
  · cases found
  · split at found
    · cases found
    · next refused =>
      cases found
      by_contra listed
      exact refused ⟨listed, rfl⟩

/-- A refresh keeps the tiers known: those of the baseline, and of every payload that is accepted. -/
theorem known_refresh {source next : PriorityConfigSource}
    {read : Except ReadFailure PublishedConfigMap}
    (refreshed : source.refresh codec read = .ok next) (baseline : KnownTiers source.baseline)
    (snapshot : KnownTiers source.snapshot) :
    KnownTiers next.baseline ∧ KnownTiers next.snapshot := by
  unfold PriorityConfigSource.refresh at refreshed
  cases read with
  | error failure =>
    dsimp only at refreshed
    split at refreshed
    · cases refreshed
      exact ⟨baseline, baseline⟩
    · split at refreshed <;>
        · cases refreshed
          exact ⟨baseline, snapshot⟩
  | ok configMap =>
    dsimp only at refreshed
    split at refreshed
    · cases refreshed
      exact ⟨baseline, snapshot⟩
    · split at refreshed
      · split at refreshed
        · cases refreshed
          exact ⟨baseline, snapshot⟩
        · cases refreshed
      · next tiers parsed =>
        cases refreshed
        exact ⟨baseline, baseline.update (known_of_parse parsed)⟩

/-- A poll keeps the tiers known, whatever it meets. -/
theorem known_afterPoll {source next : PriorityConfigSource} {input : PollInput}
    {outcome : Except PyError Unit} (polled : afterPoll codec source input = (outcome, next))
    (baseline : KnownTiers source.baseline) (snapshot : KnownTiers source.snapshot) :
    KnownTiers next.baseline ∧ KnownTiers next.snapshot := by
  unfold afterPoll PriorityConfigSource.poll at polled
  by_cases loaded : (source.hasApi || input.clientLoads) = true
  · rw [if_pos loaded] at polled
    cases refreshed : PriorityConfigSource.refresh codec { source with hasApi := true } input.read with
    | error exc =>
      rw [refreshed] at polled
      cases polled
      exact ⟨baseline, snapshot⟩
    | ok after =>
      rw [refreshed] at polled
      cases polled
      exact known_refresh refreshed baseline snapshot
  · rw [if_neg loaded] at polled
    cases polled
    exact ⟨baseline, snapshot⟩

/-- What a brain that is built has passed. -/
structure Built (topology : PDNTopology) (config : BrainConfig) (choice : BrainChoice)
    (brain : AnyBrain) : Prop where
  sound : brain.Sound
  quota : choice = .quotaPrs → ∀ quota, config.quota = some quota → quota.validate = .ok () ∧
    validateQuotaAgainstTopology quota topology = .ok ()
  tiers : ∀ priority, brain = .priorityPrs priority → priority.tiers = config.tiers
  takes : choice = .priorityPrs → (∃ priority, brain = .priorityPrs priority) ∧
    KnownTiers config.tiers

theorem built_of_brainOf {topology : PDNTopology} {config : BrainConfig} {choice : BrainChoice}
    {brain : AnyBrain} (built : brainOf choice topology config = .ok brain) :
    Built topology config choice brain := by
  have family : ∀ {brain : AnyBrain}, choice ≠ .quotaPrs → choice ≠ .priorityPrs → brain.Sound →
      (∀ priority, brain ≠ .priorityPrs priority) → Built topology config choice brain :=
    fun noQuota noPriority sound other => ⟨sound, fun same => absurd same noQuota,
      fun priority same => absurd same (other priority), fun same => absurd same noPriority⟩
  cases choice with
  | dpm =>
    cases built
    exact family (by decide) (by decide) trivial fun _ same => by cases same
  | prs =>
    obtain ⟨params, _, returned⟩ := ok_of_bind built
    cases returned
    exact family (by decide) (by decide) trivial fun _ same => by cases same
  | cvxpy =>
    change raising ((CVXPYBrain.init).map AnyBrain.cvxpy) = .ok brain at built
    cases made : CVXPYBrain.init with
    | error exc =>
      rw [made] at built
      cases built
    | ok own =>
      rw [made] at built
      cases built
      exact family (by decide) (by decide) trivial fun _ same => by cases same
  | jobPrs =>
    obtain ⟨params, _, later⟩ := ok_of_bind built
    obtain ⟨made, _, returned⟩ := ok_of_bind later
    cases returned
    exact family (by decide) (by decide) trivial fun _ same => by cases same
  | thermalPrs =>
    obtain ⟨params, _, later⟩ := ok_of_bind built
    obtain ⟨made, _, returned⟩ := ok_of_bind later
    cases returned
    exact family (by decide) (by decide) trivial fun _ same => by cases same
  | quotaPrs =>
    unfold brainOf at built
    cases present : config.quota with
    | none =>
      rw [present] at built
      cases built
    | some quota =>
      rw [present] at built
      dsimp only at built
      cases fits : validateQuotaAgainstTopology quota topology with
      | error exc =>
        rw [fits] at built
        cases built
      | ok done =>
        rw [fits] at built
        obtain ⟨validated, kind⟩ := quotaBrainOf_cases built
        have valid : ∀ other, config.quota = some other → other.validate = .ok () ∧
            validateQuotaAgainstTopology other topology = .ok () := by
          intro other same
          cases present.symm.trans same
          exact ⟨validated, fits⟩
        rcases kind with ⟨params, _, rfl⟩ | ⟨refusal, _, rfl⟩
        · exact ⟨QuotaAwarePRSBrain.CacheOk.of_fresh rfl, fun _ => valid, fun _ same => (by cases same),
            fun same => (by cases same)⟩
        · exact ⟨trivial, fun _ => valid, fun _ same => (by cases same), fun same => (by cases same)⟩
  | priorityPrs =>
    unfold brainOf at built
    dsimp only at built
    split at built
    · cases built
    · split at built
      · next known =>
        obtain ⟨params, _, returned⟩ := ok_of_bind built
        cases returned
        refine ⟨trivial, fun same => (by cases same), fun priority same => ?_, fun _ => ⟨⟨_, rfl⟩, known⟩⟩
        cases same
        rfl
      · cases built

/-- **What `main` starts is sound.** -/
theorem sound_of_main {inputs : StartInputs} {actuator : σ} {controller : RunningController σ}
    (started : main codec args inputs actuator = .ok controller) : controller.Sound := by
  obtain ⟨checked, passed, later⟩ := ok_of_bind started
  obtain ⟨params, _, launched⟩ := ok_of_bind later
  obtain ⟨boost, _, later⟩ := ok_of_bind launched
  obtain ⟨source, polled, later⟩ := ok_of_bind later
  obtain ⟨brain, made, returned⟩ := ok_of_bind later
  obtain ⟨busy, _, later⟩ := ok_of_bind passed
  obtain ⟨hot, hotGpus, later⟩ := ok_of_bind later
  obtain ⟨temp, throttle, later⟩ := ok_of_bind later
  obtain ⟨topology, _, later⟩ := ok_of_bind later
  obtain ⟨quota, quotaFound, later⟩ := ok_of_bind later
  obtain ⟨dynamic, dynamicFound, later⟩ := ok_of_bind later
  obtain ⟨tiers, tiersFound, last⟩ := ok_of_bind later
  cases last
  cases returned
  have built := built_of_brainOf made
  refine ⟨rfl, rfl, fun live => ?_, throttleTemp_pos throttle, fun own isQuota => ?_,
    fun none priority isPriority gpu member => ?_, fun own isSource => ?_, built.sound⟩
  · have noSim : args.sim = false := live
    rw [noSim] at hotGpus
    exact simOnly_eq_nil hotGpus
  · have isSome : quota = some own := isQuota
    subst isSome
    exact built.quota (quotaFor_some quotaFound) own rfl
  · rw [built.tiers priority isPriority] at member
    exact mem_topologyGpus_of_tiersFor tiersFound gpu member
  · have isSome : source = some own := isSource
    subst isSome
    unfold sourceFor at polled
    cases dynamic with
    | none => cases polled
    | some nodeName =>
      obtain ⟨takes, known⟩ := built.takes (dynamicFor_some dynamicFound)
      dsimp only at polled
      split at polled
      · cases polled
      · split at polled
        · cases polled
        · next after =>
          cases polled
          exact ⟨takes, known_afterPoll after known known⟩

end Start

/-! ### Every round -/

section Rounds

variable {σ : Type} {actuator : Actuator σ} {codec : Codec} {self : RunningController σ}

/-- A decision leaves the tiers alone. -/
theorem tiers_decide {brain next : PriorityTieredPRSBrain} {topology : PDNTopology}
    {domainName : String} {state : DomainState} {decision : BrainDecision}
    (call : brain.decide topology domainName state = .ok (decision, next)) :
    next.tiers = brain.tiers := by
  obtain ⟨⟨made, prs⟩, _, later⟩ := ok_of_bind call
  dsimp only at later
  split at later
  · cases later
    rfl
  · obtain ⟨budget, _, later⟩ := ok_of_bind later
    split at later <;>
      · cases later
        rfl

/-- The same checks hold for the same controller, if its source and its brain pass them. -/
theorem Sound.of_same {after : RunningController σ} (sound : self.Sound)
    (same : SameController self after)
    (tiers : after.prioritySource = none → ∀ brain, after.deciding.brain = .priorityPrs brain →
      ∀ gpu ∈ brain.tiers.keys, gpu ∈ topologyGpus self.deciding.topology)
    (source : ∀ source, after.prioritySource = some source →
      after.TakesTiers ∧ KnownTiers source.baseline ∧ KnownTiers source.snapshot)
    (brain : after.deciding.brain.Sound) : after.Sound := by
  have topology := same.sameNode.budgets sound.unlinked
  refine ⟨same.sameNode.linked.trans sound.unlinked, ?_, ?_, ?_, ?_, ?_, source, brain⟩
  · rw [same.sameNode.managed, topology]
    exact sound.managed
  · rw [same.config, same.sameNode.throttled]
    exact sound.hotGpus
  · rw [same.sameNode.throttleTemp]
    exact sound.throttleTemp
  · rw [same.config, topology]
    exact sound.quota
  · rw [topology]
    exact tiers

theorem Sound.runDomain (sound : self.Sound) (gpuByIndex : Option (Dict ℤ GpuSample))
    (moment : Moment) (domainName : String) :
    (self.runDomain actuator gpuByIndex moment domainName).2.Sound := by
  refine sound.of_same (sameController_runDomain actuator gpuByIndex moment self domainName) ?_ ?_ ?_
  · rw [prioritySource_runDomain, deciding_runDomain]
    intro none brain isPriority
    rcases self.deciding.decideDomain_cases (self.source actuator gpuByIndex) moment domainName with
      unknown | ⟨other, adopted, rfl | ⟨_, _, call⟩⟩
    · rw [unknown] at isPriority
      exact sound.tiers none brain isPriority
    · rw [adopted] at isPriority
      exact sound.tiers none brain isPriority
    · rw [adopted] at isPriority
      subst isPriority
      cases before : self.deciding.brain with
      | priorityPrs old =>
        rw [before] at call
        obtain ⟨⟨made, next⟩, inner, returned⟩ := ok_of_bind call
        cases returned
        rw [tiers_decide inner]
        exact sound.tiers none old before
      | _ =>
        rw [before] at call
        obtain ⟨_, _, returned⟩ := ok_of_bind call
        cases returned
  · intro source isSource
    rw [prioritySource_runDomain] at isSource
    obtain ⟨takes, known⟩ := sound.source source isSource
    exact ⟨takesTiers_runDomain takes gpuByIndex moment domainName, known⟩
  · rw [deciding_runDomain]
    rcases self.deciding.decideDomain_cases (self.source actuator gpuByIndex) moment domainName with
      unknown | ⟨other, adopted, rfl | ⟨_, _, call⟩⟩
    · rw [unknown]
      exact sound.brain
    · rw [adopted]
      exact sound.brain
    · rw [adopted]
      exact AnyBrain.sound_decide sound.brain call

theorem Sound.advance (sound : self.Sound) (samples : GpuIndex → Sim.Util) :
    (self.advance actuator samples).Sound := by
  unfold RunningController.advance
  split
  · split
    · exact ⟨sound.unlinked, sound.managed, sound.hotGpus, sound.throttleTemp, sound.quota,
        sound.tiers, sound.source, sound.brain⟩
    · exact sound
  · exact sound

/-- **Refreshing the tiers** keeps the checks, and raises only what the poll raises. -/
theorem Sound.refreshTiers (sound : self.Sound) (input : PollInput)
    {outcome : Except PyError Unit} {next : RunningController σ}
    (refreshed : self.refreshTiers codec input = (outcome, next)) :
    next.Sound ∧ ∀ exc, outcome = .error exc → ∃ source, self.prioritySource = some source ∧
      (afterPoll codec source input).1 = .error exc := by
  unfold RunningController.refreshTiers at refreshed
  cases held : self.prioritySource with
  | none =>
    rw [held] at refreshed
    cases refreshed
    exact ⟨sound, fun _ absurdity => by cases absurdity⟩
  | some source =>
    obtain ⟨⟨brain, isPriority⟩, baseline, snapshot⟩ := sound.source source held
    rw [held, isPriority] at refreshed
    dsimp only at refreshed
    cases polled : afterPoll codec source input with
    | mk answer after =>
      obtain ⟨knownBaseline, knownSnapshot⟩ := known_afterPoll polled baseline snapshot
      rw [polled] at refreshed
      cases answer with
      | error exc =>
        cases refreshed
        refine ⟨?_, fun other same => ⟨source, rfl, congrArg Prod.fst polled ▸ same⟩⟩
        refine ⟨sound.unlinked, sound.managed, sound.hotGpus, sound.throttleTemp, sound.quota,
          fun none => (by cases none), fun own isSource => ?_, sound.brain⟩
        cases isSource
        exact ⟨⟨brain, isPriority⟩, knownBaseline, knownSnapshot⟩
      | ok done =>
        have set : brain.setTiers after.snapshot =
            .ok { brain with tiers := after.snapshot, known := knownSnapshot } := dif_pos knownSnapshot
        simp only [setTiers, isPriority, set] at refreshed
        cases refreshed
        refine ⟨?_, fun _ absurdity => by cases absurdity⟩
        refine ⟨sound.unlinked, sound.managed, sound.hotGpus, sound.throttleTemp, sound.quota,
          fun none => (by cases none), fun own isSource => ?_, trivial⟩
        cases isSource
        exact ⟨⟨_, rfl⟩, knownBaseline, knownSnapshot⟩

/-- **Every round keeps the checks.** -/
theorem Sound.rounds (sound : self.Sound) (codec : Codec) (actuator : Actuator σ)
    (events : List ControllerEvent) : (run (loopTick codec actuator) self events).Sound :=
  run_invariant (fun _ (state : RunningController σ) => state.Sound) sound
    (fun _ event state before => @loopTick_invariant σ actuator state Sound codec event
      (fun _ past => (past.refreshTiers event.polled rfl).1)
      (fun gpuByIndex _ _ domainName past => past.runDomain gpuByIndex event.moment domainName)
      (fun _ past => past.advance event.samples) before) events

/-! ### What a round raises -/

/-- A domain that cannot be read has a GPU that cannot be read. -/
theorem exists_of_readDomain_error {read : GpuIndex → Except PyError (Option GpuReading)}
    {gpuIndices : List GpuIndex} {before : Readings} {exc : PyError}
    (raised : readDomain read gpuIndices before = .error exc) :
    ∃ idx ∈ gpuIndices, read idx = .error exc := by
  induction gpuIndices generalizing before with
  | nil => cases raised
  | cons idx rest ih =>
    rw [readDomain, List.foldlM_cons] at raised
    cases answer : read idx with
    | error other =>
      rw [answer] at raised
      cases raised
      exact ⟨idx, List.mem_cons_self, answer⟩
    | ok reading =>
      rw [answer] at raised
      have later : ∃ after, readDomain read rest after = .error exc := by
        cases reading with
        | none => exact ⟨_, raised⟩
        | some reading => exact ⟨_, raised⟩
      obtain ⟨_, failed⟩ := later
      obtain ⟨other, member, same⟩ := ih failed
      exact ⟨other, List.mem_cons_of_mem idx member, same⟩

/-- The parameters of the brain were refused, and one of its tenants has a GPU of the domain. -/
def RefusalRaised (self : RunningController σ) (domainName : String) (exc : PyError) : Prop :=
  self.deciding.brain.refusal = some exc ∧
    ∃ domain, self.deciding.topology.domain domainName = .ok domain ∧
      ∃ gpu ∈ domain.gpuIndices, self.deciding.brain.RefusesGpu domainName gpu

/-- What a pass raises was raised by the actuator, when it was read or when it was pushed to; or the
parameters of the brain were refused. -/
def PassFails (actuator : Actuator σ) (gpuByIndex : Option (Dict ℤ GpuSample))
    (self : RunningController σ) (domainName : String) (exc : PyError) : Prop :=
  (gpuByIndex = none ∧ ∃ idx, actuator.read self.actuator idx = .error exc) ∨
    (self.config.dryRun = false ∧ ∃ caps, (actuator.push caps self.actuator).1 = .error exc) ∨
    self.RefusalRaised domainName exc

/-- Where a domain is found, observing it adopts its budget, and raises only what reading a GPU
raises. -/
theorem observe_of_present {loop adopted : ControlLoop} {source : Source} {moment : Moment}
    {domainName : String} {domain : PowerDomain} {outcome : Except PyError Readings}
    (present : loop.topology.domain domainName = .ok domain)
    (observed : loop.observe source moment domainName = (outcome, adopted)) :
    adopted.brain = loop.brain ∧ adopted.topology.domain domainName = .ok domain ∧
      ∀ exc, outcome = .error exc → ∃ fallback idx, source.read fallback idx = .error exc := by
  unfold ControlLoop.observe at observed
  rw [present] at observed
  dsimp only at observed
  have kept : (loop.adopt moment domainName).domain domainName = .ok domain := by
    unfold PDNTopology.domain at present ⊢
    rw [(loop.adopt_leaves moment domainName).1]
    exact present
  obtain ⟨budget, answer⟩ := PDNTopology.domainBudgetW_isOk kept
  rw [answer] at observed
  cases observed
  refine ⟨rfl, kept, fun exc raised => ?_⟩
  obtain ⟨idx, _, failed⟩ := exists_of_readDomain_error raised
  exact ⟨_, idx, failed⟩

/-- **A pass of a sound controller** raises only what the actuator raises, or a refusal. -/
theorem Sound.passFails (sound : self.Sound) {gpuByIndex : Option (Dict ℤ GpuSample)}
    {moment : Moment} {domainName : String} (managed : domainName ∈ self.deciding.managedDomains)
    {exc : PyError} {next : RunningController σ}
    (raised : self.runDomain actuator gpuByIndex moment domainName = (.error exc, next)) :
    PassFails actuator gpuByIndex self domainName exc := by
  obtain ⟨domain, stored⟩ := Dict.mem_keys_iff.mp (sound.managed ▸ managed)
  have present : self.deciding.topology.domain domainName = .ok domain := by
    rw [PDNTopology.domain, stored]
  rcases runDomain_cases actuator gpuByIndex moment self domainName with
    ⟨other, loop, decided, ran⟩ | ⟨readings, adopted, decision, loop, _, _, _, ran⟩
  · cases ran.symm.trans raised
    rw [decideDomain_eq_observe] at decided
    cases observed : self.deciding.observe (self.source actuator gpuByIndex) moment domainName with
    | mk outcome adopted =>
      obtain ⟨sameBrain, kept, reads⟩ := observe_of_present present observed
      rw [observed] at decided
      cases outcome with
      | error other =>
        cases decided
        obtain ⟨fallback, idx, failed⟩ := reads exc rfl
        cases gpuByIndex with
        | some sample => cases failed
        | none =>
          refine .inl ⟨rfl, idx, ?_⟩
          change (actuator.read self.actuator idx).map _ = .error exc at failed
          cases answer : actuator.read self.actuator idx with
          | error other =>
            rw [answer] at failed
            cases failed
            rfl
          | ok reading =>
            rw [answer] at failed
            cases failed
      | ok readings =>
        dsimp only at decided
        -- the domain is there, and its tenants' brains are sound: all the brain can raise is a refusal
        by_cases refuses : adopted.brain.Refuses domainName (adopted.domainState
          (self.source actuator gpuByIndex) readings moment domainName)
        · obtain ⟨refusal, same, refused⟩ := AnyBrain.decide_of_refuses kept refuses moment.around
          rw [refused] at decided
          cases decided
          obtain ⟨gpu, shown, _, refusesGpu⟩ := refuses
          obtain ⟨found, listed, owned⟩ := mem_gpuIndices_of_observe observed
          cases listed.symm.trans stored
          exact .inr (.inr ⟨sameBrain ▸ same, domain, present, gpu, owned gpu shown,
            sameBrain ▸ refusesGpu⟩)
        · have fit : adopted.brain.Sound := sameBrain ▸ sound.brain
          obtain ⟨decision, after, made, _⟩ :=
            AnyBrain.decide_isOk fit kept refuses moment.around
          rw [made] at decided
          cases decided
  · rw [ran] at raised
    dsimp only at raised
    unfold effect at raised
    by_cases dry : self.config.dryRun = true
    · rw [if_pos dry] at raised
      cases raised
    · rw [if_neg dry] at raised
      refine .inr (.inl ⟨Bool.eq_false_of_not_eq_true dry, decision.caps, ?_⟩)
      cases pushed : actuator.push decision.caps self.actuator with
      | mk outcome state =>
        rw [pushed] at raised
        cases outcome with
        | error other =>
          cases raised
          rfl
        | ok done => cases raised

/-- What the domains of a tick raise, one of them raised, after the ones before it. -/
theorem exists_of_runDomains_error {gpuByIndex : Option (Dict ℤ GpuSample)} {moment : Moment}
    {domainNames : List String} {exc : PyError} {next : RunningController σ}
    (raised : runDomains actuator gpuByIndex moment domainNames self = (.error exc, next)) :
    ∃ before domainName after decisions mid, domainNames = before ++ domainName :: after ∧
      runDomains actuator gpuByIndex moment before self = (.ok decisions, mid) ∧
      mid.runDomain actuator gpuByIndex moment domainName = (.error exc, next) := by
  induction domainNames generalizing self with
  | nil => cases raised
  | cons first rest ih =>
    unfold runDomains at raised
    cases ran : self.runDomain actuator gpuByIndex moment first with
    | mk outcome middle =>
      rw [ran] at raised
      cases outcome with
      | error other =>
        cases raised
        exact ⟨[], first, rest, [], self, rfl, rfl, ran⟩
      | ok decision =>
        dsimp only at raised
        cases others : runDomains actuator gpuByIndex moment rest middle with
        | mk outcome last =>
          rw [others] at raised
          cases outcome with
          | ok decisions => cases raised
          | error other =>
            cases raised
            obtain ⟨before, domainName, after, decisions, mid, rfl, earlier, failed⟩ := ih others
            refine ⟨first :: before, domainName, after, decision :: decisions, mid, rfl, ?_, failed⟩
            rw [runDomains, ran]
            dsimp only
            rw [earlier]

/-- What a tick raises was raised by the telemetry, or in the pass of one of its domains. -/
def TickFails (actuator : Actuator σ) (event : ControllerEvent) (self : RunningController σ)
    (exc : PyError) : Prop :=
  (self.readsActuator = false ∧ event.nodeSample = .error exc) ∨
    ∃ gpuByIndex before domainName after decisions mid,
      self.sampleNode event = .ok gpuByIndex ∧
      self.deciding.managedDomains = before ++ domainName :: after ∧
      runDomains actuator gpuByIndex event.moment before self = (.ok decisions, mid) ∧
      PassFails actuator gpuByIndex mid domainName exc

/-- **A tick of a sound controller** raises only what comes from outside, or a refusal. -/
theorem Sound.tickFails (sound : self.Sound) {event : ControllerEvent} {exc : PyError}
    {next : RunningController σ} (raised : self.runOnce actuator event = (.error exc, next)) :
    TickFails actuator event self exc := by
  unfold RunningController.runOnce at raised
  cases read : self.sampleNode event with
  | error other =>
    rw [read] at raised
    cases raised
    unfold sampleNode at read
    split at read
    · cases read
    · next prom =>
      refine .inl ⟨Bool.eq_false_of_not_eq_true prom, ?_⟩
      cases answered : event.nodeSample with
      | error failure =>
        rw [answered] at read
        cases read
        rfl
      | ok sample =>
        rw [answered] at read
        cases read
  | ok gpuByIndex =>
    rw [read] at raised
    dsimp only at raised
    cases ran : runDomains actuator gpuByIndex event.moment self.deciding.managedDomains self with
    | mk outcome last =>
      rw [ran] at raised
      cases outcome with
      | ok decisions => cases raised
      | error other =>
        cases raised
        obtain ⟨before, domainName, after, decisions, mid, split, earlier, failed⟩ :=
          exists_of_runDomains_error ran
        have passed : mid.Sound ∧ SameController self mid := by
          have kept := @runDomains_invariant σ actuator gpuByIndex event.moment self
            (fun state => state.Sound ∧ SameController self state)
            (fun state name holds => ⟨holds.1.runDomain gpuByIndex event.moment name,
              holds.2.trans (sameController_runDomain actuator gpuByIndex _ state name)⟩)
            before ⟨sound, .refl self⟩
          rw [earlier] at kept
          exact kept
        refine .inr ⟨gpuByIndex, before, domainName, after, decisions, mid, read, split, earlier,
          passed.1.passFails ?_ failed⟩
        rw [passed.2.sameNode.managed, split]
        exact List.mem_append_right _ List.mem_cons_self

end Rounds

/-- A rack of which one GPU is too hot, in sim mode. -/
def hotRack : Arguments := { sim := true, brain := .thermalPrs, hotGpus := "1" }

def hotRackInputs : StartInputs :=
  { rackInputs with topology := .ok (soleTopology "rack-a" [0, 1] 700 0) }

theorem hotRack_starts :
    ∃ controller, main rackCodec hotRack hotRackInputs demoController.actuator = .ok controller := by
  have starts : (main rackCodec hotRack hotRackInputs demoController.actuator).toOption.isSome = true := by
    decide +kernel
  obtain ⟨controller, found⟩ := Option.isSome_iff_exists.mp starts
  exact ⟨controller, ok_of_toOption found⟩

/-- Two tenants share the GPUs of a domain, with a smoothing factor that PRS refuses. -/
def sharedRack : Arguments := { sim := true, brain := .quotaPrs, ewmaAlpha := .finite 2 }

def sharedRackInputs : StartInputs :=
  { rackInputs with
    topology := .ok MeteredController.twoDomains, quota := .ok (some MeteredController.sharedQuota) }

def alphaOfTwo : PyError := .valueError "ewma_alpha must be in (0, 1], got 2.0"

theorem sharedRack_raises :
    ∃ controller, main rackCodec sharedRack sharedRackInputs demoController.actuator = .ok controller ∧
      controller.prioritySource = none ∧
      (controller.runOnce simActuator demoEvent).1 = .error alphaOfTwo := by
  have outcome : (main rackCodec sharedRack sharedRackInputs demoController.actuator).toOption.map
      (fun controller => (controller.prioritySource.isSome,
        (controller.runOnce simActuator demoEvent).1.map fun _ => ())) =
      some (false, .error alphaOfTwo) := by
    decide +kernel
  obtain ⟨controller, started, shown⟩ := Option.map_eq_some_iff.mp outcome
  obtain ⟨static, raised⟩ := Prod.mk.inj shown
  refine ⟨controller, ok_of_toOption started,
    Option.isNone_iff_eq_none.mp (Option.isSome_eq_false_iff.mp static), ?_⟩
  cases ticked : (controller.runOnce simActuator demoEvent).1 with
  | ok decisions =>
    rw [ticked] at raised
    cases raised
  | error exc =>
    rw [ticked] at raised
    cases raised
    rfl

section Started

variable {σ : Type} {codec : Codec} {args : Arguments} {inputs : StartInputs} {initial : σ}
  {controller : RunningController σ}

/-- **A started controller stays sound.** After any rounds, whatever is polled, read and pushed: the
domains it manages are those of its topology; GPUs are forced to count as throttling in sim mode only;
its quota is valid and fits the topology; its static tiers are of GPUs of the topology; and if tiers are
published to it, its brain takes them, and knows all that are in force. -/
theorem started_controller_sound (started : main codec args inputs initial = .ok controller)
    (actuator : Actuator σ) (events : List ControllerEvent) :
    (run (loopTick codec actuator) controller events).Sound :=
  (sound_of_main started).rounds codec actuator events

theorem started_controller_sound_rack :
    ∃ controller, main rackCodec hotRack hotRackInputs demoController.actuator = .ok controller ∧
      (run (loopTick rackCodec simActuator) controller [demoEvent, demoEvent]).Sound := by
  obtain ⟨controller, started⟩ := hotRack_starts
  exact ⟨controller, started, started_controller_sound started _ _⟩

/-- **A started controller fails only from outside.** After any rounds: what the next round raises before
its tick is what the poll of the published tiers raises; and what its tick raises is what the telemetry
raises, or what the actuator raises when it is read or pushed to in the pass of one of the domains. The
topology never is the cause, and the brain only if it is a quota brain with parameters that PRS refuses,
in the pass of a domain with a GPU of one of its tenants. -/
theorem started_rounds_fail_outside (started : main codec args inputs initial = .ok controller)
    (actuator : Actuator σ) (events : List ControllerEvent) (event : ControllerEvent) :
    (∀ exc next, (run (loopTick codec actuator) controller events).refreshTiers codec event.polled =
        (.error exc, next) →
      ∃ source, (run (loopTick codec actuator) controller events).prioritySource = some source ∧
        (afterPoll codec source event.polled).1 = .error exc) ∧
    ∀ ready, (run (loopTick codec actuator) controller events).refreshTiers codec event.polled =
        (.ok (), ready) →
      ∀ exc next, ready.runOnce actuator event = (.error exc, next) →
        TickFails actuator event ready exc := by
  have sound := (sound_of_main started).rounds codec actuator events
  exact ⟨fun exc next raised => (sound.refreshTiers event.polled raised).2 exc rfl,
    fun ready refreshed exc next raised =>
      (sound.refreshTiers event.polled refreshed).1.tickFails raised⟩

/-- With a smoothing factor of 2 the controller of two tenants starts, and its tick raises. -/
theorem started_rounds_fail_outside_refused :
    ∃ controller next,
      main rackCodec sharedRack sharedRackInputs demoController.actuator = .ok controller ∧
      controller.runOnce simActuator demoEvent = (.error alphaOfTwo, next) ∧
      TickFails simActuator demoEvent controller alphaOfTwo := by
  obtain ⟨controller, started, static, raised⟩ := sharedRack_raises
  have refreshed : controller.refreshTiers rackCodec demoEvent.polled = (.ok (), controller) := by
    rw [refreshTiers, static]
  exact ⟨controller, (controller.runOnce simActuator demoEvent).2, started, Prod.ext raised rfl,
    (started_rounds_fail_outside started simActuator [] demoEvent).2 controller refreshed alphaOfTwo _
      (Prod.ext raised rfl)⟩

end Started

end RunningController

end Opendps.Controller
