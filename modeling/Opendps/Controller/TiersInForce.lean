/-
**The tiers a tick decides with.**

A round of the loop polls the published priorities before its tick. Over any history of polls and ticks,
a tick decides with the baseline under the last good payload (`tiers_in_force`). The tiers of a payload
that is accepted are known to the brain (`known_of_parse`), so handing them over never raises; a payload
that makes the poll raise costs the tick of its round, and the round then changes nothing but that the
client is set up.
-/

import Opendps.Controller.StandaloneRuns

namespace Opendps.Controller

open Opendps.Lib Opendps.Pdn Opendps.Brain Opendps.Telemetry Opendps.Sim

/-! ### Accepted tiers are known -/

/-- Every tier of a map has a weight. -/
def KnownTiers (tiers : Dict ℤ String) : Prop := ∀ tier ∈ tiers.values, tier ∈ tierWeights.keys

theorem mem_keys_of_valid {tier : String} (valid : tier ∈ validTiers) : tier ∈ tierWeights.keys := by
  simp only [validTiers, List.mem_cons, List.not_mem_nil, or_false] at valid
  rcases valid with rfl | rfl | rfl | rfl <;> decide

/-- The tier of an assignment that is accepted is a valid one. -/
theorem valid_of_candidateOf {codec : Codec} {nodeName : String} {assignment : Json}
    {offer : ℤ × Candidate} (accepted : candidateOf codec nodeName assignment = .ok (some offer)) :
    offer.2.tier ∈ validTiers := by
  unfold candidateOf at accepted
  split at accepted
  · cases accepted
  · split at accepted
    · cases accepted
    · obtain ⟨gpuIndex, _, rest⟩ := ok_of_bind accepted
      obtain ⟨tier, tierRead, rest⟩ := ok_of_bind rest
      obtain ⟨boost, _, ranked⟩ := ok_of_bind rest
      have valid : tier ∈ validTiers := by
        unfold tierOf at tierRead
        split at tierRead
        · cases tierRead
        · cases tierRead
        · split at tierRead
          · next text member =>
            cases tierRead
            exact member
          · cases tierRead
        · cases tierRead
      split at ranked
      · cases ranked
        exact valid
      · cases ranked

/-- What is selected was offered, or was selected before. -/
theorem valid_selectAll {codec : Codec} {nodeName : String} {assignments : List Json}
    {selected result : Dict ℤ Candidate}
    (before : ∀ gpu candidate, selected.get? gpu = some candidate → candidate.tier ∈ validTiers)
    (ran : selectAll codec nodeName assignments selected = .ok result) :
    ∀ gpu candidate, result.get? gpu = some candidate → candidate.tier ∈ validTiers := by
  induction assignments generalizing selected with
  | nil =>
    cases ran
    exact before
  | cons assignment rest ih =>
    unfold selectAll at ran
    obtain ⟨answer, accepted, later⟩ := ok_of_bind ran
    cases answer with
    | none => exact ih before later
    | some offer =>
      refine ih (fun gpu candidate found => ?_) later
      have offered := valid_of_candidateOf accepted
      by_cases own : gpu = offer.1
      · subst own
        obtain ⟨best, held, _, source, _⟩ := get?_select_self selected offer
        rw [held] at found
        cases found
        rcases source with rfl | stood
        · exact offered
        · exact before _ _ stood
      · rw [get?_select_of_ne selected offer own] at found
        exact before gpu candidate found

/-- **The tiers of an accepted payload are known.** -/
theorem known_of_parse {codec : Codec} {nodeName : String} {raw : Option String}
    {tiers : Dict ℤ String} (parsed : parse codec nodeName raw = .ok tiers) : KnownTiers tiers := by
  unfold parse at parsed
  cases raw with
  | none => cases parsed
  | some raw =>
    obtain ⟨payload, _, checked⟩ := ok_of_bind parsed
    split at checked
    · cases checked
    · split at checked
      · cases checked
      · split at checked
        · next assignments _ =>
          obtain ⟨selected, ran, returned⟩ := ok_of_bind checked
          cases returned
          intro tier member
          obtain ⟨⟨gpu, stored⟩, inside, rfl⟩ := List.mem_map.mp member
          have found := Dict.get?_eq_some_iff.mpr inside
          rw [Dict.get?_mapVals, Option.map_eq_some_iff] at found
          obtain ⟨candidate, held, rfl⟩ := found
          exact mem_keys_of_valid
            (valid_selectAll (fun _ _ absurdity => by cases absurdity) ran gpu candidate held)
        · cases checked

theorem KnownTiers.update {baseline tiers : Dict ℤ String} (known : KnownTiers baseline)
    (others : KnownTiers tiers) : KnownTiers (baseline.update tiers) := by
  intro tier member
  obtain ⟨⟨gpu, stored⟩, inside, rfl⟩ := List.mem_map.mp member
  have found := Dict.get?_eq_some_iff.mpr inside
  rw [Dict.get?_update] at found
  cases told : tiers.get? gpu with
  | some other =>
    rw [told, Option.some_or, Option.some.injEq] at found
    exact found ▸ others other (List.mem_map.mpr ⟨_, Dict.get?_eq_some_iff.mp told, rfl⟩)
  | none =>
    rw [told, Option.none_or] at found
    exact known stored (List.mem_map.mpr ⟨_, Dict.get?_eq_some_iff.mp found, rfl⟩)

namespace PriorityConfigSource

/-- The last good payload has known tiers only. -/
theorem known_lastGood (codec : Codec) (nodeName : String)
    (past : List (Except ReadFailure PublishedConfigMap)) :
    KnownTiers ((lastGood codec nodeName past).getD .empty) := by
  induction past using List.reverseRecOn with
  | nil => exact fun _ absurdity => nomatch absurdity
  | append_singleton past read ih =>
    rw [lastGood_append_singleton]
    split
    · exact fun _ absurdity => nomatch absurdity
    · cases good : goodTiers codec nodeName read with
      | none =>
        rw [Option.none_or]
        exact ih
      | some tiers =>
        rw [Option.some_or, Option.getD_some]
        cases read with
        | error exc => cases good
        | ok configMap =>
          cases parsed : parse codec nodeName (configMap.data.get? assignmentsKey) with
          | error exc =>
            rw [goodTiers, parsed] at good
            cases good
          | ok found =>
            rw [goodTiers, parsed] at good
            cases good
            exact known_of_parse parsed

/-! ### A poll that may raise -/

section

variable {codec : Codec} {nodeName : String} {baseline : Dict ℤ String}
  {past : List (Except ReadFailure PublishedConfigMap)} {source : PriorityConfigSource}

theorem VersionsAgree.mono {more : List (Except ReadFailure PublishedConfigMap)}
    (agree : VersionsAgree (past ++ more)) : VersionsAgree past :=
  fun first second version inFirst inSecond =>
    agree first second version (List.mem_append_left _ inFirst) (List.mem_append_left _ inSecond)

/-- What a poll reads. -/
def readOf (source : PriorityConfigSource) (input : PollInput) :
    List (Except ReadFailure PublishedConfigMap) :=
  if source.hasApi || input.clientLoads then [input.read] else []

/-- The reads of a history, one poll at a time. -/
theorem reads_append_singleton (hasApi : Bool) (inputs : List PollInput) (input : PollInput) :
    reads hasApi (inputs ++ [input]) = reads hasApi inputs ++
      if hasApi || inputs.any PollInput.clientLoads || input.clientLoads then [input.read] else [] := by
  induction inputs generalizing hasApi with
  | nil =>
    rw [List.nil_append, reads, reads, List.any_nil, Bool.or_false, List.nil_append]
    split <;> rfl
  | cons first rest ih =>
    rw [List.cons_append, reads, reads, List.any_cons]
    by_cases loaded : (hasApi || first.clientLoads) = true
    · rw [if_pos loaded, if_pos loaded, ih true]
      have whole : (hasApi || (first.clientLoads || rest.any PollInput.clientLoads) ||
          input.clientLoads) = true := by
        rw [← Bool.or_assoc, loaded]
        rfl
      rw [whole]
      rfl
    · rw [if_neg loaded, if_neg loaded, ih false]
      have none : hasApi = false ∧ first.clientLoads = false := by
        simpa [Bool.or_eq_true, not_or] using loaded
      rw [none.1, none.2]
      rfl

/-- A refresh that raises has read a payload that `_parse` raises for, with an exception that is not
caught. -/
theorem refresh_error {read : Except ReadFailure PublishedConfigMap} {exc : PyError}
    (raised : source.refresh codec read = .error exc) : ∃ configMap, read = .ok configMap ∧
      parse codec source.nodeName (configMap.data.get? assignmentsKey) = .error exc ∧
        isMalformed exc = false := by
  unfold PriorityConfigSource.refresh at raised
  cases read with
  | error failure =>
    dsimp only at raised
    split at raised
    · cases raised
    · split at raised <;> cases raised
  | ok configMap =>
    dsimp only at raised
    split at raised
    · cases raised
    · split at raised
      · next other parsed =>
        split at raised
        · cases raised
        · next uncaught =>
          cases raised
          exact ⟨configMap, rfl, parsed, Bool.eq_false_of_not_eq_true uncaught⟩
      · cases raised

/-- A refresh that raises nothing keeps what a source is worth. -/
theorem Tracks.refresh_ok {read : Except ReadFailure PublishedConfigMap}
    {next : PriorityConfigSource} (tracks : Tracks codec nodeName baseline past source)
    (agree : VersionsAgree (past ++ [read])) (refreshed : source.refresh codec read = .ok next) :
    Tracks codec nodeName baseline (past ++ [read]) next ∧ next.hasApi = source.hasApi := by
  unfold PriorityConfigSource.refresh at refreshed
  cases read with
  | error failure =>
    dsimp only at refreshed
    by_cases missing : failure.status = some 404
    · rw [if_pos missing] at refreshed
      cases refreshed
      refine ⟨⟨tracks.sameNode, tracks.sameBaseline, ?_, fun _ _ remembered => nomatch remembered⟩, rfl⟩
      rw [lastGood_append_singleton, isNotFound, decide_eq_true missing]
      exact tracks.sameBaseline
    · rw [if_neg missing] at refreshed
      have found : isNotFound (.error failure) = false := decide_eq_false missing
      split at refreshed <;>
        · cases refreshed
          exact ⟨tracks.keep found rfl rfl rfl rfl rfl, rfl⟩
  | ok configMap =>
    dsimp only at refreshed
    split at refreshed
    · -- the version is the remembered one: the data are those of the last good payload
      next applied =>
      cases refreshed
      obtain ⟨same, tiers, good⟩ := tracks.applied agree applied
      have kept : lastGood codec nodeName (past ++ [.ok configMap]) =
          lastGood codec nodeName past := by
        rw [lastGood_append_singleton, same, good]
        rfl
      refine ⟨⟨tracks.sameNode, tracks.sameBaseline, ?_, fun version some remembered => ?_⟩, rfl⟩
      · rw [kept]
        exact tracks.snapshot
      · obtain ⟨earlier, others, member, own, parsed, stored⟩ :=
          tracks.version version some remembered
        exact ⟨earlier, others, List.mem_append_left _ member, own, parsed, kept.trans stored⟩
    · split at refreshed
      · next exc parsed =>
        rw [tracks.sameNode] at parsed
        have invalid : goodTiers codec nodeName (.ok configMap) = none := by
          rw [goodTiers, parsed]
          rfl
        split at refreshed
        · cases refreshed
          exact ⟨tracks.keep rfl invalid rfl rfl rfl rfl, rfl⟩
        · cases refreshed
      · next tiers parsed =>
        rw [tracks.sameNode] at parsed
        have good : lastGood codec nodeName (past ++ [.ok configMap]) = some tiers := by
          rw [lastGood_append_singleton, goodTiers, parsed]
          rfl
        cases refreshed
        refine ⟨⟨tracks.sameNode, tracks.sameBaseline, ?_, fun version _ own => ?_⟩, rfl⟩
        · rw [good, ← tracks.sameBaseline]
          rfl
        · exact ⟨configMap, tiers, by simp, own, parsed, good⟩

/-- **One poll.** It keeps what the source is worth, also where it raises; then it has read a payload
that `_parse` raises for with an exception that is not caught. -/
theorem Tracks.afterPoll (tracks : Tracks codec nodeName baseline past source) (input : PollInput)
    (agree : VersionsAgree (past ++ source.readOf input)) {outcome : Except PyError Unit}
    {next : PriorityConfigSource}
    (polled : RunningController.afterPoll codec source input = (outcome, next)) :
    Tracks codec nodeName baseline (past ++ source.readOf input) next ∧
      next.hasApi = (source.hasApi || input.clientLoads) ∧
      ∀ exc, outcome = .error exc → ∃ configMap, source.readOf input = [.ok configMap] ∧
        parse codec nodeName (configMap.data.get? assignmentsKey) = .error exc ∧
          isMalformed exc = false := by
  unfold readOf at agree ⊢
  unfold RunningController.afterPoll PriorityConfigSource.poll at polled
  by_cases loaded : (source.hasApi || input.clientLoads) = true
  · have withApi : Tracks codec nodeName baseline past { source with hasApi := true } :=
      ⟨tracks.sameNode, tracks.sameBaseline, tracks.snapshot, tracks.version⟩
    simp only [loaded, if_true] at agree polled ⊢
    cases refreshed : PriorityConfigSource.refresh codec { source with hasApi := true } input.read with
    | error exc =>
      rw [refreshed] at polled
      cases polled
      obtain ⟨configMap, read, parsed, uncaught⟩ := refresh_error refreshed
      have raises : parse codec nodeName (configMap.data.get? assignmentsKey) = .error exc :=
        tracks.sameNode ▸ parsed
      refine ⟨?_, rfl, fun other same => ?_⟩
      · rw [read]
        have invalid : goodTiers codec nodeName (.ok configMap) = none := by
          rw [goodTiers, raises]
          rfl
        exact tracks.keep rfl invalid rfl rfl rfl rfl
      · cases same
        exact ⟨configMap, by rw [read], raises, uncaught⟩
    | ok after =>
      rw [refreshed] at polled
      cases polled
      obtain ⟨kept, sameApi⟩ := withApi.refresh_ok agree refreshed
      refine ⟨kept, sameApi, fun _ none => ?_⟩
      cases none
  · have unset : (source.hasApi || input.clientLoads) = false := Bool.eq_false_of_not_eq_true loaded
    simp only [unset, Bool.false_eq_true, if_false, List.append_nil] at polled ⊢
    cases polled
    refine ⟨⟨tracks.sameNode, tracks.sameBaseline, tracks.snapshot, tracks.version⟩,
      (Bool.or_eq_false_iff.mp unset).1, fun _ none => ?_⟩
    cases none

end

end PriorityConfigSource

/-! ### Every round -/

namespace RunningController

section Rounds

variable {σ : Type} {actuator : Actuator σ} {codec : Codec} {nodeName : String}
  {baseline : Dict ℤ String} {self : RunningController σ}

/-- A brain that takes tiers. -/
def TakesTiers (self : RunningController σ) : Prop := ∃ brain, self.deciding.brain = .priorityPrs brain

/-- No pass swaps the brain. -/
theorem takesTiers_runDomain (takes : self.TakesTiers) (gpuByIndex : Option (Dict ℤ GpuSample))
    (moment : Moment) (domainName : String) :
    (self.runDomain actuator gpuByIndex moment domainName).2.TakesTiers := by
  obtain ⟨brain, isPriority⟩ := takes
  unfold TakesTiers
  rw [deciding_runDomain]
  rcases self.deciding.decideDomain_cases (self.source actuator gpuByIndex) moment domainName with
    unknown | ⟨other, adopted, rfl | ⟨_, _, call⟩⟩
  · rw [unknown]
    exact ⟨brain, isPriority⟩
  · rw [adopted]
    exact ⟨brain, isPriority⟩
  · rw [adopted]
    rw [isPriority] at call
    obtain ⟨_, _, returned⟩ := ok_of_bind call
    cases returned
    exact ⟨_, rfl⟩

theorem prioritySource_runDomain (gpuByIndex : Option (Dict ℤ GpuSample)) (moment : Moment)
    (domainName : String) : (self.runDomain actuator gpuByIndex moment domainName).2.prioritySource =
      self.prioritySource := by
  rcases runDomain_cases actuator gpuByIndex moment self domainName with
    ⟨exc, loop, _, ran⟩ | ⟨readings, adopted, decision, loop, _, _, _, ran⟩
  · rw [ran]
  · rw [ran]
    dsimp only
    split <;> rfl

/-- The source and the kind of brain of a controller after some reads. -/
structure Follows (codec : Codec) (nodeName : String) (baseline : Dict ℤ String)
    (past : List (Except ReadFailure PublishedConfigMap)) (hasApi : Bool)
    (state : RunningController σ) : Prop where
  takes : state.TakesTiers
  source : ∃ source, state.prioritySource = some source ∧ source.hasApi = hasApi ∧
    PriorityConfigSource.Tracks codec nodeName baseline past source

variable {past : List (Except ReadFailure PublishedConfigMap)} {hasApi : Bool}

/-- A tick leaves both alone. -/
theorem Follows.runOnce (follows : Follows codec nodeName baseline past hasApi self)
    (event : ControllerEvent) :
    Follows codec nodeName baseline past hasApi (self.runOnce actuator event).2 := by
  refine @runOnce_invariant σ actuator self (Follows codec nodeName baseline past hasApi) event
    (fun gpuByIndex _ state domainName before => ?_) (fun state before => ?_) follows
  · refine ⟨takesTiers_runDomain before.takes gpuByIndex event.moment domainName, ?_⟩
    rw [prioritySource_runDomain]
    exact before.source
  · unfold advance
    split
    · split
      · exact ⟨before.takes, before.source⟩
      · exact before
    · exact before

/-- What a poll adds to the reads. -/
def readBy (hasApi : Bool) (input : PollInput) : List (Except ReadFailure PublishedConfigMap) :=
  if hasApi || input.clientLoads then [input.read] else []

/-- What a round comes to: a tick with the tiers that are good by then, or a poll that raised. -/
inductive Round (codec : Codec) (nodeName : String) (baseline : Dict ℤ String)
    (past : List (Except ReadFailure PublishedConfigMap)) (actuator : Actuator σ)
    (event : ControllerEvent) (before after : RunningController σ) : Prop where
  | ticked (source : PriorityConfigSource) (brain : PriorityTieredPRSBrain)
      (tiers : brain.tiers =
        baseline.update ((PriorityConfigSource.lastGood codec nodeName past).getD .empty))
      (ran : after = (RunningController.runOnce actuator
        { before with
          prioritySource := some source
          deciding := { before.deciding with brain := .priorityPrs brain } } event).2)
  | raised (source : PriorityConfigSource) (configMap : PublishedConfigMap) (exc : PyError)
      (read : past.getLast? = some (.ok configMap))
      (parsed : parse codec nodeName (configMap.data.get? assignmentsKey) = .error exc)
      (uncaught : isMalformed exc = false) (same : after = { before with prioritySource := some source })

/-- **One round.** -/
theorem Follows.loopTick (follows : Follows codec nodeName baseline past hasApi self)
    (known : KnownTiers baseline) (event : ControllerEvent)
    (agree : PriorityConfigSource.VersionsAgree (past ++ readBy hasApi event.polled)) :
    Follows codec nodeName baseline (past ++ readBy hasApi event.polled)
        (hasApi || event.polled.clientLoads) (self.loopTick codec actuator event) ∧
      Round codec nodeName baseline (past ++ readBy hasApi event.polled) actuator event self
        (self.loopTick codec actuator event) := by
  obtain ⟨⟨brain, isPriority⟩, source, held, api, tracks⟩ := follows
  subst api
  cases polled : afterPoll codec source event.polled with
  | mk outcome after =>
    obtain ⟨kept, sameApi, raises⟩ := tracks.afterPoll event.polled agree polled
    cases outcome with
    | error exc =>
      have round : self.loopTick codec actuator event = { self with prioritySource := some after } := by
        simp only [RunningController.loopTick, refreshTiers, held, isPriority, polled]
      obtain ⟨configMap, read, parsed, uncaught⟩ := raises exc rfl
      rw [round]
      refine ⟨⟨⟨brain, isPriority⟩, after, rfl, sameApi, kept⟩, .raised after configMap exc ?_ parsed
        uncaught rfl⟩
      have added : readBy source.hasApi event.polled = [.ok configMap] := read
      rw [added, List.getLast?_append]
      rfl
    | ok done =>
      have fits : KnownTiers after.snapshot := by
        rw [kept.snapshot]
        exact known.update (PriorityConfigSource.known_lastGood codec nodeName _)
      have set : brain.setTiers after.snapshot =
          .ok { brain with tiers := after.snapshot, known := fits } := dif_pos fits
      have round : self.loopTick codec actuator event = (RunningController.runOnce actuator
          { self with
            prioritySource := some after
            deciding := { self.deciding with
              brain := .priorityPrs { brain with tiers := after.snapshot, known := fits } } }
          event).2 := by
        simp only [RunningController.loopTick, refreshTiers, held, isPriority, polled, setTiers, set]
      rw [round]
      refine ⟨Follows.runOnce ⟨⟨_, rfl⟩, after, rfl, sameApi, kept⟩ event, .ticked after _ ?_ rfl⟩
      exact kept.snapshot

/-- The reads of a run, one round at a time. -/
theorem reads_polled_append_singleton (hasApi : Bool) (events : List ControllerEvent)
    (event : ControllerEvent) :
    PriorityConfigSource.reads hasApi ((events ++ [event]).map ControllerEvent.polled) =
      PriorityConfigSource.reads hasApi (events.map ControllerEvent.polled) ++
        readBy (hasApi || (events.map ControllerEvent.polled).any PollInput.clientLoads)
          event.polled := by
  rw [List.map_append, List.map_singleton, PriorityConfigSource.reads_append_singleton]
  rfl

/-- Every run. -/
theorem Follows.rounds (follows : Follows codec nodeName baseline [] hasApi self)
    (known : KnownTiers baseline) (events : List ControllerEvent)
    (agree : PriorityConfigSource.VersionsAgree
      (PriorityConfigSource.reads hasApi (events.map ControllerEvent.polled))) :
    Follows codec nodeName baseline
      (PriorityConfigSource.reads hasApi (events.map ControllerEvent.polled))
      (hasApi || (events.map ControllerEvent.polled).any PollInput.clientLoads)
      (run (RunningController.loopTick codec actuator) self events) := by
  induction events using List.reverseRecOn with
  | nil =>
    rw [List.map_nil, List.any_nil, Bool.or_false]
    exact follows
  | append_singleton past event ih =>
    rw [reads_polled_append_singleton] at agree ⊢
    rw [run_append_singleton, List.map_append, List.any_append, List.map_singleton, List.any_cons,
      List.any_nil, Bool.or_false, ← Bool.or_assoc]
    exact ((ih agree.mono).loopTick known event agree).1

/-- **The tiers in force.** A controller with a priority brain and a source of published priorities over
known baseline tiers, after any history of rounds in which equal versions carry equal data: the next
round ticks with the baseline under the last good payload, its own read included, or its poll has read a
payload that raises what is not caught, and then the round changes nothing but the source. -/
theorem tiers_in_force (codec : Codec) (nodeName : String) {baseline : Dict ℤ String}
    (known : KnownTiers baseline) (hasApi : Bool) (takes : self.TakesTiers)
    (started : self.prioritySource = some (.new nodeName baseline hasApi))
    (events : List ControllerEvent) (event : ControllerEvent)
    (agree : PriorityConfigSource.VersionsAgree (PriorityConfigSource.reads hasApi
      ((events ++ [event]).map ControllerEvent.polled))) :
    Round codec nodeName baseline
      (PriorityConfigSource.reads hasApi ((events ++ [event]).map ControllerEvent.polled)) actuator
      event (run (RunningController.loopTick codec actuator) self events)
      (run (RunningController.loopTick codec actuator) self (events ++ [event])) := by
  have start : Follows codec nodeName baseline [] hasApi self :=
    ⟨takes, _, started, rfl, PriorityConfigSource.Tracks.new codec nodeName baseline hasApi⟩
  rw [reads_polled_append_singleton] at agree ⊢
  rw [run_append_singleton]
  exact ((start.rounds known events agree.mono).loopTick known event agree).2

end Rounds

/-- The demo with a priority brain, and a source without a client yet. -/
def tieredDemo : RunningController SimBackend :=
  { demoController with
    deciding := { demoController.deciding with
      brain := .priorityPrs
        { prs := { params := defaultParams }
          tiers := .empty
          known := fun _ member => nomatch member
          threshold := 6 / 10
          minCapW := 100 } }
    prioritySource := some (.new "node-a" .empty false) }

/-- The registry is published, and then unreachable: the second round ticks with the tiers that were
published. -/
theorem tiers_in_force_demo :
    let codec := PriorityConfigSource.boostCodec 10 "10"
    let publishes : ControllerEvent := { demoEvent with
      polled := ⟨true, .ok (PriorityConfigSource.published "1" (PriorityConfigSource.boostText "10"))⟩ }
    let fails : ControllerEvent := { demoEvent with polled := ⟨true, .error ⟨some 500⟩⟩ }
    ∃ source brain, brain.tiers.get? 0 = some "high" ∧
      run (loopTick codec simActuator) tieredDemo [publishes, fails] =
        (RunningController.runOnce simActuator
          { run (loopTick codec simActuator) tieredDemo [publishes] with
            prioritySource := some source
            deciding := { (run (loopTick codec simActuator) tieredDemo [publishes]).deciding with
              brain := .priorityPrs brain } } fails).2 := by
  intro codec publishes fails
  have agree : PriorityConfigSource.VersionsAgree (PriorityConfigSource.reads false
      (([publishes] ++ [fails]).map ControllerEvent.polled)) := by
    intro first second version isFirst isSecond _ _ _
    have only : ∀ configMap, .ok configMap ∈ PriorityConfigSource.reads false
        (([publishes] ++ [fails]).map ControllerEvent.polled) → configMap =
          PriorityConfigSource.published "1" (PriorityConfigSource.boostText "10") := by
      intro configMap member
      rcases List.mem_pair.mp member with same | same
      · exact Except.ok.inj same
      · cases same
    rw [only first isFirst, only second isSecond]
  have known : KnownTiers .empty := fun tier member => nomatch member
  have takes : tieredDemo.TakesTiers := ⟨_, rfl⟩
  have started : tieredDemo.prioritySource = some (.new "node-a" .empty false) := rfl
  have round := @tiers_in_force SimBackend simActuator tieredDemo codec "node-a" .empty known false
    takes started [publishes] fails agree
  cases round with
  | ticked source brain tiers ran =>
    refine ⟨source, brain, ?_, ran⟩
    rw [tiers]
    decide +kernel
  | raised source configMap exc read parsed uncaught same =>
    cases read

end RunningController

end Opendps.Controller
