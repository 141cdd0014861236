/-
**Digest suppression.**

The operator handles the events of the Pods, each Pod's in order, and prunes the digests from time to
time; it runs one handler at a time, while the Pods go on changing (`OperatorState.step`).

Between handlers it is `Idle`: each policy has seen some Pods, and what it saw is what it sees now or an
event to come will trigger. Handling an event keeps that (`Idle.handling`, `Handled.idle`). Pruning
keeps it only when it loses nothing (`PruneKeeps`): forgetting that a Pod mattered makes the operator
pass over the events that take it away. The server must also select what the operator compares, as it
does for policies that are written as labels (`Served.reconcilable`).
-/

import Opendps.Operator.WatchedHandlers
import Opendps.Operator.LabelSelectors

namespace Opendps.Operator

open Opendps.Lib

/-- The operator: what it watches, and the handler it is running, with the Pod whose event it handles. -/
structure OperatorState where
  watched : Watched
  running : Option (Option String × Handler Unit)

inductive OperatorEvent where
  | change (change : PodChange)
  | deliver (podUid : String)
  | prune
  | call

/-- The first event of a Pod has been handled. -/
def Watched.acknowledge (watched : Watched) : Option String → Watched
  | some podUid =>
    { watched with
      pending := Function.update watched.pending podUid (watched.pending podUid).tail }
  | none => watched

theorem Watched.pending_acknowledge (watched : Watched) (podUid other : String) :
    (watched.acknowledge (some podUid)).pending other =
      if other = podUid then (watched.pending podUid).tail else watched.pending other := by
  by_cases same : other = podUid
  · subst same
    exact (Function.update_self _ _ _).trans (if_pos rfl).symm
  · exact (Function.update_of_ne same _ _).trans (if_neg same).symm

namespace OperatorState

/-- The operator after a call of its handler, which ends when the handler has returned. -/
def afterCall (current : Option String) : Handler Unit × Watched → OperatorState
  | (.ret _, watched) => ⟨watched.acknowledge current, none⟩
  | (handler, watched) => ⟨watched, some (current, handler)⟩

/-- What happens next; a handler starts only when none is running. -/
def step (codec : Codec) (selects : String → Dict String String → Bool) (namespaceName : String)
    (state : OperatorState) : OperatorEvent → OperatorState
  | .change change => { state with watched := state.watched.change change }
  | .deliver podUid =>
    match state.running, state.watched.pending podUid with
    | none, event :: _ =>
      { state with running := some (some podUid, onPodEvent codec namespaceName event) }
    | _, _ => state
  | .prune =>
    match state.running with
    | none => { state with running := some (none, prunePodAssignmentDigests) }
    | some _ => state
  | .call =>
    match state.running with
    | none => state
    | some (current, handler) =>
      afterCall current (handler.step (Watched.handle selects) state.watched)

end OperatorState

section Suppression

variable {codec : Codec} {selects : String → Dict String String → Bool} {namespaceName : String}
  {policies : List JobPowerPolicy} {watched : Watched}

/-! ### Between handlers -/

/-- What holds while no event is being handled. -/
structure Idle (codec : Codec) (selects : String → Dict String String → Bool)
    (policies : List JobPowerPolicy) (watched : Watched) : Prop where
  watch : Watch policies none watched
  registered : Registered codec selects policies none watched

theorem Idle.drift {later : Watched} (idle : Idle codec selects policies watched)
    (drift : Drift policies watched later) : Idle codec selects policies later :=
  ⟨frame_watch.drift idle.watch drift, idle.registered.drift drift⟩

section Handling

variable {podUid : String} {event : WatchEvent} {rest : List WatchEvent}

theorem trailOf_self (watched : Watched) (podUid : String) (event : WatchEvent) :
    watched.trailOf policies (some (podUid, event)) podUid =
      (watched.trailOf policies none podUid).handled policies event := by
  simp only [Watched.trailOf, if_true]

theorem trailOf_of_ne (watched : Watched) (event : WatchEvent) {other : String}
    (different : other ≠ podUid) : watched.trailOf policies (some (podUid, event)) other =
      watched.trailOf policies none other := by
  simp only [Watched.trailOf, different, if_false]

/-- An event that is about to be handled keeps the trails tied to the Pods. -/
theorem Watch.handling (watch : Watch policies none watched)
    (first : watched.pending podUid = event :: rest) :
    Watch policies (some (podUid, event)) watched :=
  { watch with
    tracked := by
      intro other
      by_cases same : other = podUid
      · subst same
        rw [trailOf_self]
        exact (watch.tracked other).handled first
      · rw [trailOf_of_ne watched event same]
        exact watch.tracked other
    current := by
      rintro _ _ ⟨⟩
      exact ⟨rest, first⟩ }

/-- An event that will be passed over keeps what the policies saw covered. -/
theorem Sees.handling {policy : JobPowerPolicy} {seen : Dict String Pod}
    (sees : Sees policies none policy seen watched)
    (first : watched.pending podUid = event :: rest)
    (passed : triggers policies (watched.world.digests.get? podUid) event = false) :
    Sees policies (some (podUid, event)) policy seen watched :=
  { sees with
    watch := sees.watch.handling first
    covers := by
      intro other
      by_cases same : other = podUid
      · subst same
        rw [trailOf_self]
        exact (sees.covers other).handled first passed
      · rw [trailOf_of_ne watched event same]
        exact sees.covers other }

/-- **An event can be handled** when the operator is idle. -/
theorem Idle.handling (idle : Idle codec selects policies watched)
    (reconcilable : Reconcilable codec selects policies)
    (first : watched.pending podUid = event :: rest) :
    Returns selects policies (onPodEvent codec namespaceName event) (fun _ later =>
      Handled codec selects policies podUid event (watched.world.digests.get? podUid) later)
      watched := by
  obtain ⟨uid, named⟩ := idle.watch.addressed podUid event (first ▸ List.mem_cons_self)
  have handler : onPodEvent codec namespaceName event =
      onEventOf codec namespaceName podUid event := by
    rw [onPodEvent, uid]
    exact if_neg named
  rw [handler]
  refine onEventOf_returns (idle.watch.handling first) idle.registered.readable reconcilable
    fun passed => ⟨?_, idle.registered.readable, idle.registered.consistent⟩
  intro policy listed named unreserved
  obtain ⟨seen, sees, held⟩ := idle.registered.described policy listed named unreserved
  exact ⟨seen, sees.handling first passed, held⟩

/-- The trails are the same once the event that has been handled is taken from its queue. -/
theorem Handled.trailOf {before : Option CachedDigest}
    (handled : Handled codec selects policies podUid event before watched) (other : String) :
    (watched.acknowledge (some podUid)).trailOf policies none other =
      watched.trailOf policies (some (podUid, event)) other := by
  show Trail.mk (watched.world.digests.get? other)
    ((watched.acknowledge (some podUid)).pending other) = _
  rw [Watched.pending_acknowledge]
  by_cases same : other = podUid
  · subst same
    rw [if_pos rfl, trailOf_self, Watched.trailOf, Trail.handled, handled.digest, digestAfter_idem]
  · rw [if_neg same, trailOf_of_ne watched event same, Watched.trailOf]

/-- **Handling an event keeps the operator idle.** -/
theorem Handled.idle {before : Option CachedDigest}
    (handled : Handled codec selects policies podUid event before watched) :
    Idle codec selects policies (watched.acknowledge (some podUid)) := by
  have watch : Watch policies none (watched.acknowledge (some podUid)) :=
    { handled.watch with
      addressed := by
        intro other announced listed
        rw [Watched.pending_acknowledge] at listed
        split at listed
        · next same =>
          rw [same]
          exact handled.watch.addressed podUid announced (List.mem_of_mem_tail listed)
        · exact handled.watch.addressed other announced listed
      tracked := by
        intro other
        rw [handled.trailOf]
        exact handled.watch.tracked other
      current := nofun }
  refine ⟨watch, ?_, handled.registered.readable, handled.registered.consistent⟩
  intro policy listed named unreserved
  obtain ⟨seen, sees, held⟩ := handled.registered.described policy listed named unreserved
  refine ⟨seen, ⟨watch, fun other => ?_, sees.keyed, sees.readable⟩, held⟩
  rw [handled.trailOf]
  exact sees.covers other

end Handling

/-! ### Pruning -/

/-- Each digest that a prune forgets did not matter, or an event that matters is still to come for its
Pod. -/
def PruneKeeps (policies : List JobPowerPolicy) (live : List String) (watched : Watched) : Prop :=
  ∀ podUid cached, watched.world.digests.get? podUid = some cached → podUid ∉ live →
    cached.relevant = false ∨ ∃ event ∈ watched.pending podUid,
      isRelevant policies (podAssignmentDigest event.object) = true

/-- The digests of Pods that are not among the live ones are of Pods that are gone. -/
def OnlyGone (live : List String) (watched : Watched) : Prop :=
  ∀ podUid cached, watched.world.digests.get? podUid = some cached → podUid ∉ live →
    watched.lifeOf podUid = .gone

section Pruning

variable {live : List String}

/-- The namespace after a prune. -/
def Watched.pruned (watched : Watched) (live : List String) : Watched :=
  watched.withDigests ((watched.world.digests.keys.filter fun podUid =>
    decide (podUid ∉ live)).foldl Dict.pop watched.world.digests)

theorem Watched.get?_pruned (watched : Watched) (live : List String) (podUid : String) :
    (watched.pruned live).world.digests.get? podUid =
      if podUid ∈ live then watched.world.digests.get? podUid else none := by
  refine (Dict.get?_foldl_pop _ _ _).trans ?_
  simp only [List.mem_filter, decide_eq_true_eq]
  by_cases kept : podUid ∈ live
  · rw [if_neg (fun listed => listed.2 kept), if_pos kept]
  · rw [if_neg kept]
    split
    · rfl
    · next absent =>
      exact Dict.get?_eq_none_iff.mpr fun listed => absent ⟨listed, kept⟩

theorem trailOf_pruned (watched : Watched) (live : List String) (podUid : String) :
    (watched.pruned live).trailOf policies none podUid =
      if podUid ∈ live then watched.trailOf policies none podUid
      else ⟨none, watched.pending podUid⟩ := by
  rw [Watched.trailOf, Watched.get?_pruned]
  split <;> rfl

/-- The Pods that were listed are live, and a Pod with a digest was there once. -/
theorem Watch.onlyGone (watch : Watch policies none watched) :
    OnlyGone (liveUids watched.world.pods.values) watched := by
  intro podUid cached found missing
  have tracked := watch.tracked podUid
  cases life : watched.lifeOf podUid with
  | unborn =>
    rw [life] at tracked
    have absent : watched.world.digests.get? podUid = none := tracked.1
    rw [found] at absent
    cases absent
  | live pod =>
    obtain ⟨uid, named⟩ := watch.uid podUid pod life
    refine absurd (List.mem_filter.mpr ⟨List.mem_filterMap.mpr ⟨pod, ?_, uid⟩, ?_⟩) missing
    · exact List.mem_map.mpr
        ⟨(podUid, pod), Dict.get?_eq_some_iff.mp (Watched.lifeOf_eq_live.mp life), rfl⟩
    · exact decide_eq_true named
  | gone => rfl

/-- A Pod that is gone stays so. -/
theorem OnlyGone.change (onlyGone : OnlyGone live watched) (watch : Watch policies none watched)
    (change : PodChange) (readable : change.Readable policies) :
    OnlyGone live (watched.change change) := by
  rcases change_cases watch change readable with same | expired | ⟨other, event, happens⟩
  · rw [same]
    exact onlyGone
  · rw [expired]
    exact onlyGone
  · intro podUid cached found missing
    rw [happens.digests] at found
    have gone := onlyGone podUid cached found missing
    by_cases same : podUid = other
    · have step := happens.step
      rw [← same, gone] at step
      cases step
    · rw [happens.others podUid same]
      exact gone

theorem Watch.pruned (watch : Watch policies none watched) (onlyGone : OnlyGone live watched) :
    Watch policies none (watched.pruned live) :=
  { watch with
    flagged := by
      intro podUid
      rw [Watched.get?_pruned]
      split
      · exact watch.flagged podUid
      · exact flagged_none
    tracked := by
      intro podUid
      have tracked := watch.tracked podUid
      rw [trailOf_pruned]
      split
      · exact tracked
      · next missing =>
        show Tracked policies (watched.lifeOf podUid) _
        cases found : watched.world.digests.get? podUid with
        | none =>
          rw [Watched.trailOf, found] at tracked
          exact tracked
        | some cached =>
          rw [onlyGone podUid cached found missing] at tracked ⊢
          exact tracked.imp_left fun handled => ⟨rfl, handled.2⟩ }

/-- What is forgotten leaves covered what was. -/
theorem Sees.pruned {policy : JobPowerPolicy} {seen : Dict String Pod}
    (sees : Sees policies none policy seen watched) (onlyGone : OnlyGone live watched)
    (keeps : PruneKeeps policies live watched) :
    Sees policies none policy seen (watched.pruned live) :=
  { sees with
    watch := sees.watch.pruned onlyGone
    covers := by
      intro podUid
      rw [trailOf_pruned]
      split
      · exact sees.covers podUid
      · next missing =>
        refine (sees.covers podUid).imp_right fun triggered => ?_
        refine willTrigger_forget (sees.watch.flagged podUid) ?_ triggered
        cases found : watched.world.digests.get? podUid with
        | none => exact .inl rfl
        | some cached => exact keeps podUid cached found missing }

/-- **A prune that loses nothing keeps the operator idle.** -/
theorem Idle.pruned (idle : Idle codec selects policies watched) (onlyGone : OnlyGone live watched)
    (keeps : PruneKeeps policies live watched) : Idle codec selects policies (watched.pruned live) := by
  have watch := idle.watch.pruned onlyGone
  refine ⟨watch, fun policy listed named unreserved => ?_, idle.registered.readable,
    idle.registered.consistent⟩
  obtain ⟨seen, sees, held⟩ := idle.registered.described policy listed named unreserved
  exact ⟨seen, sees.pruned onlyGone keeps, held⟩

end Pruning

/-! ### Runs -/

/-- What the operator may be doing. -/
inductive Sound (codec : Codec) (selects : String → Dict String String → Bool)
    (policies : List JobPowerPolicy) : OperatorState → Prop where
  | idle {watched : Watched} (idle : Idle codec selects policies watched) :
    Sound codec selects policies ⟨watched, none⟩
  | handling {watched : Watched} {podUid : String} {event : WatchEvent}
    {before : Option CachedDigest} {handler : Handler Unit}
    (returns : Returns selects policies handler
      (fun _ later => Handled codec selects policies podUid event before later) watched) :
    Sound codec selects policies ⟨watched, some (some podUid, handler)⟩
  | listing {watched : Watched} (idle : Idle codec selects policies watched) :
    Sound codec selects policies ⟨watched, some (none, prunePodAssignmentDigests)⟩
  | forgetting {watched : Watched} {live : List String}
    (idle : Idle codec selects policies watched) (onlyGone : OnlyGone live watched) :
    Sound codec selects policies
      ⟨watched, some (none, .call (.pruneDigests live) fun _ => .ret (.ok ()))⟩

/-- A step that loses nothing: no Pod gets an annotation that a policy selecting it cannot read, and
no prune forgets what an event to come needs. -/
def Harmless (policies : List JobPowerPolicy) (state : OperatorState) : OperatorEvent → Prop
  | .change change => change.Readable policies
  | .call => ∀ live resume, state.running = some (none, .call (.pruneDigests live) resume) →
      PruneKeeps policies live state.watched
  | _ => True

/-- A handler that returns is run to its end. -/
theorem sound_afterCall {podUid : String} {event : WatchEvent} {before : Option CachedDigest}
    {handler : Handler Unit}
    (returns : Returns selects policies handler
      (fun _ later => Handled codec selects policies podUid event before later) watched) :
    Sound codec selects policies (OperatorState.afterCall (some podUid) (handler, watched)) := by
  cases handler with
  | ret outcome =>
    obtain ⟨_, _, handled⟩ := returns watched (Drift.refl watched)
    exact .idle handled.idle
  | call req resume => exact .handling returns

theorem Sound.change {state : OperatorState} (sound : Sound codec selects policies state)
    (change : PodChange) (readable : change.Readable policies) :
    Sound codec selects policies { state with watched := state.watched.change change } := by
  have drift := fun watched => drift_change watched change readable
  cases sound with
  | idle idle => exact .idle (idle.drift (drift _))
  | handling returns => exact .handling (returns.stable Drift.trans (drift _))
  | listing idle => exact .listing (idle.drift (drift _))
  | forgetting idle onlyGone =>
    exact .forgetting (idle.drift (drift _)) (onlyGone.change idle.watch change readable)

/-- **Each step that loses nothing keeps the operator sound.** -/
theorem Sound.step {state : OperatorState} (sound : Sound codec selects policies state)
    (reconcilable : Reconcilable codec selects policies) (event : OperatorEvent)
    (harmless : Harmless policies state event) :
    Sound codec selects policies (state.step codec selects namespaceName event) := by
  cases event with
  | change change => exact sound.change change harmless
  | deliver podUid =>
    cases sound with
    | @idle watched idle =>
      cases first : watched.pending podUid with
      | nil =>
        simp only [OperatorState.step, first]
        exact .idle idle
      | cons event rest =>
        simp only [OperatorState.step, first]
        exact .handling (idle.handling reconcilable first)
    | handling returns => exact .handling returns
    | listing idle => exact .listing idle
    | forgetting idle onlyGone => exact .forgetting idle onlyGone
  | prune =>
    cases sound with
    | idle idle => exact .listing idle
    | handling returns => exact .handling returns
    | listing idle => exact .listing idle
    | forgetting idle onlyGone => exact .forgetting idle onlyGone
  | call =>
    cases sound with
    | idle idle => exact .idle idle
    | handling returns => exact sound_afterCall (returns.step Drift.refl)
    | listing idle => exact .forgetting idle idle.watch.onlyGone
    | @forgetting watched live idle onlyGone =>
      exact .idle (idle.pruned onlyGone (harmless live _ rfl))

/-- What the operator relies on: the server selects as it documents, the entries that are written can
be read back, and the names of the policies differ. -/
structure Served (codec : Codec) (selects : String → Dict String String → Bool)
    (policies : List JobPowerPolicy) : Prop where
  server : SelectsByEquality selects
  entries : ∀ policy ∈ policies, ∀ matched assignments,
    ReadableEntry codec (codec.dumps (registryEntry policy matched assignments))
  distinct : (policies.map JobPowerPolicy.name).Nodup

theorem Served.reconcilable (served : Served codec selects policies)
    (written : ∀ policy ∈ policies, WrittenAsLabels policy.spec.matchLabels.sortedItems) :
    Reconcilable codec selects policies where
  alike policy listed := selectsAlike_of_written served.server (written policy listed)
  entries := served.entries
  distinct := served.distinct

/-- A namespace without Pods or digests, whose registry is up to date. -/
structure Fresh (codec : Codec) (selects : String → Dict String String → Bool)
    (namespaceName : String) (policies : List JobPowerPolicy) (state : OperatorState) : Prop where
  known : state.watched.world.policies = policies
  selectors : state.watched.world.selectors = none
  pods : state.watched.world.pods = .empty
  digests : state.watched.world.digests = .empty
  pending : ∀ podUid, state.watched.pending podUid = []
  born : state.watched.born = []
  running : state.running = none
  readable : ReadableData codec state.watched.world.registryData
  upToDate : ∀ policy ∈ policies, policy.name ≠ "" →
    UpToDate codec selects namespaceName policy state.watched.world

theorem Fresh.sound {state : OperatorState}
    (fresh : Fresh codec selects namespaceName policies state) :
    Sound codec selects policies state := by
  obtain ⟨watched, running⟩ := state
  have idle := fresh.running
  subst idle
  have unborn : ∀ podUid, watched.lifeOf podUid = .unborn := by
    intro podUid
    rw [Watched.lifeOf, fresh.pods, fresh.born]
    rfl
  have digests : ∀ podUid, watched.world.digests.get? podUid = none := by
    intro podUid
    rw [fresh.digests]
    rfl
  have watch : Watch policies none watched :=
    { known := fresh.known
      selectors := .inl fresh.selectors
      uid := fun podUid pod live => by cases (unborn podUid).symm.trans live
      readable := fun podUid pod live => by cases (unborn podUid).symm.trans live
      born := fun podUid pod live => by cases (unborn podUid).symm.trans live
      addressed := fun podUid event listed => by
        rw [fresh.pending podUid] at listed
        cases listed
      flagged := fun podUid => by
        rw [digests]
        exact flagged_none
      tracked := fun podUid => by
        rw [unborn]
        exact ⟨digests podUid, fresh.pending podUid⟩
      current := fun podUid event none => by cases none }
  refine .idle ⟨watch, fun policy listed named unreserved => ?_, fresh.readable, ?_⟩
  · exact ⟨watched.world.pods, ⟨watch, covers_self _ _ _ _, watch.keyed, watch.readablePods listed⟩,
      (fresh.upToDate policy listed named).holdsEntry unreserved⟩
  · rintro ⟨policy, listed, named⟩
    exact (fresh.upToDate policy listed named).consistent

/-- A full reconcile of the namespace would return and leave the registry as it is. -/
def Settled (codec : Codec) (selects : String → Dict String String → Bool)
    (namespaceName : String) (world : World) : Prop :=
  ∃ after, (reconcileJobPowerPoliciesForNamespace codec namespaceName).run (handle selects) world =
      (.ok (), after) ∧ ∀ key, after.registryData.get? key = world.registryData.get? key

/-- A Pod that was never there has no events. -/
theorem Watch.pending_eq_nil (watch : Watch policies none watched)
    (delivered : ∀ podUid ∈ watched.born, watched.pending podUid = []) (podUid : String) :
    watched.pending podUid = [] := by
  have tracked := watch.tracked podUid
  cases life : watched.lifeOf podUid with
  | unborn =>
    rw [life] at tracked
    exact tracked.2
  | live pod => exact delivered podUid (watch.born podUid pod life)
  | gone =>
    refine delivered podUid ?_
    by_contra unborn
    unfold Watched.lifeOf at life
    split at life
    · cases life
    · rw [if_neg unborn] at life
      cases life

/-- **With nothing left to handle the registry is settled.** -/
theorem Idle.settled (idle : Idle codec selects policies watched)
    (reconcilable : Reconcilable codec selects policies)
    (delivered : ∀ podUid ∈ watched.born, watched.pending podUid = []) :
    Settled codec selects namespaceName watched.world := by
  have readable : ∀ policy ∈ policies,
      ∀ pod ∈ matchingPods selects watched.world.pods.values policy, ReadableIndices pod := by
    intro policy listed pod matched
    obtain ⟨present, selected⟩ := (mem_matchingPods (reconcilable.alike policy listed)).mp matched
    exact idle.watch.readablePods listed pod present selected
  have stored : ∀ policy ∈ policies, policy.name ≠ "" → policy.name ≠ "resolved-assignments" →
      watched.world.registryData.get? (policyKey policy.name) =
        some (codec.dumps (entryOf selects watched.world.pods.values policy)) := by
    intro policy listed named unreserved
    have alike := reconcilable.alike policy listed
    obtain ⟨seen, sees, held⟩ := idle.registered.described policy listed named unreserved
    -- nothing is left to trigger, so what was seen is what there is
    have views : ∀ podUid, (seen.get? podUid).bind (viewOf policy) =
        (watched.world.pods.get? podUid).bind (viewOf policy) := by
      intro podUid
      rw [← Watched.pod?_lifeOf]
      exact eq_of_covered_nil (sees.covers podUid) (idle.watch.pending_eq_nil delivered podUid)
    have entries : entryOf selects seen.values policy =
        entryOf selects watched.world.pods.values policy := by
      refine entryOf_congr alike sees.keyed idle.watch.keyed (fun pod matched => ?_)
        (readable policy listed) views
      obtain ⟨present, selected⟩ := (mem_matchingPods alike).mp matched
      exact sees.readable pod present selected
    rw [held, entries]
  obtain ⟨after, ran, same⟩ := @run_reconcileEach_of_stored codec selects namespaceName
    watched.world ((sortedBy JobPowerPolicy.name policies).filter fun policy => policy.name ≠ "")
    (fun policy member => readable policy (mem_named.mp member).1)
    (fun policy member => stored policy (mem_named.mp member).1 (mem_named.mp member).2)
    (fun some => by
      obtain ⟨policy, member⟩ := List.exists_mem_of_ne_nil _ some
      obtain ⟨configMap, found, consistent⟩ :=
        idle.registered.consistent ⟨policy, mem_named.mp member⟩
      rw [World.registryData, found]
      exact consistent)
  refine ⟨after, ?_, same⟩
  rw [← ran, ← idle.watch.known]
  rfl

theorem Sound.settled {state : OperatorState} (sound : Sound codec selects policies state)
    (reconcilable : Reconcilable codec selects policies) (finished : state.running = none)
    (delivered : ∀ podUid ∈ state.watched.born, state.watched.pending podUid = []) :
    Settled codec selects namespaceName state.watched.world := by
  cases sound with
  | idle idle => exact idle.settled reconcilable delivered
  | handling returns => cases finished
  | listing idle => cases finished
  | forgetting idle onlyGone => cases finished

/-- **Digest suppression loses nothing** in a run whose steps lose nothing, where the labels of the
policies are written as labels: once every event has been handled, a full reconcile of the policies
against the Pods there are would change nothing. -/
theorem digests_lose_nothing (served : Served codec selects policies)
    (written : ∀ policy ∈ policies, WrittenAsLabels policy.spec.matchLabels.sortedItems)
    {start : OperatorState} (fresh : Fresh codec selects namespaceName policies start)
    {events : List OperatorEvent}
    (harmless : Along (OperatorState.step codec selects namespaceName) start
      (fun _ => Harmless policies) events)
    (finished : (run (OperatorState.step codec selects namespaceName) start events).running = none)
    (delivered : ∀ podUid ∈
      (run (OperatorState.step codec selects namespaceName) start events).watched.born,
      (run (OperatorState.step codec selects namespaceName) start events).watched.pending podUid =
        []) :
    Settled codec selects namespaceName
      (run (OperatorState.step codec selects namespaceName) start events).watched.world := by
  have reconcilable := served.reconcilable written
  have sound := run_invariant_of_along (fun _ state => Sound codec selects policies state)
    fresh.sound (fun _ event _ before now => before.step reconcilable event now) harmless
  exact sound.settled reconcilable finished delivered

end Suppression

/-! ### A Pod that loses its labels before it goes -/

def trainRegistry : Dict String String :=
  ⟨[("low-train.json", entryText "low" 0), ("resolved-assignments.json", aggregateText [])],
    by decide⟩

/-- A namespace with a policy and no Pods, whose registry says so. -/
def trainOperator : OperatorState where
  watched :=
    { world :=
        { registry := some ⟨trainRegistry, 1⟩
          revision := 1
          pods := .empty
          policies := [trainPolicy "low"]
          fresh := by
            rintro _ ⟨⟩
            exact le_rfl }
      pending := fun _ => []
      born := [] }
  running := none

def trainRun (events : List OperatorEvent) : OperatorState :=
  run (OperatorState.step trainCodec serverSelects "opendps") trainOperator events

/-- A Pod for training arrives, and its event is handled. -/
def podIsHandled : List OperatorEvent :=
  [.change (.create "pod-1" trainPod), .deliver "pod-1", .call, .call, .call, .call, .call, .call]

/-- It loses its labels and its annotation and goes; a prune runs before the two events are handled. -/
def prunedTooSoon : List OperatorEvent :=
  podIsHandled ++ [.change (.modify "pod-1" { trainPod with labels := .empty, annotations := .empty }),
    .change (.delete "pod-1"), .prune, .call, .call, .deliver "pod-1", .call, .call,
    .deliver "pod-1", .call, .call]

/-- It goes as it was; a prune runs before the event is handled. -/
def prunedInTime : List OperatorEvent :=
  podIsHandled ++ [.change (.delete "pod-1"), .prune, .call, .call, .deliver "pod-1", .call, .call,
    .call, .call, .call, .call]

/-- Every text can be read back by the train codec, or is not JSON to it. -/
theorem trainCodec_readable (raw : String) : ReadableEntry trainCodec raw := by
  have loads : trainCodec.loads = trainLoads := rfl
  rw [ReadableEntry, loads, trainLoads]
  split_ifs <;> trivial

theorem trainPolicy_served : Served trainCodec serverSelects [trainPolicy "low"] where
  server := serverSelects_selectsByEquality
  entries _ _ _ _ := trainCodec_readable _
  distinct := List.nodup_singleton _

theorem trainPolicy_written : ∀ policy ∈ [trainPolicy "low"],
    WrittenAsLabels policy.spec.matchLabels.sortedItems := by
  decide +kernel

theorem trainRegistry_consistent : Consistent trainCodec trainRegistry :=
  ⟨aggregateText [], ok_of_toOption (by decide +kernel), rfl⟩

theorem trainOperator_fresh : Fresh trainCodec serverSelects "opendps" [trainPolicy "low"]
    trainOperator where
  known := rfl
  selectors := rfl
  pods := rfl
  digests := rfl
  pending _ := rfl
  born := rfl
  running := rfl
  readable _ raw _ _ := trainCodec_readable raw
  upToDate policy listed _ := by
    rw [List.mem_singleton.mp listed]
    refine (upToDate_iff _).mpr ⟨resolvedAssignments_eq fun pod matched => ?_, ?_⟩
    · exact absurd (mem_of_mem_matchingPods matched) List.not_mem_nil
    · exact updateData_of_stored trainRegistry_consistent fun _ => rfl

/-- **A prune loses a Pod.** Its digest is forgotten, and with it that it mattered; the change that took
its labels and its deletion are both passed over, and the registry keeps it. -/
theorem prune_loses_pod :
    Served trainCodec serverSelects [trainPolicy "low"] ∧
      Fresh trainCodec serverSelects "opendps" [trainPolicy "low"] trainOperator ∧
      (trainRun prunedTooSoon).running = none ∧
      (∀ podUid ∈ (trainRun prunedTooSoon).watched.born,
        (trainRun prunedTooSoon).watched.pending podUid = []) ∧
      ¬ Settled trainCodec serverSelects "opendps" (trainRun prunedTooSoon).watched.world := by
  have ended : (trainRun prunedTooSoon).running.isNone = true ∧
      (∀ podUid ∈ (trainRun prunedTooSoon).watched.born,
        (trainRun prunedTooSoon).watched.pending podUid = []) ∧
      (trainRun prunedTooSoon).watched.world.registryData.get? "low-train.json" =
        some (entryText "low" 1) ∧
      ((reconcileJobPowerPoliciesForNamespace trainCodec "opendps").run (handle serverSelects)
        (trainRun prunedTooSoon).watched.world).2.registryData.get? "low-train.json" =
          some (entryText "low" 0) := by decide +kernel
  obtain ⟨finished, delivered, kept, reconciled⟩ := ended
  refine ⟨trainPolicy_served, trainOperator_fresh, Option.isNone_iff_eq_none.mp finished,
    delivered, ?_⟩
  rintro ⟨after, ran, same⟩
  have other : entryText "low" 0 ≠ entryText "low" 1 := by decide +kernel
  rw [ran, same, kept, Option.some.injEq] at reconciled
  exact other reconciled.symm

/-- Whether the next call of a handler forgets digests. -/
def isForgetting : Handler Unit → Bool
  | .call (.pruneDigests _) _ => true
  | _ => false

section Harmless

variable {state : OperatorState}

theorem harmless_of_not_forgetting
    (other : (state.running.any fun current => isForgetting current.2) = false) :
    Harmless [trainPolicy "low"] state .call := by
  intro live resume running
  rw [running] at other
  cases other

/-- Forgetting the only Pod that has a digest is harmless while an event that matters is to come. -/
theorem harmless_of_relevant (only : state.watched.world.digests.keys = ["pod-1"])
    (coming : ((state.watched.pending "pod-1").any fun event =>
      isRelevant [trainPolicy "low"] (podAssignmentDigest event.object)) = true) :
    Harmless [trainPolicy "low"] state .call := by
  refine fun live resume running podUid cached found missing => .inr ?_
  have listed : podUid ∈ state.watched.world.digests.keys := Dict.mem_keys_iff.mpr ⟨cached, found⟩
  rw [only, List.mem_singleton] at listed
  rw [listed]
  exact List.any_eq_true.mp coming

end Harmless

/-- Whether an event is a deletion, or not a change and forgets no digests. -/
def isCalm (state : OperatorState) : OperatorEvent → Bool
  | .change (.delete _) => true
  | .change _ => false
  | .call => !(state.running.any fun current => isForgetting current.2)
  | _ => true

def areCalm (state : OperatorState) : List OperatorEvent → Bool
  | [] => true
  | event :: rest => isCalm state event &&
      areCalm (state.step trainCodec serverSelects "opendps" event) rest

theorem harmless_of_areCalm {state : OperatorState} {events : List OperatorEvent}
    (calm : areCalm state events = true) :
    Along (OperatorState.step trainCodec serverSelects "opendps") state
      (fun _ => Harmless [trainPolicy "low"]) events := by
  induction events generalizing state with
  | nil => exact along_nil
  | cons event rest ih =>
    rw [areCalm, Bool.and_eq_true] at calm
    obtain ⟨now, later⟩ := calm
    refine along_cons.mpr ⟨?_, ih later⟩
    cases event with
    | change change =>
      cases change with
      | delete podUid => trivial
      | create podUid pod => cases now
      | modify podUid pod => cases now
      | expireSelectors => cases now
    | deliver podUid => trivial
    | prune => trivial
    | call => exact harmless_of_not_forgetting (Bool.not_eq_true' _ ▸ now)

theorem prunedInTime_harmless :
    Along (OperatorState.step trainCodec serverSelects "opendps") trainOperator
      (fun _ => Harmless [trainPolicy "low"]) prunedInTime := by
  have readable : Readable [trainPolicy "low"] trainPod := fun _ _ _ => trainPod_readable
  have split : prunedInTime = .change (.create "pod-1" trainPod) ::
      ([.deliver "pod-1", .call, .call, .call, .call, .call, .call, .change (.delete "pod-1"),
        .prune, .call] ++ .call :: [.deliver "pod-1", .call, .call, .call, .call, .call, .call]) :=
    rfl
  rw [split]
  refine along_cons.mpr ⟨readable, along_append.mpr ⟨harmless_of_areCalm (by decide +kernel),
    along_cons.mpr ⟨?_, harmless_of_areCalm (by decide +kernel)⟩⟩⟩
  -- the prune forgets the Pod, whose deletion is still to come
  exact harmless_of_relevant (by decide +kernel) (by decide +kernel)

/-- A prune that forgets a Pod whose deletion is still to come loses nothing. -/
theorem digests_lose_nothing_pruned_in_time :
    Settled trainCodec serverSelects "opendps" (trainRun prunedInTime).watched.world := by
  have ended : (trainRun prunedInTime).running.isNone = true ∧
      ∀ podUid ∈ (trainRun prunedInTime).watched.born,
        (trainRun prunedInTime).watched.pending podUid = [] := by decide +kernel
  unfold trainRun at ended ⊢
  exact digests_lose_nothing trainPolicy_served trainPolicy_written trainOperator_fresh
    prunedInTime_harmless (Option.isNone_iff_eq_none.mp ended.1) ended.2

end Opendps.Operator
