/-
**Concurrent reconciles of one policy.**

Any number of reconciles of one policy run at once, their calls interleaved with each other and with
changes of the Pods. Each publishes the entry of the Pods it listed with its first call, however old
they are when the write gets through: the compare-and-swap guards the registry, not the list.

So the registry ends with the entry of the Pods that the *last* reconcile to return had listed
(`history_afterReconciles`), and `reconciles_upToDate_iff` says when that is the entry of the Pods
there are in the end. `stale_reconcile_wins` is a run in which it is not.
-/

import Opendps.Operator.Reconcile

namespace Opendps.Operator

open Opendps.Lib

/-! ### A reconcile next to others -/

section Safe

variable {codec : Codec} {selects : String → Dict String String → Bool} {namespaceName : String}
  {policy : JobPowerPolicy}

/-- A handler that goes on after a write is safe when the write is. -/
theorem safe_andThen_ret {α β : Type} {policyName : String} {entry : Option Json}
    {first : Handler α} {value : β} {world : World}
    (safe : first.Safe (handle selects) Rely (WriteStep codec policyName entry)
      (fun _ _ => True) world) :
    (andThen first fun _ => .ret (.ok value)).Safe (handle selects) Rely
      (WriteStep codec policyName entry) (fun _ _ => True) world := by
  refine Prog.Safe.bind Rely.refl (safe.mono (fun before after result within => ?_)
    fun outcome later _ => ?_)
  · -- the outcome of the write is an error exactly when that of the handler is
    rcases result with _ | outcome
    · exact within
    · cases outcome <;> exact within
  · cases outcome <;> exact fun _ _ => trivial

/-- Nothing is published before the first call of the write. -/
theorem result_publishMatched (pods : List Pod) :
    (publishMatched codec namespaceName policy pods).result?.any isOk = false := by
  unfold publishMatched
  split <;> rfl

/-- The assignments of the Pods a policy matches can be read. -/
def Resolves (selects : String → Dict String String → Bool) (policy : JobPowerPolicy)
    (pods : List Pod) : Prop :=
  resolvedAssignments policy (matchingPods selects pods policy) =
    .ok (assignmentsOf selects pods policy)

/-- What publishes the Pods a policy matches is a write of their entry. It returns only when their
assignments can be read. -/
theorem publishMatched_safe (pods : List Pod) (world : World) :
    (publishMatched codec namespaceName policy (matchingPods selects pods policy)).Safe
      (handle selects) Rely (WriteStep codec policy.name (some (entryOf selects pods policy)))
      (fun outcome _ => isOk outcome = true → Resolves selects policy pods) world := by
  unfold publishMatched
  cases resolved : resolvedAssignments policy (matchingPods selects pods policy) with
  | error exc => exact fun _ _ raised => (Bool.false_ne_true raised).elim
  | ok assignments =>
    have listed : assignments = assignmentsOf selects pods policy := by
      rw [assignmentsOf, resolved]
      rfl
    have resolves : Resolves selects policy pods := resolved.trans (congrArg Except.ok listed)
    have write := @safe_andThen_ret codec selects _ _ policy.name _ _
      (statusCounts policy (matchingPods selects pods policy).length) world
      (@writeBoostRegistry_safe codec namespaceName policy.name
        (some (registryEntry policy (matchingPods selects pods policy).length assignments))
        selects world)
    rw [entryOf, ← listed]
    refine write.mono (fun _ _ _ within => within) ?_
    exact fun _ _ _ _ => resolves

/-- A reconcile begins with a call. -/
theorem reconcile_eq_call :
    ∃ req resume, reconcileJobPowerPolicy codec namespaceName policy = .call req resume := by
  unfold reconcileJobPowerPolicy listMatchingPods
  split <;> exact ⟨_, _, rfl⟩

/-- Wherever it starts, a reconcile is a write of the entry of the Pods there are. -/
theorem reconcile_startsSafe :
    Lib.Pool.StartsSafe (handle selects) Rely
      (fun start => WriteStep codec policy.name (some (entryOf selects start.pods.values policy)))
      (fun start outcome _ => isOk outcome = true → Resolves selects policy start.pods.values)
      (reconcileJobPowerPolicy codec namespaceName policy) := by
  intro world
  have safe := @publishMatched_safe codec selects namespaceName policy world.pods.values world
  by_cases unlabelled : policy.spec.matchLabels.items.isEmpty = true
  · -- no labels: the Pods are not listed, and none match
    have matched : matchingPods selects world.pods.values policy = [] := if_pos unlabelled
    have direct : reconcileJobPowerPolicy codec namespaceName policy =
        publishMatched codec namespaceName policy [] := by
      rw [reconcileJobPowerPolicy, listMatchingPods, if_pos unlabelled]
      rfl
    rw [matched] at safe
    rw [direct]
    exact ⟨safe.guar_call Rely.refl, safe.step Rely.refl⟩
  · have matched : matchingPods selects world.pods.values policy =
        world.pods.values.filter fun pod =>
          selects (labelSelector policy.spec.matchLabels) pod.labels := if_neg unlabelled
    have listing : (reconcileJobPowerPolicy codec namespaceName policy).step (handle selects) world =
        (publishMatched codec namespaceName policy (matchingPods selects world.pods.values policy),
          world) := by
      rw [reconcileJobPowerPolicy, listMatchingPods, if_neg unlabelled, matched]
      rfl
    rw [listing]
    exact ⟨writeStep_of_same (result_publishMatched _), safe⟩

end Safe

/-! ### The pool of reconciles -/

/-- A change of the Pods. -/
def changePods (world : World) (pods : Dict String Pod) : World := { world with pods := pods }

theorem rely_changePods (world : World) (pods : Dict String Pod) :
    Rely world (changePods world pods) := ⟨.inl rfl, le_rfl⟩

/-- A call of one of the reconciles, or a change of the Pods. -/
abbrev ReconcileEvent (ι : Type) := PoolEvent ι (Dict String Pod)

/-- A world and some handlers that return the counts of a policy. -/
abbrev ReconcilePool (ι : Type) := Lib.Pool Answer ι (Except OperatorError (ℕ × ℕ)) World

section Pool

variable {ι : Type} [DecidableEq ι] (selects : String → Dict String String → Bool)
  (pool : ReconcilePool ι)

/-- The pool after some calls and changes. -/
def afterReconciles (events : List (ReconcileEvent ι)) : ReconcilePool ι :=
  run (Lib.Pool.step (handle selects) changePods) pool events

/-- The Pods a reconcile lists: those there are when it makes its first call. -/
def listedPods (events : List (ReconcileEvent ι)) (i : ι) : List Pod :=
  ((pool.startedAt (handle selects) changePods events i).map fun start => start.pods.values).getD []

/-- The reconciles that have returned without raising, in the order in which they did. -/
def returnedReconciles (events : List (ReconcileEvent ι)) : List ι :=
  pool.completions isOk (handle selects) changePods events

/-- The writes of the reconciles that have returned. -/
def returnedWrites (policy : JobPowerPolicy) (events : List (ReconcileEvent ι)) :
    List RegistryWrite :=
  (returnedReconciles selects pool events).map fun i =>
    ⟨policy.name, some (entryOf selects (listedPods selects pool events i) policy)⟩

theorem afterReconciles_append (past : List (ReconcileEvent ι)) (event : ReconcileEvent ι) :
    afterReconciles selects pool (past ++ [event]) =
      (afterReconciles selects pool past).step (handle selects) changePods event :=
  run_append_singleton past event

variable {selects pool} {codec : Codec} {namespaceName : String} {policy : JobPowerPolicy}
  (reconciles : ∀ i, pool.progs i = reconcileJobPowerPolicy codec namespaceName policy)

include reconciles

omit [DecidableEq ι] in
theorem not_returned_of_reconciles (i : ι) (value : Except OperatorError (ℕ × ℕ)) :
    pool.progs i ≠ .ret value := by
  intro returned
  obtain ⟨req, resume, call⟩ := @reconcile_eq_call codec namespaceName policy
  rw [reconciles, call] at returned
  cases returned

theorem mem_returnedReconciles {events : List (ReconcileEvent ι)} {i : ι} :
    i ∈ returnedReconciles selects pool events ↔
      ∃ counts, (afterReconciles selects pool events).progs i = .ret (.ok counts) := by
  refine ((Pool.completions_spec isOk (not_returned_of_reconciles reconciles) events).2 i).trans ?_
  constructor
  · rintro ⟨outcome, counted, returned⟩
    cases outcome with
    | error exc => cases counted
    | ok counts => exact ⟨counts, returned⟩
  · rintro ⟨counts, returned⟩
    exact ⟨.ok counts, rfl, returned⟩

/-- A reconcile that has returned has started. -/
theorem started_of_returned {events : List (ReconcileEvent ι)} {i : ι}
    (returned : i ∈ returnedReconciles selects pool events) :
    ∃ start, pool.startedAt (handle selects) changePods events i = some start := by
  obtain ⟨counts, done⟩ := (mem_returnedReconciles reconciles).mp returned
  cases started : pool.startedAt (handle selects) changePods events i with
  | some start => exact ⟨start, rfl⟩
  | none =>
    rw [afterReconciles, Pool.progs_of_not_started started] at done
    exact absurd done (not_returned_of_reconciles reconciles i _)

/-- What a reconcile that has returned listed does not change any more. -/
theorem listedPods_append {past : List (ReconcileEvent ι)} {i : ι}
    (returned : i ∈ returnedReconciles selects pool past) (event : ReconcileEvent ι) :
    listedPods selects pool (past ++ [event]) i = listedPods selects pool past i := by
  obtain ⟨start, started⟩ := started_of_returned reconciles returned
  unfold listedPods
  rw [Pool.startedAt_append_singleton, started, Option.some_or]

/-- A reconcile that has started is a write of the entry of the Pods it listed. -/
theorem safe_of_started {events : List (ReconcileEvent ι)} {i : ι} {start : World}
    (started : pool.startedAt (handle selects) changePods events i = some start) :
    ((afterReconciles selects pool events).progs i).Safe (handle selects) Rely
      (WriteStep codec policy.name (some (entryOf selects start.pods.values policy)))
      (fun outcome _ => isOk outcome = true → Resolves selects policy start.pods.values)
      (afterReconciles selects pool events).world := by
  have starts : ∀ j, Lib.Pool.StartsSafe (handle selects) Rely
      (fun start => WriteStep codec policy.name (some (entryOf selects start.pods.values policy)))
      (fun start outcome _ => isOk outcome = true → Resolves selects policy start.pods.values)
      (pool.progs j) := by
    intro j
    rw [reconciles j]
    exact reconcile_startsSafe
  have compatible : ∀ (_ : ι) (start before after : World)
      (result : Option (Except OperatorError (ℕ × ℕ))), WriteStep codec policy.name
        (some (entryOf selects start.pods.values policy)) before after result →
          Rely before after := fun _ _ _ _ _ within => within.1
  exact Pool.run_startsSafe Rely.refl Rely.trans compatible rely_changePods starts events i start
    started

/-- The next call of a reconcile writes the entry of the Pods it listed, or nothing. -/
theorem reconcile_within (past : List (ReconcileEvent ι)) (i : ι) (req : Request)
    (resume : Answer req → Handler (ℕ × ℕ))
    (current : (afterReconciles selects pool past).progs i = .call req resume) :
    WriteStep codec policy.name
      (some (entryOf selects (listedPods selects pool (past ++ [.thread i]) i) policy))
      (afterReconciles selects pool past).world
      (handle selects req (afterReconciles selects pool past).world).2
      (resume (handle selects req (afterReconciles selects pool past).world).1).result? := by
  rw [listedPods, Pool.startedAt_append_singleton, ← afterReconciles]
  cases started : pool.startedAt (handle selects) changePods past i with
  | none =>
    have first := (@reconcile_startsSafe codec selects namespaceName policy
      (afterReconciles selects pool past).world).1
    have unstarted : (afterReconciles selects pool past).progs i = pool.progs i :=
      Pool.progs_of_not_started started
    rw [← reconciles i, ← unstarted, current] at first
    simp only [PoolEvent.isThread, decide_true, if_true, Option.none_or, Option.map_some,
      Option.getD_some]
    exact first
  | some start =>
    have safe := safe_of_started reconciles started
    rw [current] at safe
    exact safe.guar_call Rely.refl

/-- **In every reachable state the registry holds the history of the reconciles that have returned**,
each with the entry of the Pods it listed. -/
theorem history_afterReconciles (events : List (ReconcileEvent ι)) :
    History codec pool.world (returnedWrites selects pool policy events)
      (afterReconciles selects pool events).world := by
  induction events using List.reverseRecOn with
  | nil => exact History.start codec pool.world
  | append_singleton past event ih =>
    have writes : returnedWrites selects pool policy (past ++ [event]) =
        returnedWrites selects pool policy past ++
          ((afterReconciles selects pool past).completes isOk (handle selects)
            event).toList.map fun i => ⟨policy.name,
              some (entryOf selects (listedPods selects pool (past ++ [event]) i) policy)⟩ := by
      rw [returnedWrites, returnedReconciles, Pool.completions_append_singleton, List.map_append,
        ← returnedReconciles, ← afterReconciles, returnedWrites]
      refine congrArg (· ++ _) (List.map_congr_left fun i returned => ?_)
      rw [listedPods_append reconciles returned]
    rw [writes, afterReconciles_append]
    cases event with
    | change pods =>
      rw [Pool.completes, Option.toList_none, List.map_nil, List.append_nil]
      exact ih.congr rfl
    | thread i =>
      have next := ih.step_within (reconcile_within reconciles past i)
      rw [Pool.step_thread, Pool.completes_thread, apply_ite (List.map _)]
      exact next

/-- When the Pods listed by the reconcile that returned last have the entry the policy holds. -/
theorem entry_of_last {events : List (ReconcileEvent ι)} {last : ι}
    (returnedLast : (returnedReconciles selects pool events).getLast? = some last)
    (named : policy.name ≠ "resolved-assignments") :
    (afterReconciles selects pool events).world.registryData.get? (policyKey policy.name) =
      some (codec.dumps (entryOf selects (listedPods selects pool events last) policy)) := by
  obtain ⟨earlier, split⟩ := List.getLast?_eq_some_iff.mp returnedLast
  rw [(history_afterReconciles reconciles events).entries _
    (policyKey_ne_resolvedAssignmentsKey named), returnedWrites, split, List.map_append,
    List.map_singleton, History.lastWritten_append_singleton, if_pos rfl]
  rfl

end Pool

/-! ### When the Pods stop changing -/

section Still

variable {ι : Type} [DecidableEq ι] {selects : String → Dict String String → Bool}
  {pool : ReconcilePool ι}

theorem pods_handle (req : Request) (world : World) : (handle selects req world).2.pods =
    world.pods := by
  unfold handle
  split <;> try rfl
  all_goals split <;> try rfl
  all_goals split <;> rfl

theorem pods_step_thread (i : ι) :
    (pool.step (handle selects) changePods (.thread i)).world.pods = pool.world.pods := by
  rw [Pool.step_thread]
  cases pool.progs i with
  | ret value => rfl
  | call req resume => exact pods_handle req pool.world

/-- The Pods are the same after any events but their own changes. -/
theorem pods_afterReconciles_append {early late : List (ReconcileEvent ι)}
    (still : ∀ pods, PoolEvent.change pods ∉ late) :
    (afterReconciles selects pool (early ++ late)).world.pods =
      (afterReconciles selects pool early).world.pods := by
  induction late using List.reverseRecOn with
  | nil => rw [List.append_nil]
  | append_singleton past event ih =>
    rw [← List.append_assoc, afterReconciles_append]
    cases event with
    | change pods => exact absurd (List.mem_append_right _ (List.mem_singleton_self _)) (still pods)
    | thread i =>
      rw [pods_step_thread]
      exact ih fun pods listed => still pods (List.mem_append_left _ listed)

/-- A reconcile that starts once the Pods have stopped changing lists the final ones. -/
theorem pods_of_started_late {early late : List (ReconcileEvent ι)} {i : ι} {start : World}
    (still : ∀ pods, PoolEvent.change pods ∉ late)
    (unstarted : pool.startedAt (handle selects) changePods early i = none)
    (started : pool.startedAt (handle selects) changePods (early ++ late) i = some start) :
    start.pods = (afterReconciles selects pool (early ++ late)).world.pods := by
  rw [pods_afterReconciles_append still]
  induction late using List.reverseRecOn generalizing start with
  | nil =>
    rw [List.append_nil, unstarted] at started
    cases started
  | append_singleton past event ih =>
    have stillPast : ∀ pods, PoolEvent.change pods ∉ past :=
      fun pods listed => still pods (List.mem_append_left _ listed)
    rw [← List.append_assoc, Pool.startedAt_append_singleton, Option.or_eq_some_iff] at started
    rcases started with before | ⟨_, now⟩
    · exact ih stillPast before
    · rw [Option.ite_none_right_eq_some, Option.some.injEq] at now
      rw [← now.2]
      exact pods_afterReconciles_append stillPast

/-- **When concurrent reconciles leave the registry up to date.** The Pods stop changing at some
point, a reconcile starts after it, and all reconciles return. Then the registry is what one more
reconcile would make it if and only if the reconcile that returned last had listed Pods with the
same entry as the final ones. -/
theorem reconciles_upToDate_iff {codec : Codec} {namespaceName : String} {policy : JobPowerPolicy}
    (reconciles : ∀ i, pool.progs i = reconcileJobPowerPolicy codec namespaceName policy)
    (early late : List (ReconcileEvent ι)) (still : ∀ pods, PoolEvent.change pods ∉ late)
    (lister : ι) (unstarted : pool.startedAt (handle selects) changePods early lister = none)
    (returned : ∀ i, ∃ counts,
      (afterReconciles selects pool (early ++ late)).progs i = .ret (.ok counts)) :
    UpToDate codec selects namespaceName policy (afterReconciles selects pool (early ++ late)).world ↔
      policy.name = "resolved-assignments" ∨
        ∃ last, (returnedReconciles selects pool (early ++ late)).getLast? = some last ∧
          codec.dumps (entryOf selects (listedPods selects pool (early ++ late) last) policy) =
            codec.dumps (entryOf selects
              (afterReconciles selects pool (early ++ late)).world.pods.values policy) := by
  have listerReturned : lister ∈ returnedReconciles selects pool (early ++ late) :=
    (mem_returnedReconciles reconciles).mpr (returned lister)
  obtain ⟨last, returnedLast⟩ : ∃ last,
      (returnedReconciles selects pool (early ++ late)).getLast? = some last :=
    Option.isSome_iff_exists.mp (List.getLast?_isSome.mpr (List.ne_nil_of_mem listerReturned))
  constructor
  · intro upToDate
    by_cases named : policy.name = "resolved-assignments"
    · exact .inl named
    · refine .inr ⟨last, returnedLast, Option.some.inj ?_⟩
      rw [← entry_of_last reconciles returnedLast named, upToDate.holdsEntry named]
  · intro agrees
    obtain ⟨start, started⟩ := started_of_returned reconciles listerReturned
    have resolves : Resolves selects policy
        (afterReconciles selects pool (early ++ late)).world.pods.values := by
      obtain ⟨counts, done⟩ := returned lister
      have safe := safe_of_started reconciles started
      rw [done] at safe
      rw [← pods_of_started_late still unstarted started]
      exact safe _ (Rely.refl _) rfl
    refine (upToDate_iff policy).mpr ⟨resolves, ?_⟩
    obtain ⟨configMap, stored, consistent⟩ := (history_afterReconciles reconciles
      (early ++ late)).consistent fun none => List.ne_nil_of_mem listerReturned
        (List.map_eq_nil_iff.mp none)
    have data : (afterReconciles selects pool (early ++ late)).world.registryData =
        configMap.data := by
      rw [World.registryData, stored]
      rfl
    rw [data]
    refine updateData_of_stored consistent fun named => ?_
    rcases agrees with other | ⟨winner, returnedWinner, same⟩
    · exact absurd other named
    · rw [← data, entry_of_last reconciles returnedWinner named, same]

end Still

/-! ### Two reconciles and a new Pod -/

/-- Two reconciles of a policy, in a namespace without Pods and without a registry. -/
def trainPool : ReconcilePool Bool where
  world :=
    { registry := none, revision := 0, pods := .empty, policies := [trainPolicy "low"]
      fresh := fresh_empty }
  progs _ := reconcileJobPowerPolicy trainCodec "opendps" (trainPolicy "low")

/-- One reconcile lists no Pods; then the Pod comes. -/
def podArrives : List (ReconcileEvent Bool) := [.thread false, .change trainPods]

/-- The other reconcile runs to its end, and after it the first one. -/
def staleLast : List (ReconcileEvent Bool) :=
  [.thread true, .thread true, .thread true, .thread false, .thread false]

/-- The first reconcile runs to its end, and after it the other one. -/
def freshLast : List (ReconcileEvent Bool) :=
  [.thread true, .thread false, .thread false, .thread true, .thread true]

theorem no_changes {late : List (ReconcileEvent Bool)} (calls : late = staleLast ∨ late = freshLast)
    (pods : Dict String Pod) : PoolEvent.change pods ∉ late := by
  rcases calls with rfl | rfl
  · simp [staleLast]
  · simp [freshLast]

/-- Handlers that have returned without raising. -/
theorem returned_of_result {ι : Type} {pool : ReconcilePool ι}
    (results : ∀ i, (pool.progs i).result?.any isOk = true) (i : ι) :
    ∃ counts, pool.progs i = .ret (.ok counts) := by
  obtain ⟨outcome, found, counted⟩ := (Option.any_eq_true _ _).mp (results i)
  cases outcome with
  | error exc => cases counted
  | ok counts => exact ⟨counts, Prog.result?_eq_some.mp found⟩

/-- **A stale list wins.** The reconcile that listed no Pods returns last; although the other one has
published the Pod, and the Pod stays, the registry ends without it. -/
theorem stale_reconcile_wins :
    (∀ pods, PoolEvent.change pods ∉ staleLast) ∧
      trainPool.startedAt (handle trainSelects) changePods podArrives true = none ∧
      (∀ i, ∃ counts,
        (afterReconciles trainSelects trainPool (podArrives ++ staleLast)).progs i =
          .ret (.ok counts)) ∧
      ¬ UpToDate trainCodec trainSelects "opendps" (trainPolicy "low")
        (afterReconciles trainSelects trainPool (podArrives ++ staleLast)).world := by
  obtain ⟨results, stale⟩ :
      (∀ i, ((afterReconciles trainSelects trainPool
        (podArrives ++ staleLast)).progs i).result?.any isOk = true) ∧
      (afterReconciles trainSelects trainPool
        (podArrives ++ staleLast)).world.registryData.get? (policyKey (trainPolicy "low").name) =
          some (entryText "low" 0) := by decide +kernel
  refine ⟨no_changes (.inl rfl), rfl, returned_of_result results, fun upToDate => ?_⟩
  have held := upToDate.holdsEntry (by decide)
  have pods : (afterReconciles trainSelects trainPool (podArrives ++ staleLast)).world.pods =
      trainPods := pods_afterReconciles_append (no_changes (.inl rfl))
  have fresh : trainCodec.dumps (entryOf trainSelects trainPods.values (trainPolicy "low")) =
      entryText "low" 1 := rfl
  have other : entryText "low" 0 ≠ entryText "low" 1 := by decide +kernel
  rw [stale, pods, fresh, Option.some.injEq] at held
  exact other held

/-- The reconcile that listed the Pod returns last. -/
theorem reconciles_upToDate_iff_fresh_last :
    UpToDate trainCodec trainSelects "opendps" (trainPolicy "low")
        (afterReconciles trainSelects trainPool (podArrives ++ freshLast)).world ↔
      (trainPolicy "low").name = "resolved-assignments" ∨
        ∃ last, (returnedReconciles trainSelects trainPool (podArrives ++ freshLast)).getLast? =
            some last ∧
          trainCodec.dumps (entryOf trainSelects (listedPods trainSelects trainPool
              (podArrives ++ freshLast) last) (trainPolicy "low")) =
            trainCodec.dumps (entryOf trainSelects (afterReconciles trainSelects trainPool
              (podArrives ++ freshLast)).world.pods.values (trainPolicy "low")) :=
  reconciles_upToDate_iff (fun _ => rfl) podArrives freshLast (no_changes (.inr rfl)) true rfl
    (returned_of_result (by decide +kernel))

end Opendps.Operator
