/-
**Reconciling one policy.**

`reconcileJobPowerPolicy` lists the Pods a policy matches, resolves their assignments and publishes
them with `writeBoostRegistry`. Run with nobody else around it cannot be conflicted, so it returns
and publishes the entry of the Pods it saw (`run_reconcile`).
-/

import Opendps.Operator.Linearizability

namespace Opendps.Operator

open Opendps.Lib

/-- The label selector of a policy, as the API server takes it. -/
def labelSelector (matchLabels : Dict String String) : String :=
  ",".intercalate (matchLabels.sortedItems.map fun item => item.1 ++ "=" ++ item.2)

/-- The statuses a failed list is not retried on. -/
def surfacedStatuses : List ℕ := [401, 403, 404, 422]

def podListFailed (codec : Codec) (selector : String) : PodListFailure → OperatorError
  | .api exc =>
    if exc.status ∈ surfacedStatuses then .api exc
    else .temporary ("pod list failed for selector " ++ codec.repr (.str selector) ++ ": " ++
      exc.text) 15
  | .connection text =>
    .temporary ("pod list connection error for selector " ++ codec.repr (.str selector) ++ ": " ++
      text) 15

/-- The Pods a selector matches; none when it has no labels. -/
def listMatchingPods (codec : Codec) (matchLabels : Dict String String) : Handler (List Pod) :=
  if matchLabels.items.isEmpty then .ret (.ok [])
  else .call (.listPods (some (labelSelector matchLabels))) fun listed => match listed with
    | .ok pods => .ret (.ok pods)
    | .error failure => .ret (.error (podListFailed codec (labelSelector matchLabels) failure))

/-- The counts a policy reports: matched Pods and active boosts. -/
def statusCounts (policy : JobPowerPolicy) (matched : ℕ) : ℕ × ℕ :=
  (matched, if policy.spec.gpuBoostPct.gt (.finite 0) then matched else 0)

/-- Publish the assignments of the Pods a policy matches. -/
def publishMatched (codec : Codec) (namespaceName : String) (policy : JobPowerPolicy)
    (pods : List Pod) : Handler (ℕ × ℕ) :=
  match resolvedAssignments policy pods with
  | .error exc => .ret (.error (.python exc))
  | .ok resolved =>
    andThen (writeBoostRegistry codec namespaceName policy.name
      (some (registryEntry policy pods.length resolved))) fun _ =>
        .ret (.ok (statusCounts policy pods.length))

/-- Resolve one policy, publish its assignments, and return its status counts. -/
def reconcileJobPowerPolicy (codec : Codec) (namespaceName : String) (policy : JobPowerPolicy) :
    Handler (ℕ × ℕ) :=
  andThen (listMatchingPods codec policy.spec.matchLabels) fun pods =>
    publishMatched codec namespaceName policy pods

/-- Reconcile some policies, one after the other. -/
def reconcileEach (codec : Codec) (namespaceName : String) : List JobPowerPolicy → Handler Unit
  | [] => .ret (.ok ())
  | policy :: rest =>
    andThen (reconcileJobPowerPolicy codec namespaceName policy) fun _ =>
      reconcileEach codec namespaceName rest

/-! ### With nobody else around -/

section Alone

variable {codec : Codec} {selects : String → Dict String String → Bool}
  {namespaceName policyName : String} {entry : Option Json} {policy : JobPowerPolicy}
  {world : World}

theorem run_andThen {α β : Type} (first : Handler α) (next : α → Handler β) (world : World) :
    (andThen first next).run (handle selects) world =
      match first.run (handle selects) world with
      | (.ok value, later) => (next value).run (handle selects) later
      | (.error exc, later) => (.error exc, later) := by
  rw [andThen, Prog.run_bind]
  obtain ⟨outcome, later⟩ := first.run (handle selects) world
  cases outcome <;> rfl

/-- The Pods a policy matches in a world. -/
def matchingPods (selects : String → Dict String String → Bool) (pods : List Pod)
    (policy : JobPowerPolicy) : List Pod :=
  if policy.spec.matchLabels.items.isEmpty then []
  else pods.filter fun pod => selects (labelSelector policy.spec.matchLabels) pod.labels

theorem run_listMatchingPods (policy : JobPowerPolicy) (world : World) :
    (listMatchingPods codec policy.spec.matchLabels).run (handle selects) world =
      (.ok (matchingPods selects world.pods.values policy), world) := by
  unfold listMatchingPods matchingPods
  split <;> rfl

/-- Two worlds that differ in the registry only. -/
def SameButRegistry (before after : World) : Prop :=
  after.pods = before.pods ∧ after.policies = before.policies ∧ after.digests = before.digests ∧
    after.selectors = before.selectors

theorem SameButRegistry.trans {first second third : World} (one : SameButRegistry first second)
    (two : SameButRegistry second third) : SameButRegistry first third :=
  ⟨two.1.trans one.1, two.2.1.trans one.2.1, two.2.2.1.trans one.2.2.1,
    two.2.2.2.trans one.2.2.2⟩

/-- A write with nobody else around returns, having applied its update. -/
theorem run_writeBoostRegistry {data : Dict String String}
    (update : updateData codec policyName entry world.registryData = .ok data) :
    ∃ after, (writeBoostRegistry codec namespaceName policyName entry).run (handle selects) world =
        (.ok (), after) ∧ SameButRegistry world after ∧
      ∃ configMap, after.registry = some configMap ∧
        ∀ key, configMap.data.get? key = data.get? key := by
  cases found : world.registry with
  | none =>
    have update' : updateData codec policyName entry .empty = .ok data := by
      rw [← update, World.registryData, found]
      rfl
    refine ⟨world.writeRegistry data, ?_, ⟨rfl, rfl, rfl, rfl⟩, _, rfl, fun _ => rfl⟩
    simp only [writeBoostRegistry, attempts, attempt, Prog.run, handle, found, notFound, update',
      ne_eq, not_true_eq_false, if_false]
  | some current =>
    have update' : updateData codec policyName entry current.data = .ok data := by
      rw [← update, World.registryData, found]
      rfl
    by_cases unchanged : data.same current.data = true
    · refine ⟨world, ?_, ⟨rfl, rfl, rfl, rfl⟩, current, found, fun key =>
        (Dict.same_iff.mp unchanged key).symm⟩
      simp only [writeBoostRegistry, attempts, attempt, Prog.run, handle, found, update', unchanged,
        if_true]
    · refine ⟨world.writeRegistry data, ?_, ⟨rfl, rfl, rfl, rfl⟩, _, rfl, fun _ => rfl⟩
      simp only [writeBoostRegistry, attempts, attempt, Prog.run, handle, found, update', unchanged,
        if_true, if_false, Bool.false_eq_true]

/-- A write whose update fails raises. -/
theorem run_writeBoostRegistry_error {exc : PyError}
    (update : updateData codec policyName entry world.registryData = .error exc) :
    (writeBoostRegistry codec namespaceName policyName entry).run (handle selects) world =
      (.error (.python exc), world) := by
  cases found : world.registry with
  | none =>
    have update' : updateData codec policyName entry .empty = .error exc := by
      rw [← update, World.registryData, found]
      rfl
    simp only [writeBoostRegistry, attempts, attempt, Prog.run, handle, found, notFound, update',
      ne_eq, not_true_eq_false, if_false]
  | some current =>
    have update' : updateData codec policyName entry current.data = .error exc := by
      rw [← update, World.registryData, found]
      rfl
    simp only [writeBoostRegistry, attempts, attempt, Prog.run, handle, found, update']

/-- The assignments of a policy over the Pods it matches. -/
def assignmentsOf (selects : String → Dict String String → Bool) (pods : List Pod)
    (policy : JobPowerPolicy) : List Assignment :=
  (resolvedAssignments policy (matchingPods selects pods policy)).toOption.getD []

/-- The entry a policy has when the Pods are these. -/
def entryOf (selects : String → Dict String String → Bool) (pods : List Pod)
    (policy : JobPowerPolicy) : Json :=
  registryEntry policy (matchingPods selects pods policy).length (assignmentsOf selects pods policy)

theorem mem_of_mem_matchingPods {pods : List Pod} {policy : JobPowerPolicy} {pod : Pod}
    (matched : pod ∈ matchingPods selects pods policy) : pod ∈ pods := by
  unfold matchingPods at matched
  split at matched
  · cases matched
  · exact List.mem_of_mem_filter matched

theorem resolvedAssignments_eq {pods : List Pod} {policy : JobPowerPolicy}
    (readable : ∀ pod ∈ matchingPods selects pods policy, ReadableIndices pod) :
    resolvedAssignments policy (matchingPods selects pods policy) =
      .ok (assignmentsOf selects pods policy) := by
  obtain ⟨assignments, resolved, _⟩ := resolvedAssignments_ok policy readable
  rw [assignmentsOf, resolved]
  rfl

/-- **A reconcile with nobody else around** returns, having published the entry of the Pods it saw. -/
theorem run_reconcile (policy : JobPowerPolicy) {data : Dict String String}
    (resolves : resolvedAssignments policy (matchingPods selects world.pods.values policy) =
      .ok (assignmentsOf selects world.pods.values policy))
    (update : updateData codec policy.name (some (entryOf selects world.pods.values policy))
      world.registryData = .ok data) :
    ∃ after, (reconcileJobPowerPolicy codec namespaceName policy).run (handle selects) world =
        (.ok (statusCounts policy (matchingPods selects world.pods.values policy).length), after) ∧
      SameButRegistry world after ∧
      ∃ configMap, after.registry = some configMap ∧
        ∀ key, configMap.data.get? key = data.get? key := by
  obtain ⟨after, written, rest⟩ :=
    @run_writeBoostRegistry codec selects namespaceName policy.name _ world data update
  refine ⟨after, ?_, rest⟩
  rw [reconcileJobPowerPolicy, run_andThen, run_listMatchingPods]
  simp only [publishMatched, resolves]
  rw [run_andThen, ← entryOf, written]
  rfl

/-- One more reconcile would return and leave the registry as it is. -/
def UpToDate (codec : Codec) (selects : String → Dict String String → Bool)
    (namespaceName : String) (policy : JobPowerPolicy) (world : World) : Prop :=
  ∃ counts after,
    (reconcileJobPowerPolicy codec namespaceName policy).run (handle selects) world =
        (.ok counts, after) ∧
      ∀ key, after.registryData.get? key = world.registryData.get? key

/-- A registry is up to date when updating it changes nothing. -/
theorem upToDate_iff (policy : JobPowerPolicy) :
    UpToDate codec selects namespaceName policy world ↔
      resolvedAssignments policy (matchingPods selects world.pods.values policy) =
          .ok (assignmentsOf selects world.pods.values policy) ∧
        ∃ data, updateData codec policy.name (some (entryOf selects world.pods.values policy))
            world.registryData = .ok data ∧
          ∀ key, data.get? key = world.registryData.get? key := by
  constructor
  · rintro ⟨counts, after, ran, same⟩
    cases resolved : resolvedAssignments policy (matchingPods selects world.pods.values policy) with
    | error exc =>
      rw [reconcileJobPowerPolicy, run_andThen, run_listMatchingPods] at ran
      simp only [publishMatched, resolved, Prog.run, Prod.mk.injEq, reduceCtorEq, false_and] at ran
    | ok assignments =>
      have listed : assignments = assignmentsOf selects world.pods.values policy := by
        rw [assignmentsOf, resolved]
        rfl
      refine ⟨by rw [listed], ?_⟩
      cases update : updateData codec policy.name
          (some (entryOf selects world.pods.values policy)) world.registryData with
      | error exc =>
        rw [reconcileJobPowerPolicy, run_andThen, run_listMatchingPods] at ran
        simp only [publishMatched, resolved] at ran
        rw [run_andThen, listed, ← entryOf, run_writeBoostRegistry_error update] at ran
        cases ran
      | ok data =>
        obtain ⟨last, ranLast, _, configMap, stored, lookups⟩ :=
          @run_reconcile codec selects namespaceName world policy data
            (by rw [resolved, listed]) update
        rw [ran, Prod.mk.injEq] at ranLast
        refine ⟨data, rfl, fun key => ?_⟩
        rw [← lookups, ← same, ranLast.2, World.registryData, stored]
        rfl
  · rintro ⟨resolved, data, update, same⟩
    obtain ⟨after, ran, _, configMap, stored, lookups⟩ :=
      @run_reconcile codec selects namespaceName world policy data resolved update
    refine ⟨_, after, ran, fun key => ?_⟩
    rw [← same, ← lookups, World.registryData, stored]
    rfl

/-- A registry that is up to date holds the entry of the Pods there are. -/
theorem UpToDate.holdsEntry (upToDate : UpToDate codec selects namespaceName policy world)
    (named : policy.name ≠ "resolved-assignments") :
    world.registryData.get? (policyKey policy.name) =
      some (codec.dumps (entryOf selects world.pods.values policy)) := by
  obtain ⟨_, data, update, same⟩ := (upToDate_iff policy).mp upToDate
  rw [← same, (updateData_ok update).1 _ (policyKey_ne_resolvedAssignmentsKey named), if_pos rfl]
  rfl

/-- A registry that is up to date is there, and consistent. -/
theorem UpToDate.consistent (upToDate : UpToDate codec selects namespaceName policy world) :
    ∃ configMap, world.registry = some configMap ∧ Consistent codec configMap.data := by
  obtain ⟨_, data, update, same⟩ := (upToDate_iff policy).mp upToDate
  have consistent : Consistent codec world.registryData :=
    (updateData_ok update).2.congr fun key => (same key).symm
  cases found : world.registry with
  | none =>
    obtain ⟨_, _, stored⟩ := consistent
    rw [World.registryData, found] at stored
    cases stored
  | some configMap =>
    rw [World.registryData, found] at consistent
    exact ⟨configMap, rfl, consistent⟩

/-- Reconciles of policies whose entries are stored change nothing. -/
theorem run_reconcileEach_of_stored {policies : List JobPowerPolicy}
    (readable : ∀ policy ∈ policies,
      ∀ pod ∈ matchingPods selects world.pods.values policy, ReadableIndices pod)
    (stored : ∀ policy ∈ policies, policy.name ≠ "resolved-assignments" →
      world.registryData.get? (policyKey policy.name) =
        some (codec.dumps (entryOf selects world.pods.values policy)))
    (consistent : policies ≠ [] → Consistent codec world.registryData) :
    ∃ after, (reconcileEach codec namespaceName policies).run (handle selects) world =
        (.ok (), after) ∧ ∀ key, after.registryData.get? key = world.registryData.get? key := by
  induction policies generalizing world with
  | nil => exact ⟨world, rfl, fun _ => rfl⟩
  | cons policy rest ih =>
    have consistentHere := consistent (List.cons_ne_nil _ _)
    obtain ⟨data, update, same⟩ := updateData_of_stored consistentHere
      (stored policy List.mem_cons_self)
    obtain ⟨next, ran, unchanged, configMap, storedNext, lookups⟩ :=
      @run_reconcile codec selects namespaceName world policy data
        (resolvedAssignments_eq (readable policy List.mem_cons_self)) update
    have sameNext : ∀ key, next.registryData.get? key = world.registryData.get? key := by
      intro key
      rw [← same, ← lookups, World.registryData, storedNext]
      rfl
    obtain ⟨after, ranRest, sameRest⟩ := @ih next
      (fun other listed => by
        rw [unchanged.1]
        exact readable other (List.mem_cons_of_mem _ listed))
      (fun other listed named => by
        rw [sameNext, unchanged.1]
        exact stored other (List.mem_cons_of_mem _ listed) named)
      (fun _ => consistentHere.congr sameNext)
    refine ⟨after, ?_, fun key => (sameRest key).trans (sameNext key)⟩
    rw [reconcileEach, run_andThen, ran]
    exact ranRest

/-- The writes of some reconciles. -/
def reconcileWrites (selects : String → Dict String String → Bool) (pods : List Pod)
    (policies : List JobPowerPolicy) : List RegistryWrite :=
  policies.map fun policy => ⟨policy.name, some (entryOf selects pods policy)⟩

/-- **Reconciles one after the other** return and publish the entry of each policy. -/
theorem run_reconcileEach {policies : List JobPowerPolicy} {first : World}
    {writes : List RegistryWrite} (history : History codec first writes world)
    (readable : ∀ pod ∈ world.pods.values, ReadableIndices pod)
    (readableData : ReadableData codec world.registryData)
    (roundTrips : ∀ policy ∈ policies,
      codec.RoundTrips (entryOf selects world.pods.values policy)) :
    ∃ after, (reconcileEach codec namespaceName policies).run (handle selects) world =
        (.ok (), after) ∧ SameButRegistry world after ∧ ReadableData codec after.registryData ∧
      History codec first (writes ++ reconcileWrites selects world.pods.values policies) after := by
  induction policies generalizing world writes with
  | nil =>
    refine ⟨world, rfl, ⟨rfl, rfl, rfl, rfl⟩, readableData, ?_⟩
    rw [reconcileWrites, List.map_nil, List.append_nil]
    exact history
  | cons policy rest ih =>
    obtain ⟨data, update, readableNext⟩ := @exists_updateData codec policy.name
      (some (entryOf selects world.pods.values policy)) world.registryData readableData (by
        rintro _ ⟨⟩
        exact readableEntry_registryEntry (roundTrips policy List.mem_cons_self))
    obtain ⟨next, ran, unchanged, configMap, stored, lookups⟩ :=
      @run_reconcile codec selects namespaceName world policy data
        (resolvedAssignments_eq fun pod matched => readable pod (mem_of_mem_matchingPods matched))
        update
    have nextData : next.registryData = configMap.data := by
      rw [World.registryData, stored]
      rfl
    have published : Published codec policy.name
        (some (entryOf selects world.pods.values policy)) world next :=
      ⟨data, configMap, update, stored, lookups⟩
    have nextHistory : History codec first
        (writes ++ [⟨policy.name, some (entryOf selects world.pods.values policy)⟩]) next :=
      history.step published
    obtain ⟨after, ranRest, unchangedRest, readableAfter, afterHistory⟩ := ih nextHistory
      (by rwa [unchanged.1])
      (fun key raw found => by
        rw [nextData, lookups] at found
        exact readableNext key raw found)
      (fun other listed => by
        rw [unchanged.1]
        exact roundTrips other (List.mem_cons_of_mem _ listed))
    refine ⟨after, ?_, unchanged.trans unchangedRest, readableAfter, ?_⟩
    · rw [reconcileEach, run_andThen, ran]
      exact ranRest
    · rw [unchanged.1, List.append_assoc] at afterHistory
      exact afterHistory

end Alone

/-! ### A Pod for training, and policies that match it -/

def trainLabels : Dict String String := ⟨[("app", "train")], by decide⟩

/-- A policy for the training Pods, with a tier. -/
def trainPolicy (tier : String) : JobPowerPolicy where
  name := tier ++ "-train"
  uid := tier
  generation := 1
  spec := { matchLabels := trainLabels, priorityClass := tier }

def trainPod : Pod where
  uid := some "pod-1"
  labels := trainLabels
  annotations := ⟨[( gpuIndicesAnnotation, "0")], by decide⟩
  nodeName := some "node-a"

def trainPods : Dict String Pod := ⟨[("pod-1", trainPod)], by decide⟩

def trainSelects (selector : String) (labels : Dict String String) : Bool :=
  decide (selector = "app=train") && decide (labels.get? "app" = some "train")

def trainAssignment (tier : String) : Assignment :=
  assignmentOf (trainPolicy tier) "pod-1" "node-a" 0

/-- The entry of a policy while the Pod is there, or not. -/
def trainEntry (tier : String) (matched : ℕ) : Json :=
  registryEntry (trainPolicy tier) matched (List.replicate matched (trainAssignment tier))

def trainAggregate (tiers : List String) : Json :=
  aggregatePayload (tiers.map fun tier => (trainAssignment tier).toJson)

/-- An assignment as it is printed within a list. -/
def assignmentText (tier : String) : String :=
  "    \x7b\n      \"gpuBoostPct\": 15.0,\n      \"gpuIndex\": 0,\n" ++
  "      \"nodeName\": \"node-a\",\n      \"podUid\": \"pod-1\",\n" ++
  "      \"policyGeneration\": 1,\n      \"policyUid\": \"" ++ tier ++
  "\",\n      \"priorityClass\": \"" ++ tier ++ "\"\n    \x7d"

def assignmentsText (tiers : List String) : String :=
  "\x7b\n  \"assignments\": " ++ (if tiers = [] then "[]" else
    "[\n" ++ ",\n".intercalate (tiers.map assignmentText) ++ "\n  ]") ++ ",\n"

def entryText (tier : String) (matched : ℕ) : String :=
  assignmentsText (List.replicate matched tier) ++ "  \"gpu_boost_pct\": 15.0,\n" ++
  "  \"matchLabels\": \x7b\n    \"app\": \"train\"\n  \x7d,\n  \"matched_pods\": " ++
  toString matched ++ ",\n  \"priority\": \"" ++ tier ++ "\",\n  \"schemaVersion\": 1\n\x7d"

def aggregateText (tiers : List String) : String :=
  assignmentsText tiers ++ "  \"schemaVersion\": 1\n\x7d"

/-- The values the train policies publish, read back from their texts. -/
def trainLoads (text : String) : Except PyError Json :=
  if text = entryText "low" 0 then .ok (trainEntry "low" 0)
  else if text = entryText "low" 1 then .ok (trainEntry "low" 1)
  else if text = entryText "critical" 0 then .ok (trainEntry "critical" 0)
  else if text = entryText "critical" 1 then .ok (trainEntry "critical" 1)
  else if text = aggregateText ["low", "critical"] then .ok (trainAggregate ["low", "critical"])
  else if text = aggregateText ["critical", "low"] then .ok (trainAggregate ["critical", "low"])
  else .error (.jsonDecodeError "Expecting value: line 1 column 1 (char 0)")

def trainCodec : Codec where
  dumps value := match value.get? "priority", value.get? "assignments" with
    | some (.str tier), some (.arr assignments) => entryText tier assignments.length
    | _, some (.arr assignments) => aggregateText (assignments.filterMap fun assignment =>
        match assignment.get? "priorityClass" with
        | some (.str tier) => some tier
        | _ => none)
    | _, _ => "null"
  loads := trainLoads
  repr _ := "null"

theorem trainEntry_roundTrips {tier : String} {matched : ℕ}
    (known : tier = "low" ∨ tier = "critical") (atMostOne : matched = 0 ∨ matched = 1) :
    trainCodec.RoundTrips (trainEntry tier matched) := by
  have printed : trainCodec.dumps (trainEntry tier matched) = entryText tier matched := by
    rcases known with rfl | rfl <;> rcases atMostOne with rfl | rfl <;> rfl
  have loads : trainCodec.loads = trainLoads := rfl
  rw [Codec.RoundTrips, printed, loads, trainLoads]
  rcases known with rfl | rfl
  · rcases atMostOne with rfl | rfl
    · rw [if_pos rfl]
    · have empty : entryText "low" 1 ≠ entryText "low" 0 := by decide +kernel
      rw [if_neg empty, if_pos rfl]
  · rcases atMostOne with rfl | rfl
    · have empty : entryText "critical" 0 ≠ entryText "low" 0 := by decide +kernel
      have full : entryText "critical" 0 ≠ entryText "low" 1 := by decide +kernel
      rw [if_neg empty, if_neg full, if_pos rfl]
    · have empty : entryText "critical" 1 ≠ entryText "low" 0 := by decide +kernel
      have full : entryText "critical" 1 ≠ entryText "low" 1 := by decide +kernel
      have own : entryText "critical" 1 ≠ entryText "critical" 0 := by decide +kernel
      rw [if_neg empty, if_neg full, if_neg own, if_pos rfl]

theorem trainAggregate_roundTrips {tiers : List String}
    (known : tiers = ["low", "critical"] ∨ tiers = ["critical", "low"]) :
    trainCodec.RoundTrips (trainAggregate tiers) := by
  have printed : trainCodec.dumps (trainAggregate tiers) = aggregateText tiers := by
    rcases known with rfl | rfl <;> rfl
  have loads : trainCodec.loads = trainLoads := rfl
  have entries : aggregateText tiers ∉ [entryText "low" 0, entryText "low" 1,
      entryText "critical" 0, entryText "critical" 1] := by
    rcases known with rfl | rfl <;> decide +kernel
  simp only [List.mem_cons, List.not_mem_nil, or_false, not_or] at entries
  obtain ⟨lowEmpty, low, criticalEmpty, critical⟩ := entries
  rw [Codec.RoundTrips, printed, loads, trainLoads, if_neg lowEmpty, if_neg low,
    if_neg criticalEmpty, if_neg critical]
  rcases known with rfl | rfl
  · rw [if_pos rfl]
  · have other : aggregateText ["critical", "low"] ≠ aggregateText ["low", "critical"] := by
      decide +kernel
    rw [if_neg other, if_pos rfl]

theorem trainPod_readable : ReadableIndices trainPod := by
  rintro raw found item listed _
  cases found
  have tokens : "0".toList.splitOn ',' = [['0']] := by decide
  rw [tokens, List.mem_singleton] at listed
  rw [listed]
  decide

end Opendps.Operator
