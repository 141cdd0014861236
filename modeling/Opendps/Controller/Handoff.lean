/-
**From the operator to the controller.**

The operator reconciles every policy once and the controller of a node polls what it published.
`handoff` says what the controller then holds: each GPU of the node that a Pod matched by a policy
occupies has the highest tier of those policies, and every other GPU keeps its baseline.

The stages are met one after the other: the entries of the registry after the reconciles
(`run_reconcileEach`), the aggregate over them (`aggregated_assignments`), the offers the aggregate
holds for the node (`candidates_published`), and the tier each GPU gets from its offers
(`parse_tiers`).
-/

import Opendps.Operator.PublishedEntries
import Opendps.Controller.PriorityPolling

namespace Opendps.Controller

open Opendps.Lib
open Opendps.Operator hiding handle

/-- A Pod that a policy matches occupies a GPU of the node. -/
def Assigns (selects : String → Dict String String → Bool) (pods : List Pod) (nodeName : String)
    (policy : JobPowerPolicy) (gpuIndex : ℤ) : Prop :=
  ∃ pod ∈ matchingPods selects pods policy, ∃ podUid index,
    Occupies pod podUid nodeName index ∧ (index : ℤ) = gpuIndex

/-- The rank of a policy's tier. -/
def rankOf (policy : JobPowerPolicy) : ℕ := tierRank.getD policy.spec.priorityClass 0

/-- What a poll of the registry meets. -/
def pollInput (world : World) : PollInput where
  clientLoads := true
  read := match world.registry with
    | some configMap => .ok ⟨some (toString configMap.resourceVersion), configMap.data⟩
    | none => .error ⟨some 404⟩

/-! ### One published assignment -/

section Assignment

variable (codec : Codec) (nodeName : String) (assignment : Assignment)

/-- What a published assignment offers a node. -/
def offerOf : ℤ × Candidate :=
  (assignment.gpuIndex, ⟨tierRank.getD assignment.priorityClass 0, assignment.gpuBoostPct,
    assignment.priorityClass⟩)

theorem get?_toJson {key : String} {value : Json} (member : (key, value) ∈
      [("gpuBoostPct", Json.float assignment.gpuBoostPct),
        ("gpuIndex", Json.int assignment.gpuIndex), ("nodeName", Json.str assignment.nodeName),
        ("podUid", Json.str assignment.podUid),
        ("policyGeneration", Json.int assignment.policyGeneration),
        ("policyUid", Json.str assignment.policyUid),
        ("priorityClass", Json.str assignment.priorityClass)]) :
    assignment.toJson.get? key = some value :=
  Json.get?_object (by simp) member

/-- The node reads a published assignment as an offer, or passes over another node's. -/
theorem candidateOf_toJson (valid : assignment.priorityClass ∈ validTiers) :
    candidateOf codec nodeName assignment.toJson =
      .ok (if assignment.nodeName = nodeName then some (offerOf assignment) else none) := by
  obtain ⟨rank, ranked⟩ := tierRank_of_valid valid
  have object : assignment.toJson.isObject = true := rfl
  have node : assignment.toJson.get? "nodeName" = some (.str assignment.nodeName) :=
    get?_toJson assignment (by simp)
  have gpu : assignment.toJson.get? "gpuIndex" = some (.int assignment.gpuIndex) :=
    get?_toJson assignment (by simp)
  have tier : assignment.toJson.get? "priorityClass" = some (.str assignment.priorityClass) :=
    get?_toJson assignment (by simp)
  have boost : assignment.toJson.get? "gpuBoostPct" = some (.float assignment.gpuBoostPct) :=
    get?_toJson assignment (by simp)
  have natural : ¬ (assignment.gpuIndex : ℤ) < 0 := not_lt.mpr (Int.natCast_nonneg _)
  by_cases here : assignment.nodeName = nodeName
  · simp [candidateOf, object, node, gpu, tier, boost, equalsStr, here, gpuIndexOf, natural, tierOf,
      valid, boostOf, ranked, bind, Except.bind, pure, Except.pure, offerOf, Dict.getD]
  · simp [candidateOf, object, node, equalsStr, here]

end Assignment

/-! ### The offers in the aggregate -/

/-- The offers some published assignments hold for a node. -/
theorem candidates_published (codec : Codec) (nodeName : String) {assignments : List Json}
    (published : ∀ value ∈ assignments, ∃ assignment : Assignment, value = assignment.toJson ∧
      assignment.priorityClass ∈ validTiers) :
    ∃ offers, candidates codec nodeName assignments = .ok offers ∧ ∀ offer, offer ∈ offers ↔
      ∃ value ∈ assignments, candidateOf codec nodeName value = .ok (some offer) := by
  have valid : ∀ value ∈ assignments, ValidAssignment nodeName value := by
    intro value listed
    obtain ⟨assignment, rfl, valid⟩ := published value listed
    exact (classifies_candidateOf codec nodeName _).isOk_iff.mp
      ⟨_, candidateOf_toJson codec nodeName assignment valid⟩
  obtain ⟨offers, read⟩ := (classifies_candidates codec nodeName assignments).isOk_iff.mpr valid
  exact ⟨offers, read, mem_candidates read⟩

/-- The assignments of some policies, as they are published. -/
def publishedAssignments (selects : String → Dict String String → Bool) (pods : List Pod)
    (policies : List JobPowerPolicy) : List Json :=
  policies.flatMap fun policy => (assignmentsOf selects pods policy).map Assignment.toJson

section Registry

variable {codec : Codec} {selects : String → Dict String String → Bool} {pods : List Pod}
  {policies : List JobPowerPolicy} {data : Dict String String}

/-- Registry data that holds the entries of some policies and nothing else but the aggregate. -/
structure HoldsEntries (codec : Codec) (selects : String → Dict String String → Bool)
    (pods : List Pod) (policies : List JobPowerPolicy) (data : Dict String String) : Prop where
  distinct : (policies.map JobPowerPolicy.name).Nodup
  named : ∀ policy ∈ policies, policy.name ≠ "resolved-assignments"
  entries : ∀ key, key ≠ resolvedAssignmentsKey → data.get? key =
    (policies.map fun policy =>
      (policyKey policy.name, codec.dumps (entryOf selects pods policy))).lookup key

/-- The entries of the policies, under their names. -/
theorem HoldsEntries.stores (holds : HoldsEntries codec selects pods policies data) :
    StoresEntries codec (policies.map fun policy => (policy.name, entryOf selects pods policy))
      data := by
  refine ⟨?_, fun entry member => ?_, fun key other => ?_⟩
  · rw [List.map_map]
    exact holds.distinct
  · obtain ⟨policy, inside, rfl⟩ := List.mem_map.mp member
    exact holds.named policy inside
  · rw [holds.entries key other, entryItems, List.map_map]
    rfl

/-- The aggregate over such data lists the assignments of the policies. -/
theorem aggregated_assignments (holds : HoldsEntries codec selects pods policies data)
    (roundTrips : ∀ policy ∈ policies, codec.RoundTrips (entryOf selects pods policy)) :
    ∃ assignments, assignments.Perm (publishedAssignments selects pods policies) ∧
      aggregateResolvedAssignments codec (data.pop resolvedAssignmentsKey) =
        .ok (codec.dumps (aggregatePayload assignments)) := by
  have policyOf : ∀ entry ∈ policies.map fun policy => (policy.name, entryOf selects pods policy),
      ∃ policy ∈ policies, entry.2 = entryOf selects pods policy := by
    intro entry member
    obtain ⟨policy, inside, rfl⟩ := List.mem_map.mp member
    exact ⟨policy, inside, rfl⟩
  obtain ⟨published, perm, aggregated⟩ := aggregated_entries holds.stores
    (fun entry member => by
      obtain ⟨policy, _, same⟩ := policyOf entry member
      rw [same]
      rfl)
    (fun entry member => by
      obtain ⟨policy, inside, same⟩ := policyOf entry member
      rw [same]
      exact roundTrips policy inside)
  refine ⟨published, perm.trans (List.Perm.of_eq ?_), aggregated⟩
  rw [List.flatMap_map, publishedAssignments]
  refine List.flatMap_congr fun policy _ => ?_
  rw [assignmentsIn, entryOf, listedAssignments_registryEntry]
  rfl

end Registry

/-! ### The handoff -/

section Handoff

variable {codec : Codec} {selects : String → Dict String String → Bool} {pods : List Pod}
  {policies : List JobPowerPolicy}

theorem mem_assignmentsOf (policy : JobPowerPolicy)
    (readable : ∀ pod ∈ pods, ReadableIndices pod) {assignment : Assignment} :
    assignment ∈ assignmentsOf selects pods policy ↔
      ∃ pod ∈ matchingPods selects pods policy, ∃ podUid nodeName gpuIndex,
        Occupies pod podUid nodeName gpuIndex ∧
          assignment = assignmentOf policy podUid nodeName gpuIndex := by
  obtain ⟨assignments, resolved, members⟩ := @resolvedAssignments_ok policy
    (matchingPods selects pods policy)
    fun pod matched => readable pod (mem_of_mem_matchingPods matched)
  rw [← members, assignmentsOf, resolved]
  rfl

/-- The offers for a GPU are those of the policies that assign it. -/
theorem offered_iff {nodeName : String} {assignments : List Json} {offers : List (ℤ × Candidate)}
    (published : assignments.Perm (publishedAssignments selects pods policies))
    (valid : ∀ policy ∈ policies, policy.spec.priorityClass ∈ validTiers)
    (readable : ∀ pod ∈ pods, ReadableIndices pod)
    (members : ∀ offer, offer ∈ offers ↔
      ∃ value ∈ assignments, candidateOf codec nodeName value = .ok (some offer))
    {gpuIndex : ℤ} {candidate : Candidate} :
    (gpuIndex, candidate) ∈ offers ↔ ∃ policy ∈ policies,
      Assigns selects pods nodeName policy gpuIndex ∧
        candidate = ⟨rankOf policy, policy.spec.gpuBoostPct, policy.spec.priorityClass⟩ := by
  rw [members]
  constructor
  · rintro ⟨value, listed, offered⟩
    obtain ⟨policy, inside, listed⟩ := List.mem_flatMap.mp (published.mem_iff.mp listed)
    obtain ⟨assignment, assigned, rfl⟩ := List.mem_map.mp listed
    obtain ⟨pod, matched, podUid, node, index, occupies, rfl⟩ :=
      (mem_assignmentsOf policy readable).mp assigned
    rw [candidateOf_toJson codec nodeName _ (valid policy inside), Except.ok.injEq,
      Option.ite_none_right_eq_some, Option.some.injEq] at offered
    obtain ⟨here, same⟩ := offered
    cases here
    cases same
    exact ⟨policy, inside, ⟨pod, matched, podUid, index, occupies, rfl⟩, rfl⟩
  · rintro ⟨policy, inside, ⟨pod, matched, podUid, index, occupies, rfl⟩, rfl⟩
    refine ⟨(assignmentOf policy podUid nodeName index).toJson, published.mem_iff.mpr ?_, ?_⟩
    · refine List.mem_flatMap.mpr ⟨policy, inside, List.mem_map_of_mem ?_⟩
      exact (mem_assignmentsOf policy readable).mpr ⟨pod, matched, podUid, nodeName, index,
        occupies, rfl⟩
    · rw [candidateOf_toJson codec nodeName _ (valid policy inside)]
      exact congrArg Except.ok (if_pos rfl)

/-- The tiers of a node, in terms of the policies: the highest tier for each assigned GPU, the
baseline for every other. -/
def AgreedTiers (selects : String → Dict String String → Bool) (pods : List Pod)
    (policies : List JobPowerPolicy) (nodeName : String) (baseline tiers : Dict ℤ String) : Prop :=
  ∀ gpuIndex : ℤ,
    ((∀ policy ∈ policies, ¬ Assigns selects pods nodeName policy gpuIndex) →
        tiers.get? gpuIndex = baseline.get? gpuIndex) ∧
      ((∃ policy ∈ policies, Assigns selects pods nodeName policy gpuIndex) →
        ∃ best ∈ policies, Assigns selects pods nodeName best gpuIndex ∧
          tiers.get? gpuIndex = some best.spec.priorityClass ∧
          ∀ other ∈ policies, Assigns selects pods nodeName other gpuIndex →
            rankOf other ≤ rankOf best)

/-- The tiers of the offers, over the baseline, are the agreed ones. -/
theorem agreedTiers_update {nodeName : String} {offers : List (ℤ × Candidate)}
    {baseline tiers : Dict ℤ String} (highest : HighestTiers offers tiers)
    (offered : ∀ gpuIndex candidate, (gpuIndex, candidate) ∈ offers ↔ ∃ policy ∈ policies,
      Assigns selects pods nodeName policy gpuIndex ∧
        candidate = ⟨rankOf policy, policy.spec.gpuBoostPct, policy.spec.priorityClass⟩) :
    AgreedTiers selects pods policies nodeName baseline (baseline.update tiers) := by
  intro gpuIndex
  obtain ⟨sound, complete⟩ := highest gpuIndex
  rw [Dict.get?_update]
  constructor
  · intro none
    have absent : tiers.get? gpuIndex = Option.none := by
      refine Option.eq_none_iff_forall_ne_some.mpr fun tier found => ?_
      obtain ⟨best, inside, _⟩ := sound tier found
      obtain ⟨policy, member, assigns, _⟩ := (offered _ _).mp inside
      exact none policy member assigns
    rw [absent, Option.none_or]
  · rintro ⟨policy, member, assigns⟩
    obtain ⟨tier, found⟩ := complete _ ((offered _ _).mpr ⟨policy, member, assigns, rfl⟩)
    obtain ⟨best, inside, tierOfBest, highest⟩ := sound tier found
    obtain ⟨winner, wins, winnerAssigns, rfl⟩ := (offered _ _).mp inside
    refine ⟨winner, wins, winnerAssigns, ?_, fun other otherMember otherAssigns => ?_⟩
    · rw [found, Option.some_or, ← tierOfBest]
    · exact highest _ ((offered _ _).mpr ⟨other, otherMember, otherAssigns, rfl⟩)

/-- The first poll of a source, when what the registry says is accepted. -/
theorem poll_new_of_parse {nodeName : String} {baseline tiers : Dict ℤ String} {hasApi : Bool}
    {world : World} {configMap : ConfigMap} (stored : world.registry = some configMap)
    (parsed : parse codec nodeName (configMap.data.get? assignmentsKey) = .ok tiers) :
    ∃ source, (PriorityConfigSource.new nodeName baseline hasApi).poll codec (pollInput world) =
      .ok source ∧ source.snapshot = baseline.update tiers := by
  refine ⟨{ nodeName := nodeName, baseline := baseline, snapshot := baseline.update tiers
            resourceVersion := some (toString configMap.resourceVersion), hasApi := true }, ?_, rfl⟩
  simp only [PriorityConfigSource.poll, pollInput, stored, Bool.or_true, if_true,
    PriorityConfigSource.refresh, PriorityConfigSource.isApplied, PriorityConfigSource.new,
    reduceCtorEq, decide_false, Bool.and_false, Bool.false_eq_true, if_false, parsed]

/-- The first poll of a source, when there is nothing to read yet. -/
theorem poll_new_of_empty {nodeName : String} {baseline : Dict ℤ String} {hasApi : Bool}
    {world : World} (empty : world.registryData.items = []) :
    ∃ source, (PriorityConfigSource.new nodeName baseline hasApi).poll codec (pollInput world) =
      .ok source ∧ source.snapshot = baseline := by
  cases stored : world.registry with
  | none =>
    refine ⟨{ nodeName := nodeName, baseline := baseline, snapshot := baseline, hasApi := true },
      ?_, rfl⟩
    simp only [PriorityConfigSource.poll, pollInput, stored, Bool.or_true, if_true,
      PriorityConfigSource.refresh, PriorityConfigSource.new]
  | some configMap =>
    have missing : configMap.data.get? assignmentsKey = none := by
      rw [World.registryData, stored] at empty
      exact congrArg (List.lookup assignmentsKey) empty
    refine ⟨{ nodeName := nodeName, baseline := baseline, snapshot := baseline, hasApi := true
              reportedUnavailable := true }, ?_, rfl⟩
    simp only [PriorityConfigSource.poll, pollInput, stored, Bool.or_true, if_true,
      PriorityConfigSource.refresh, PriorityConfigSource.isApplied, PriorityConfigSource.new,
      reduceCtorEq, decide_false, Bool.and_false, Bool.false_eq_true, if_false, missing, parse,
      isMalformed]

/-- A node that polls the entries of some policies holds the agreed tiers. -/
theorem poll_entries {nodeName : String} {baseline : Dict ℤ String} {hasApi : Bool} {world : World}
    {configMap : ConfigMap} (stored : world.registry = some configMap)
    (holds : HoldsEntries codec selects pods policies configMap.data)
    (consistent : Consistent codec configMap.data)
    (valid : ∀ policy ∈ policies, policy.spec.priorityClass ∈ validTiers)
    (readable : ∀ pod ∈ pods, ReadableIndices pod)
    (entriesRoundTrip : ∀ policy ∈ policies, codec.RoundTrips (entryOf selects pods policy))
    (aggregateRoundTrips : ∀ assignments,
      assignments.Perm (publishedAssignments selects pods policies) →
        codec.RoundTrips (aggregatePayload assignments)) :
    ∃ source, (PriorityConfigSource.new nodeName baseline hasApi).poll codec (pollInput world) =
        .ok source ∧ AgreedTiers selects pods policies nodeName baseline source.snapshot := by
  obtain ⟨assignments, published, aggregated⟩ := aggregated_assignments holds entriesRoundTrip
  obtain ⟨text, aggregate, listed⟩ := consistent
  rw [aggregated, Except.ok.injEq] at aggregate
  obtain ⟨offers, offered, members⟩ := @candidates_published codec nodeName assignments
    fun value member => by
      obtain ⟨policy, inside, member⟩ := List.mem_flatMap.mp (published.mem_iff.mp member)
      obtain ⟨assignment, assigned, rfl⟩ := List.mem_map.mp member
      obtain ⟨_, _, _, _, _, _, rfl⟩ := (mem_assignmentsOf policy readable).mp assigned
      exact ⟨_, rfl, valid policy inside⟩
  have schema : (aggregatePayload assignments).get? "schemaVersion" = some (.int boostSchemaVersion) :=
    Json.get?_object (by simp) (by simp)
  have array : (aggregatePayload assignments).get? "assignments" = some (.arr assignments) :=
    Json.get?_object (by simp) (by simp)
  obtain ⟨tiers, parsed, highest⟩ := @parse_tiers codec nodeName text (aggregatePayload assignments)
    assignments offers (by rw [← aggregate]; exact aggregateRoundTrips assignments published) rfl
    (by rw [schema]; rfl) array offered
  obtain ⟨source, polled, snapshot⟩ := @poll_new_of_parse codec nodeName baseline tiers hasApi world
    configMap stored (by rw [← parsed]; exact congrArg (parse codec nodeName) listed)
  refine ⟨source, polled, ?_⟩
  rw [snapshot]
  exact agreedTiers_update highest fun gpuIndex candidate =>
    offered_iff published valid readable members

/-- The last writes of reconciles of distinct policies are their entries. -/
theorem lastWritten_reconcileWrites (codec : Codec)
    (distinct : (policies.map JobPowerPolicy.name).Nodup) (key : String) :
    lastWritten codec key none (reconcileWrites selects pods policies) =
      (policies.map fun policy =>
        (policyKey policy.name, codec.dumps (entryOf selects pods policy))).lookup key := by
  induction policies using List.reverseRecOn with
  | nil => rfl
  | append_singleton policies policy ih =>
    rw [List.map_append, List.nodup_append] at distinct
    rw [reconcileWrites, List.map_append, List.map_singleton, History.lastWritten_append_singleton,
      ← reconcileWrites, ih distinct.1, List.map_append, List.lookup_append]
    by_cases own : key = policyKey policy.name
    · have fresh : (policies.map fun policy => (policyKey policy.name,
          codec.dumps (entryOf selects pods policy))).lookup key = none := by
        refine List.lookup_eq_none_iff.mpr fun item listed => ?_
        obtain ⟨other, member, rfl⟩ := List.mem_map.mp listed
        rw [own, bne_iff_ne]
        exact fun same => distinct.2.2 _ (List.mem_map_of_mem member) _ (List.mem_singleton_self _)
          (policyKey_injective same).symm
      rw [if_pos own, fresh, own]
      simp
    · have missed : (key == policyKey policy.name) = false := beq_false_of_ne own
      rw [if_neg own, List.map_singleton, List.lookup_cons, missed, List.lookup_nil, Option.or_none]

/-- **The operator and the controller agree.** After every policy has been reconciled once, in any
order, into a registry that was absent or empty, a node that polls it holds its baseline, overridden
for each GPU that a matched Pod occupies by the highest tier of the policies that match such a Pod. -/
theorem handoff (namespaceName nodeName : String) (world : World) (hasApi : Bool)
    (baseline : Dict ℤ String) (distinct : (policies.map JobPowerPolicy.name).Nodup)
    (named : ∀ policy ∈ policies, policy.name ≠ "resolved-assignments")
    (valid : ∀ policy ∈ policies, policy.spec.priorityClass ∈ validTiers)
    (empty : world.registryData.items = [])
    (readable : ∀ pod ∈ world.pods.values, ReadableIndices pod)
    (entriesRoundTrip : ∀ policy ∈ policies,
      codec.RoundTrips (entryOf selects world.pods.values policy))
    (aggregateRoundTrips : ∀ assignments,
      assignments.Perm (publishedAssignments selects world.pods.values policies) →
        codec.RoundTrips (aggregatePayload assignments)) :
    ∃ after, (reconcileEach codec namespaceName policies).run (Operator.handle selects) world =
        (.ok (), after) ∧
      ∃ source, (PriorityConfigSource.new nodeName baseline hasApi).poll codec (pollInput after) =
          .ok source ∧
        AgreedTiers selects world.pods.values policies nodeName baseline source.snapshot := by
  have blank : ∀ key, world.registryData.get? key = none := by
    intro key
    rw [Dict.get?, empty, List.lookup_nil]
  obtain ⟨after, ran, _, _, history⟩ := @run_reconcileEach codec selects namespaceName world policies
    world [] (History.start codec world) readable (fun key raw found => by
      rw [blank] at found
      cases found) entriesRoundTrip
  rw [List.nil_append] at history
  refine ⟨after, ran, ?_⟩
  cases policies with
  | nil =>
    have untouched : after.registryData = world.registryData := by
      unfold World.registryData
      rw [history.untouched rfl]
    obtain ⟨source, polled, snapshot⟩ := @poll_new_of_empty codec nodeName baseline hasApi after
      (by rw [untouched, empty])
    refine ⟨source, polled, fun gpuIndex => ⟨fun _ => by rw [snapshot], ?_⟩⟩
    rintro ⟨policy, member, _⟩
    cases member
  | cons policy rest =>
    obtain ⟨configMap, stored, consistent⟩ := history.consistent (List.cons_ne_nil _ _)
    refine poll_entries stored ⟨distinct, named, fun key other => ?_⟩ consistent valid readable
      entriesRoundTrip aggregateRoundTrips
    have data : after.registryData = configMap.data := by
      rw [World.registryData, stored]
      rfl
    rw [← data, history.entries key other, blank, lastWritten_reconcileWrites codec distinct]

end Handoff

/-! ### Two policies and one Pod -/

/-- The training Pod and its two policies, before the first reconcile. -/
def trainWorld : World where
  registry := none
  revision := 0
  pods := trainPods
  policies := [trainPolicy "low", trainPolicy "critical"]
  fresh := fresh_empty

/-- Two policies of different tiers match the Pod on GPU 0: the node holds the higher one. -/
theorem handoff_two_policies :
    ∃ after, (reconcileEach trainCodec "opendps" [trainPolicy "low", trainPolicy "critical"]).run
        (Operator.handle trainSelects) trainWorld = (.ok (), after) ∧
      ∃ source, (PriorityConfigSource.new "node-a" ⟨[(7, "low")], by decide⟩ true).poll trainCodec
          (pollInput after) = .ok source ∧
        AgreedTiers trainSelects trainWorld.pods.values [trainPolicy "low", trainPolicy "critical"]
          "node-a" ⟨[(7, "low")], by decide⟩ source.snapshot := by
  have tiers : ∀ policy ∈ [trainPolicy "low", trainPolicy "critical"],
      ∃ tier, (tier = "low" ∨ tier = "critical") ∧ policy = trainPolicy tier := by
    intro policy listed
    rcases List.mem_cons.mp listed with rfl | listed
    · exact ⟨"low", .inl rfl, rfl⟩
    · exact ⟨"critical", .inr rfl, List.mem_singleton.mp listed⟩
  refine handoff "opendps" "node-a" trainWorld true _ (by decide) ?_ ?_ rfl ?_ ?_ ?_
  · intro policy listed
    obtain ⟨tier, rfl | rfl, rfl⟩ := tiers policy listed <;> decide
  · intro policy listed
    obtain ⟨tier, rfl | rfl, rfl⟩ := tiers policy listed <;> decide
  · intro pod listed
    rw [List.mem_singleton.mp listed]
    exact trainPod_readable
  · intro policy listed
    obtain ⟨tier, known, rfl⟩ := tiers policy listed
    have entry : entryOf trainSelects trainWorld.pods.values (trainPolicy tier) =
        trainEntry tier 1 := rfl
    rw [entry]
    exact trainEntry_roundTrips known (.inr rfl)
  · intro assignments perm
    have published : publishedAssignments trainSelects trainWorld.pods.values
        [trainPolicy "low", trainPolicy "critical"] =
          ["low", "critical"].map fun tier => (trainAssignment tier).toJson := rfl
    rw [published] at perm
    rcases List.perm_pair.mp perm with rfl | rfl
    · exact @trainAggregate_roundTrips ["low", "critical"] (.inl rfl)
    · exact @trainAggregate_roundTrips ["critical", "low"] (.inr rfl)

end Opendps.Controller
