/-
**What the registry publishes, policy by policy.**

Entries and the aggregate share one flat key space: a policy's entry is stored under its name with
`.json` appended, the aggregate under `resolved-assignments.json`. `aggregated_entries` says what the
aggregate of a registry is that holds the entries of some policies: their assignments, in some order.

From an absent registry, `every_policy_published_iff` says when the writes that have returned leave
every live policy published, that is, its latest entry under its own key and its assignments in the
aggregate: exactly when no live policy is called `resolved-assignments`, whose entry the aggregate
overwrites.
-/

import Opendps.Operator.Reconcile
import Mathlib.Data.List.Dedup
import Mathlib.Data.List.Permutation

namespace Opendps.Operator

open Opendps.Lib

/-- The assignments of an entry. -/
def assignmentsIn (entry : Json) : List Json := (listedAssignments entry).toOption.getD []

/-! ### The aggregate of some entries -/

section Entries

variable {codec : Codec} {entries : List (String × Json)} {data : Dict String String}

/-- The items that store some entries. -/
def entryItems (codec : Codec) (entries : List (String × Json)) : List (String × String) :=
  entries.map fun entry => (policyKey entry.1, codec.dumps entry.2)

/-- Registry data that holds some entries and nothing else but the aggregate. -/
structure StoresEntries (codec : Codec) (entries : List (String × Json))
    (data : Dict String String) : Prop where
  distinct : (entries.map Prod.fst).Nodup
  named : ∀ entry ∈ entries, entry.1 ≠ "resolved-assignments"
  stored : ∀ key, key ≠ resolvedAssignmentsKey →
    data.get? key = (entryItems codec entries).lookup key

theorem keys_entryItems (codec : Codec) (entries : List (String × Json)) :
    (entryItems codec entries).map Prod.fst = (entries.map Prod.fst).map policyKey := by
  rw [entryItems, List.map_map, List.map_map]
  rfl

theorem StoresEntries.nodup (stores : StoresEntries codec entries data) :
    ((entryItems codec entries).map Prod.fst).Nodup := by
  rw [keys_entryItems]
  exact stores.distinct.map policyKey_injective

theorem StoresEntries.items_perm (stores : StoresEntries codec entries data) :
    (data.pop resolvedAssignmentsKey).items.Perm (entryItems codec entries) := by
  have same : ∀ key, (data.pop resolvedAssignmentsKey).get? key =
      (⟨entryItems codec entries, stores.nodup⟩ : Dict _ _).get? key := by
    intro key
    rw [Dict.get?_pop]
    split
    · next own =>
      refine (Dict.get?_eq_none_iff.mpr fun listed => ?_).symm
      rw [Dict.keys, keys_entryItems] at listed
      obtain ⟨name, member, isKey⟩ := List.mem_map.mp listed
      obtain ⟨entry, inside, rfl⟩ := List.mem_map.mp member
      exact policyKey_ne_resolvedAssignmentsKey (stores.named entry inside) (isKey.trans own)
    · next other => exact stores.stored key other
  exact Dict.perm_of_get?_eq same

/-- An entry that is an object and reads back as written adds its assignments. -/
theorem entryAssignments_dumps {entry : Json} (object : entry.isObject = true)
    (roundTrips : codec.RoundTrips entry) :
    ReadableEntry codec (codec.dumps entry) ∧
      entryAssignments codec (codec.dumps entry) = assignmentsIn entry := by
  rw [ReadableEntry, entryAssignments, roundTrips]
  exact ⟨object, rfl⟩

/-- **The aggregate over such data** lists the assignments of the entries. -/
theorem aggregated_entries (stores : StoresEntries codec entries data)
    (objects : ∀ entry ∈ entries, entry.2.isObject = true)
    (roundTrips : ∀ entry ∈ entries, codec.RoundTrips entry.2) :
    ∃ published, published.Perm (entries.flatMap fun entry => assignmentsIn entry.2) ∧
      aggregateResolvedAssignments codec (data.pop resolvedAssignmentsKey) =
        .ok (codec.dumps (aggregatePayload published)) := by
  have perm : (data.pop resolvedAssignmentsKey).sortedItems.Perm (entryItems codec entries) :=
    (Dict.sortedItems_perm _).trans stores.items_perm
  have isEntry : ∀ item ∈ entryItems codec entries, isEntryKey item.1 = true := by
    intro item listed
    obtain ⟨entry, member, rfl⟩ := List.mem_map.mp listed
    exact isEntryKey_policyKey (stores.named entry member)
  have collected := @collectAssignments_ok codec (data.pop resolvedAssignmentsKey).sortedItems
    fun item listed _ => by
      obtain ⟨entry, member, rfl⟩ := List.mem_map.mp (perm.mem_iff.mp listed)
      exact (entryAssignments_dumps (objects entry member) (roundTrips entry member)).1
  refine ⟨_, ?_, by rw [aggregateResolvedAssignments, collected]; rfl⟩
  refine (sortedBy_perm _ _).trans (((perm.filter _).flatMap_right _).trans (List.Perm.of_eq ?_))
  rw [List.filter_eq_self.mpr isEntry, entryItems, List.flatMap_map]
  refine List.flatMap_congr fun entry member => ?_
  exact (entryAssignments_dumps (objects entry member) (roundTrips entry member)).2

end Entries

/-! ### The entries some writes leave -/

/-- The latest entry of a policy: none before its first write and after a delete. -/
def latest (writes : List RegistryWrite) (policyName : String) : Option Json :=
  (writes.filter fun write => decide (write.policyName = policyName)).getLast?.bind
    RegistryWrite.entry

/-- The live policies with their latest entries. -/
def liveEntries (writes : List RegistryWrite) : List (String × Json) :=
  (writes.map RegistryWrite.policyName).dedup.filterMap fun policyName =>
    (latest writes policyName).map fun entry => (policyName, entry)

/-- The live policies that do not claim the key of the aggregate. -/
def namedEntries (writes : List RegistryWrite) : List (String × Json) :=
  (liveEntries writes).filter fun entry => decide (entry.1 ≠ "resolved-assignments")

theorem exists_write_of_latest {writes : List RegistryWrite} {policyName : String} {entry : Json}
    (live : latest writes policyName = some entry) :
    ∃ write ∈ writes, write.policyName = policyName ∧ write.entry = some entry := by
  obtain ⟨write, last, given⟩ := Option.bind_eq_some_iff.mp live
  obtain ⟨member, own⟩ := List.mem_filter.mp (List.mem_of_getLast? last)
  exact ⟨write, member, of_decide_eq_true own, given⟩

theorem mem_liveEntries {writes : List RegistryWrite} {entry : String × Json} :
    entry ∈ liveEntries writes ↔ latest writes entry.1 = some entry.2 := by
  rw [liveEntries, List.mem_filterMap]
  constructor
  · rintro ⟨policyName, _, found⟩
    obtain ⟨value, live, rfl⟩ := Option.map_eq_some_iff.mp found
    exact live
  · intro live
    obtain ⟨write, member, own, _⟩ := exists_write_of_latest live
    refine ⟨entry.1, List.mem_dedup.mpr (List.mem_map.mpr ⟨write, member, own⟩), ?_⟩
    rw [live]
    rfl

theorem liveEntries_distinct (writes : List RegistryWrite) :
    ((liveEntries writes).map Prod.fst).Nodup := by
  have own : ∀ policyName name, name ∈ ((latest writes policyName).map fun entry =>
      (policyName, entry)).map Prod.fst → policyName = name := by
    intro policyName name found
    obtain ⟨item, member, rfl⟩ := Option.map_eq_some_iff.mp found
    obtain ⟨entry, _, rfl⟩ := Option.map_eq_some_iff.mp member
    rfl
  rw [liveEntries, List.map_filterMap]
  refine (List.nodup_dedup _).filterMap fun first second name inFirst inSecond => ?_
  exact (own first name inFirst).trans (own second name inSecond).symm

/-- What the key of a policy holds, in terms of its latest entry. -/
theorem lastWritten_policyKey (codec : Codec) (writes : List RegistryWrite) (policyName : String) :
    lastWritten codec (policyKey policyName) none writes =
      (latest writes policyName).map codec.dumps := by
  have same : writesTo (policyKey policyName) writes =
      writes.filter fun write => decide (write.policyName = policyName) :=
    List.filter_congr fun write _ => decide_eq_decide.mpr policyKey_injective.eq_iff
  rw [lastWritten, same, latest]
  cases (writes.filter fun write => decide (write.policyName = policyName)).getLast? with
  | none => rfl
  | some write => rfl

/-- The registry stores the latest entries of the live policies that are named otherwise than the
aggregate. -/
theorem History.stores {codec : Codec} {first world : World} {writes : List RegistryWrite}
    (history : History codec first writes world) (absent : first.registry = none) :
    StoresEntries codec (namedEntries writes) world.registryData := by
  have blank : ∀ key, first.registryData.get? key = none := by
    intro key
    rw [World.registryData, absent]
    rfl
  have distinct : ((namedEntries writes).map Prod.fst).Nodup :=
    (List.filter_sublist.map Prod.fst).nodup (liveEntries_distinct writes)
  refine ⟨distinct, fun entry member => of_decide_eq_true (List.mem_filter.mp member).2,
    fun key other => ?_⟩
  have nodup : ((entryItems codec (namedEntries writes)).map Prod.fst).Nodup := by
    rw [keys_entryItems]
    exact distinct.map policyKey_injective
  rw [history.entries key other, blank]
  refine Option.ext fun text => ?_
  rw [Dict.lookup_eq_some_iff nodup]
  constructor
  · intro written
    have some : ∃ write ∈ writes, key = policyKey write.policyName := by
      by_contra none
      rw [History.lastWritten_of_forall_ne fun write member own => none ⟨write, member, own⟩]
        at written
      cases written
    obtain ⟨write, _, rfl⟩ := some
    rw [lastWritten_policyKey] at written
    obtain ⟨entry, live, rfl⟩ := Option.map_eq_some_iff.mp written
    refine List.mem_map.mpr ⟨(write.policyName, entry), List.mem_filter.mpr
      ⟨mem_liveEntries.mpr live, decide_eq_true fun reserved => other ?_⟩, rfl⟩
    have same : write.policyName = "resolved-assignments" := reserved
    rw [same]
    rfl
  · intro listed
    obtain ⟨entry, member, same⟩ := List.mem_map.mp listed
    cases same
    rw [lastWritten_policyKey, mem_liveEntries.mp (List.mem_filter.mp member).1]
    rfl

/-! ### Every live policy is published -/

/-- After some writes, the latest entry of every live policy is under its key, and the aggregate
lists the assignments of these entries, in some order. -/
structure EveryPolicyPublished (codec : Codec) (writes : List RegistryWrite) (world : World) :
    Prop where
  entries : ∀ policyName entry, latest writes policyName = some entry →
    world.registryData.get? (policyKey policyName) = some (codec.dumps entry)
  aggregate : writes ≠ [] → ∃ published,
    world.registryData.get? resolvedAssignmentsKey =
      some (codec.dumps (aggregatePayload published)) ∧
    published.Perm ((liveEntries writes).flatMap fun entry => assignmentsIn entry.2)

/-- An entry of a policy is not an aggregate: it has a priority. -/
theorem registryEntry_ne_aggregatePayload (policy : JobPowerPolicy) (matched : ℕ)
    (assignments : List Assignment) (published : List Json) :
    registryEntry policy matched assignments ≠ aggregatePayload published := by
  intro same
  have priority : (registryEntry policy matched assignments).get? "priority" =
      some (.str policy.spec.priorityClass) := Json.get?_object (by simp) (by simp)
  rw [same, aggregatePayload, Json.get?_object_of_not_mem (by simp)] at priority
  cases priority

section Pool

variable {ι : Type} [DecidableEq ι] (codec : Codec)
  (selects : String → Dict String String → Bool) (namespaceName : String)

/-- **Every policy is published whatever its name, but for one.** From an absent registry, and however
the API calls of the writes interleave, the writes that have returned leave every live policy
published exactly when no policy called `resolved-assignments` is live. -/
theorem every_policy_published_iff {world : World} (absent : world.registry = none)
    (calls : ι → RegistryWrite) (order : List ι)
    (entries : ∀ i entry, (calls i).entry = some entry → ∃ policy matched assignments,
      entry = registryEntry policy matched assignments)
    (entriesRoundTrip : ∀ i entry, (calls i).entry = some entry → codec.RoundTrips entry)
    (aggregateRoundTrips : ∀ published : List Json, published.Perm ((namedEntries
        ((completedCalls selects (registryPool codec namespaceName world calls) order).map
          calls)).flatMap fun entry => assignmentsIn entry.2) →
      codec.RoundTrips (aggregatePayload published)) :
    let pool := registryPool codec namespaceName world calls
    let writes := (completedCalls selects pool order).map calls
    EveryPolicyPublished codec writes (afterCalls selects pool order).world ↔
      latest writes "resolved-assignments" = none := by
  intro pool writes
  have history : History codec world writes (afterCalls selects pool order).world :=
    history_afterCalls codec selects namespaceName world calls order
  have stores := history.stores absent
  have call : ∀ name entry, latest writes name = some entry →
      ∃ i, (calls i).entry = some entry := by
    intro name entry live
    obtain ⟨write, member, _, given⟩ := exists_write_of_latest live
    obtain ⟨i, _, rfl⟩ := List.mem_map.mp member
    exact ⟨i, given⟩
  have objects : ∀ entry ∈ namedEntries writes, entry.2.isObject = true := by
    intro entry member
    obtain ⟨i, given⟩ := call _ _ (mem_liveEntries.mp (List.mem_filter.mp member).1)
    obtain ⟨policy, matched, assignments, same⟩ := entries i _ given
    rw [same]
    rfl
  have roundTrips : ∀ entry ∈ namedEntries writes, codec.RoundTrips entry.2 := by
    intro entry member
    obtain ⟨i, given⟩ := call _ _ (mem_liveEntries.mp (List.mem_filter.mp member).1)
    exact entriesRoundTrip i _ given
  obtain ⟨published, perm, aggregated⟩ := aggregated_entries stores objects roundTrips
  -- what the aggregate key holds once a write has returned
  have listed : writes ≠ [] → (afterCalls selects pool order).world.registryData.get?
      resolvedAssignmentsKey = some (codec.dumps (aggregatePayload published)) := by
    intro some
    obtain ⟨configMap, stored, aggregate, collected, held⟩ := history.consistent some
    have data : (afterCalls selects pool order).world.registryData = configMap.data := by
      rw [World.registryData, stored]
      rfl
    rw [data] at aggregated ⊢
    cases aggregated.symm.trans collected
    exact held
  constructor
  · intro all
    by_contra live
    obtain ⟨entry, live⟩ := Option.ne_none_iff_exists'.mp live
    obtain ⟨i, given⟩ := call _ _ live
    have some : writes ≠ [] := by
      obtain ⟨write, member, _⟩ := exists_write_of_latest live
      exact List.ne_nil_of_mem member
    have text : codec.dumps entry = codec.dumps (aggregatePayload published) :=
      Option.some.inj ((all.entries _ _ live).symm.trans (listed some))
    have own : codec.RoundTrips entry := entriesRoundTrip i _ given
    have aggregate : codec.RoundTrips (aggregatePayload published) :=
      aggregateRoundTrips published perm
    rw [Codec.RoundTrips, text, aggregate] at own
    obtain ⟨policy, matched, assignments, rfl⟩ := entries i _ given
    exact registryEntry_ne_aggregatePayload policy matched assignments published
      (Except.ok.inj own).symm
  · intro unclaimed
    have all : namedEntries writes = liveEntries writes := by
      refine List.filter_eq_self.mpr fun entry member => decide_eq_true fun reserved => ?_
      have live := mem_liveEntries.mp member
      rw [reserved, unclaimed] at live
      cases live
    refine ⟨fun policyName entry live => ?_, fun some => ⟨published, listed some, all ▸ perm⟩⟩
    have named : policyName ≠ "resolved-assignments" := by
      rintro rfl
      rw [unclaimed] at live
      cases live
    rw [history.entries _ (policyKey_ne_resolvedAssignmentsKey named)]
    have blank : world.registryData.get? (policyKey policyName) = none := by
      rw [World.registryData, absent]
      rfl
    rw [blank, lastWritten_policyKey, live]
    rfl

end Pool

/-! ### Two policies, and one that claims the key of the aggregate -/

/-- A namespace with nothing in it. -/
def emptyWorld : World where
  registry := none
  revision := 0
  pods := .empty
  policies := []
  fresh := fresh_empty

/-- The writes of the two policies for training. -/
def trainCalls (second : Bool) : RegistryWrite :=
  let tier := if second then "critical" else "low"
  ⟨tier ++ "-train", some (trainEntry tier 1)⟩

/-- Both policies are published when they are written one after the other. -/
theorem every_policy_published_train :
    EveryPolicyPublished trainCodec
      ((completedCalls trainSelects (registryPool trainCodec "opendps" emptyWorld trainCalls)
        [false, false, true, true]).map trainCalls)
      (afterCalls trainSelects (registryPool trainCodec "opendps" emptyWorld trainCalls)
        [false, false, true, true]).world := by
  have tiers : ∀ second entry, (trainCalls second).entry = some entry →
      ∃ tier, (tier = "low" ∨ tier = "critical") ∧ entry = trainEntry tier 1 := by
    intro second entry given
    cases second with
    | false => exact ⟨"low", .inl rfl, (Option.some.inj given).symm⟩
    | true => exact ⟨"critical", .inr rfl, (Option.some.inj given).symm⟩
  have completed : completedCalls trainSelects (registryPool trainCodec "opendps" emptyWorld
      trainCalls) [false, false, true, true] = [false, true] := by decide +kernel
  refine (every_policy_published_iff trainCodec trainSelects "opendps" rfl trainCalls
    [false, false, true, true] ?_ ?_ ?_).mpr ?_
  · intro second entry given
    obtain ⟨tier, _, rfl⟩ := tiers second entry given
    exact ⟨_, _, _, rfl⟩
  · intro second entry given
    obtain ⟨tier, known, rfl⟩ := tiers second entry given
    exact trainEntry_roundTrips known (.inr rfl)
  · rw [completed]
    intro published perm
    have listed : (namedEntries ([false, true].map trainCalls)).flatMap
        (fun entry => assignmentsIn entry.2) =
          ["low", "critical"].map fun tier => (trainAssignment tier).toJson := rfl
    rw [listed] at perm
    rcases List.perm_pair.mp perm with rfl | rfl
    · exact @trainAggregate_roundTrips ["low", "critical"] (.inl rfl)
    · exact @trainAggregate_roundTrips ["critical", "low"] (.inr rfl)
  · rw [completed]
    decide +kernel

/-- The entry of a policy called `resolved-assignments` is lost as it is written. -/
theorem policy_lost_to_aggregate :
    isOk ((writeBoostRegistry trainCodec "opendps" "resolved-assignments"
        (some (trainEntry "low" 1))).run (handle trainSelects) emptyWorld).1 = true ∧
      ((writeBoostRegistry trainCodec "opendps" "resolved-assignments"
          (some (trainEntry "low" 1))).run (handle trainSelects) emptyWorld).2.registryData.get?
            (policyKey "resolved-assignments") = some (trainCodec.dumps (aggregatePayload [])) ∧
      trainCodec.dumps (aggregatePayload []) ≠ trainCodec.dumps (trainEntry "low" 1) ∧
      assignmentsIn (trainEntry "low" 1) = [(trainAssignment "low").toJson] := by
  refine ⟨by decide +kernel, by decide +kernel, by decide +kernel, rfl⟩

end Opendps.Operator
