/-
**The boost registry and the one function that writes it.**

The registry is one ConfigMap: an entry for each policy under `<policy>.json`, and under
`resolved-assignments.json` the assignments of all entries together. `writeBoostRegistry` reads it,
changes one entry, recomputes the aggregate and replaces the object at the version it read; a
conflict starts the attempt again, up to three times.

The update an attempt computes is a function of the data it read (`updateData`). `attempts_safe` says
that, whatever others do to the registry in between, a write takes effect as that one update at the
moment it completes (`Published`), and until then, or if it raises, not at all.
-/

import Opendps.Operator.Assignments

namespace Opendps.Operator

open Opendps.Lib

def boostConfigMapName : String := "opendps-job-boosts"

def resolvedAssignmentsKey : String := "resolved-assignments.json"

def policyKey (policyName : String) : String := policyName ++ ".json"

/-! ### The aggregate -/

/-- The assignments an entry lists. -/
def listedAssignments (policy : Json) : Except PyError (List Json) :=
  if policy.isObject then
    match policy.get? "assignments" with
    | some (.arr values) => .ok (values.filter Json.isObject)
    | _ => .ok []
  else .error (.attributeError ("'" ++ policy.typeName ++ "' object has no attribute 'get'"))

/-- Whether a key holds the entry of a policy. -/
def isEntryKey (key : String) : Bool :=
  key ≠ resolvedAssignmentsKey && ".json".toList.isSuffixOf key.toList

/-- The assignments of all entries, in order; entries that do not parse are skipped. -/
def collectAssignments (codec : Codec) : List (String × String) → Except PyError (List Json)
  | [] => .ok []
  | (key, raw) :: rest =>
    if isEntryKey key then
      match codec.loads raw with
      | .error (.typeError _) => collectAssignments codec rest
      | .error (.jsonDecodeError _) => collectAssignments codec rest
      | .error exc => .error exc
      | .ok policy => do
        let values ← listedAssignments policy
        let others ← collectAssignments codec rest
        pure (values ++ others)
    else collectAssignments codec rest

/-- `gpuIndex` when it is an integer, else -1. -/
def gpuIndexOrMinusOne (value : Json) : ℤ :=
  match value.get? "gpuIndex" with
  | some (.int index) => index
  | _ => -1

/-- The order of the published assignments. -/
def publishedKey (codec : Codec) (value : Json) : String ×ₗ ℤ ×ₗ String ×ₗ String :=
  let field name := codec.str ((value.get? name).getD (.str ""))
  toLex (field "nodeName", toLex (gpuIndexOrMinusOne value, toLex (field "podUid",
    field "policyUid")))

def aggregatePayload (assignments : List Json) : Json :=
  .object [("assignments", .arr assignments), ("schemaVersion", .int boostSchemaVersion)]

/-- The text under `resolved-assignments.json` for the given data. -/
def aggregateResolvedAssignments (codec : Codec) (data : Dict String String) :
    Except PyError String := do
  let assignments ← collectAssignments codec data.sortedItems
  pure (codec.dumps (aggregatePayload (sortedBy (publishedKey codec) assignments)))

/-- What an entry text adds to the aggregate. -/
def entryAssignments (codec : Codec) (raw : String) : List Json :=
  match codec.loads raw with
  | .ok policy => (listedAssignments policy).toOption.getD []
  | .error _ => []

/-- A text that does not stop the aggregation: an object, or not JSON at all. -/
def ReadableEntry (codec : Codec) (raw : String) : Prop :=
  match codec.loads raw with
  | .ok policy => policy.isObject = true
  | .error (.typeError _) => True
  | .error (.jsonDecodeError _) => True
  | .error _ => False

/-- The aggregate lists what the entries add, in the order of their keys. -/
theorem collectAssignments_ok (codec : Codec) {items : List (String × String)}
    (readable : ∀ item ∈ items, isEntryKey item.1 = true → ReadableEntry codec item.2) :
    collectAssignments codec items = .ok ((items.filter fun item => isEntryKey item.1).flatMap
      fun item => entryAssignments codec item.2) := by
  induction items with
  | nil => rfl
  | cons item rest ih =>
    obtain ⟨key, raw⟩ := item
    have others := ih fun other listed => readable other (List.mem_cons_of_mem _ listed)
    by_cases entry : isEntryKey key = true
    · have own := readable (key, raw) List.mem_cons_self entry
      rw [List.filter_cons_of_pos (by exact entry), List.flatMap_cons, collectAssignments,
        if_pos entry, others]
      unfold ReadableEntry at own
      unfold entryAssignments
      split at own
      · next policy loaded =>
        have listed : ∃ values, listedAssignments policy = .ok values := by
          rw [listedAssignments, if_pos own]
          split <;> exact ⟨_, rfl⟩
        obtain ⟨values, listed⟩ := listed
        simp only [loaded, listed, bind, Except.bind, pure, Except.pure, Except.toOption,
          Option.getD_some]
      · next loaded => simp only [loaded, List.nil_append]
      · next loaded => simp only [loaded, List.nil_append]
      · cases own
    · rw [List.filter_cons_of_neg (by exact entry), collectAssignments, if_neg entry, others]

section Entry

variable {policy : JobPowerPolicy} {matched : ℕ} {assignments : List Assignment} {codec : Codec}

theorem listedAssignments_registryEntry (policy : JobPowerPolicy) (matched : ℕ)
    (assignments : List Assignment) :
    listedAssignments (registryEntry policy matched assignments) =
      .ok (assignments.map Assignment.toJson) := by
  have listed : (registryEntry policy matched assignments).get? "assignments" =
      some (.arr (assignments.map Assignment.toJson)) := Json.get?_object (by simp) (by simp)
  have objects : (assignments.map Assignment.toJson).filter Json.isObject =
      assignments.map Assignment.toJson := by
    refine List.filter_eq_self.mpr fun value member => ?_
    obtain ⟨assignment, _, rfl⟩ := List.mem_map.mp member
    rfl
  have object : (registryEntry policy matched assignments).isObject = true := rfl
  rw [listedAssignments, if_pos object, listed]
  exact congrArg Except.ok objects

theorem readableEntry_registryEntry
    (roundTrips : codec.RoundTrips (registryEntry policy matched assignments)) :
    ReadableEntry codec (codec.dumps (registryEntry policy matched assignments)) := by
  rw [ReadableEntry, roundTrips]
  rfl

theorem isEntryKey_policyKey {policyName : String} (named : policyName ≠ "resolved-assignments") :
    isEntryKey (policyKey policyName) = true := by
  have other : policyKey policyName ≠ resolvedAssignmentsKey :=
    fun same => named ((String.append_left_inj ".json").mp same)
  have suffix : ".json".toList <:+ (policyKey policyName).toList := by
    rw [policyKey, String.toList_append]
    exact List.suffix_append _ _
  rw [isEntryKey, decide_eq_true other, Bool.true_and]
  exact List.isSuffixOf_iff_suffix.mpr suffix

end Entry

/-! ### The write -/

/-- The data with one policy's entry stored, or removed. -/
def storeEntry (codec : Codec) (policyName : String) (entry : Option Json)
    (original : Dict String String) : Dict String String :=
  match entry with
  | none => original.pop (policyKey policyName)
  | some entry => original.set (policyKey policyName) (codec.dumps entry)

/-- The data after one policy's entry is changed and the aggregate recomputed. -/
def updateData (codec : Codec) (policyName : String) (entry : Option Json)
    (original : Dict String String) : Except PyError (Dict String String) := do
  let aggregate ← aggregateResolvedAssignments codec (storeEntry codec policyName entry original)
  pure ((storeEntry codec policyName entry original).set resolvedAssignmentsKey aggregate)

def remainedConflicted (namespaceName : String) : OperatorError :=
  .temporary ("boost registry " ++ namespaceName ++ "/" ++ boostConfigMapName ++
    " remained conflicted after 3 attempts") 1

/-- One attempt; `conflicted` is what follows a conflict. -/
def attempt (codec : Codec) (policyName : String) (entry : Option Json)
    (conflicted : Handler Unit) : Handler Unit :=
  .call .readRegistry fun current => match current with
    | .error exc =>
      if exc.status ≠ 404 then .ret (.error (.api exc))
      else
        -- a registry that does not exist is created with this entry alone
        match updateData codec policyName entry .empty with
        | .error exc => .ret (.error (.python exc))
        | .ok data => .call (.createRegistry data) fun created => match created with
          | .ok () => .ret (.ok ())
          | .error exc => if exc.status = 409 then conflicted else .ret (.error (.api exc))
    | .ok current =>
      match updateData codec policyName entry current.data with
      | .error exc => .ret (.error (.python exc))
      | .ok data =>
        if data.same current.data then .ret (.ok ())
        else .call (.replaceRegistry data current.resourceVersion) fun replaced =>
          match replaced with
          | .ok () => .ret (.ok ())
          | .error exc => if exc.status = 409 then conflicted else .ret (.error (.api exc))

/-- Some attempts in a row, then a `TemporaryError`. -/
def attempts (codec : Codec) (namespaceName policyName : String) (entry : Option Json) :
    ℕ → Handler Unit
  | 0 => .ret (.error (remainedConflicted namespaceName))
  | more + 1 => attempt codec policyName entry (attempts codec namespaceName policyName entry more)

/-- Publish one policy's entry, or remove it. -/
def writeBoostRegistry (codec : Codec) (namespaceName policyName : String) (entry : Option Json) :
    Handler Unit :=
  attempts codec namespaceName policyName entry 3

/-! ### A write is one update -/

/-- Whether a handler has returned without raising. -/
def isOk {α : Type} : Except OperatorError α → Bool
  | .ok _ => true
  | .error _ => false

/-- What any party may do to the registry: leave it, or store it under a version not used before. -/
def Rely (before after : World) : Prop :=
  (after.registry = before.registry ∨ ∃ configMap, after.registry = some configMap ∧
    before.revision < configMap.resourceVersion) ∧ before.revision ≤ after.revision

theorem Rely.refl (world : World) : Rely world world := ⟨.inl rfl, le_rfl⟩

theorem Rely.trans (first second third : World) (one : Rely first second)
    (two : Rely second third) : Rely first third := by
  refine ⟨?_, one.2.trans two.2⟩
  rcases two.1 with same | ⟨configMap, stored, newer⟩
  · rw [same]
    exact one.1
  · exact .inr ⟨configMap, stored, one.2.trans_lt newer⟩

theorem rely_writeRegistry (world : World) (data : Dict String String) :
    Rely world (world.writeRegistry data) :=
  ⟨.inr ⟨_, rfl, Nat.lt_succ_self _⟩, Nat.le_succ _⟩

/-- The step from one world to the next applies the update of one policy's entry. -/
def Published (codec : Codec) (policyName : String) (entry : Option Json)
    (before after : World) : Prop :=
  ∃ data configMap, updateData codec policyName entry before.registryData = .ok data ∧
    after.registry = some configMap ∧ ∀ key, configMap.data.get? key = data.get? key

/-- A step of a write keeps to the rely; the step that completes it publishes the entry, and any
other leaves the registry alone. -/
def WriteStep {α : Type} (codec : Codec) (policyName : String) (entry : Option Json)
    (before after : World) (result : Option (Except OperatorError α)) : Prop :=
  Rely before after ∧
    if result.any isOk then Published codec policyName entry before after
    else after.registry = before.registry

section Write

variable {codec : Codec} {namespaceName policyName : String} {entry : Option Json}
  {selects : String → Dict String String → Bool}

/-- A step that changes nothing and does not complete the write. -/
theorem writeStep_of_same {α : Type} {world : World} {result : Option (Except OperatorError α)}
    (incomplete : result.any isOk = false) :
    WriteStep codec policyName entry world world result :=
  ⟨Rely.refl world, by rw [incomplete]; rfl⟩

/-- What follows a conflict is not yet a completed write. -/
theorem result_attempts (codec : Codec) (namespaceName policyName : String) (entry : Option Json)
    (more : ℕ) :
    (attempts codec namespaceName policyName entry more).result?.any isOk = false := by
  cases more <;> rfl

/-- An attempt is safe when what follows a conflict is. -/
theorem attempt_safe {conflicted : Handler Unit} (incomplete : conflicted.result?.any isOk = false)
    (conflictedSafe : ∀ world, conflicted.Safe (handle selects) Rely
      (WriteStep codec policyName entry) (fun _ _ => True) world) (world : World) :
    (attempt codec policyName entry conflicted).Safe (handle selects) Rely
      (WriteStep codec policyName entry) (fun _ _ => True) world := by
  intro read _
  -- the read itself changes nothing; it completes the write only when nothing is to change
  cases found : read.registry with
  | none =>
    simp only [handle, found, notFound]
    cases update : updateData codec policyName entry .empty with
    | error exc => exact ⟨writeStep_of_same rfl, fun _ _ => trivial⟩
    | ok data =>
      refine ⟨writeStep_of_same rfl, fun later _ => ?_⟩
      cases present : later.registry with
      | none =>
        simp only [handle, present]
        refine ⟨⟨rely_writeRegistry later data, ?_⟩, fun _ _ => trivial⟩
        exact ⟨data, _, by rw [World.registryData, present]; exact update, rfl, fun _ => rfl⟩
      | some configMap =>
        simp only [handle, present, conflict]
        exact ⟨writeStep_of_same incomplete, conflictedSafe later⟩
  | some current =>
    simp only [handle, found]
    cases update : updateData codec policyName entry current.data with
    | error exc => exact ⟨writeStep_of_same rfl, fun _ _ => trivial⟩
    | ok data =>
      simp only
      by_cases unchanged : data.same current.data = true
      · rw [if_pos unchanged]
        refine ⟨⟨Rely.refl read, ?_⟩, fun _ _ => trivial⟩
        refine ⟨data, current, by rw [World.registryData, found]; exact update, found, fun key => ?_⟩
        exact (Dict.same_iff.mp unchanged key).symm
      · rw [if_neg unchanged]
        refine ⟨writeStep_of_same rfl, fun later changed => ?_⟩
        cases present : later.registry with
        | none =>
          rcases changed.1 with same | ⟨configMap, stored, _⟩
          · rw [present, found] at same
            cases same
          · rw [present] at stored
            cases stored
        | some configMap =>
          simp only [handle, present]
          by_cases versions : current.resourceVersion = configMap.resourceVersion
          · -- nobody wrote since the read: a write would have taken a newer version
            have same : configMap = current := by
              rcases changed.1 with same | ⟨newer, stored, above⟩
              · rw [present, found] at same
                exact Option.some.inj same
              · rw [present] at stored
                cases stored
                have known := read.fresh current found
                omega
            rw [if_pos versions]
            refine ⟨⟨rely_writeRegistry later data, ?_⟩, fun _ _ => trivial⟩
            refine ⟨data, _, ?_, rfl, fun _ => rfl⟩
            rw [World.registryData, present, same]
            exact update
          · rw [if_neg versions]
            simp only [conflict]
            exact ⟨writeStep_of_same incomplete, conflictedSafe later⟩

/-- **Any number of attempts is safe.** Between its calls others may write the registry as they like;
the write takes effect in its last step, as one update of the data it finds there. -/
theorem attempts_safe (more : ℕ) (world : World) :
    (attempts codec namespaceName policyName entry more).Safe (handle selects) Rely
      (WriteStep codec policyName entry) (fun _ _ => True) world := by
  induction more generalizing world with
  | zero => exact fun _ _ => trivial
  | succ more ih =>
    exact attempt_safe (result_attempts codec namespaceName policyName entry more) ih world

theorem writeBoostRegistry_safe (world : World) :
    (writeBoostRegistry codec namespaceName policyName entry).Safe (handle selects) Rely
      (WriteStep codec policyName entry) (fun _ _ => True) world :=
  attempts_safe 3 world

end Write

/-! ### What an update does to the data -/

section Update

variable {codec : Codec} {policyName : String} {entry : Option Json}

theorem policyKey_ne_resolvedAssignmentsKey (named : policyName ≠ "resolved-assignments") :
    policyKey policyName ≠ resolvedAssignmentsKey := by
  intro same
  refine named ?_
  have split : policyName ++ ".json" = "resolved-assignments" ++ ".json" := same
  exact String.append_left_inj _ |>.mp split

theorem policyKey_injective : Function.Injective policyKey := fun _ _ same =>
  String.append_left_inj _ |>.mp same

/-- The aggregate does not read its own key. -/
theorem collectAssignments_filter (codec : Codec) (items : List (String × String)) :
    collectAssignments codec (items.filter fun item => item.1 ≠ resolvedAssignmentsKey) =
      collectAssignments codec items := by
  induction items with
  | nil => rfl
  | cons item rest ih =>
    obtain ⟨key, raw⟩ := item
    by_cases own : key = resolvedAssignmentsKey
    · have skipped : isEntryKey key = false := by simp [isEntryKey, own]
      rw [List.filter_cons_of_neg (by simp [own]), ih]
      simp [collectAssignments, skipped]
    · rw [List.filter_cons_of_pos (by simp [own])]
      simp only [collectAssignments, ih]

/-- The aggregate depends on the other keys only. -/
theorem aggregate_congr (codec : Codec) {first second : Dict String String}
    (same : ∀ key, key ≠ resolvedAssignmentsKey → first.get? key = second.get? key) :
    aggregateResolvedAssignments codec first = aggregateResolvedAssignments codec second := by
  have popped : ∀ key, (first.pop resolvedAssignmentsKey).get? key =
      (second.pop resolvedAssignmentsKey).get? key := by
    intro key
    rw [Dict.get?_pop, Dict.get?_pop]
    split
    · rfl
    · next other => exact same key other
  have collected : ∀ data : Dict String String, collectAssignments codec data.sortedItems =
      collectAssignments codec (data.pop resolvedAssignmentsKey).sortedItems := by
    intro data
    rw [Dict.sortedItems_pop, collectAssignments_filter]
  unfold aggregateResolvedAssignments
  rw [collected first,
    collected second, Dict.sortedItems_congr popped]

/-- The aggregate of the data is the aggregate of the other keys. -/
theorem aggregate_pop (codec : Codec) (data : Dict String String) :
    aggregateResolvedAssignments codec (data.pop resolvedAssignmentsKey) =
      aggregateResolvedAssignments codec data :=
  aggregate_congr codec fun key other => by rw [Dict.get?_pop, if_neg other]

/-- Data whose aggregate key holds the aggregate of the other keys. -/
def Consistent (codec : Codec) (data : Dict String String) : Prop :=
  ∃ aggregate, aggregateResolvedAssignments codec (data.pop resolvedAssignmentsKey) =
    .ok aggregate ∧ data.get? resolvedAssignmentsKey = some aggregate

theorem get?_storeEntry (codec : Codec) (policyName : String) (entry : Option Json)
    (original : Dict String String) (key : String) :
    (storeEntry codec policyName entry original).get? key =
      if key = policyKey policyName then entry.map codec.dumps else original.get? key := by
  cases entry with
  | none => exact Dict.get?_pop _ _ _
  | some value => exact Dict.get?_set _ _ _ _

/-- **What an update does**: it changes the entry, keeps every other key but the aggregate, and
leaves the data consistent. -/
theorem updateData_ok {original data : Dict String String}
    (update : updateData codec policyName entry original = .ok data) :
    (∀ key, key ≠ resolvedAssignmentsKey → data.get? key =
      if key = policyKey policyName then entry.map codec.dumps else original.get? key) ∧
      Consistent codec data := by
  unfold updateData at update
  cases aggregate : aggregateResolvedAssignments codec (storeEntry codec policyName entry original)
    with
  | error exc =>
    rw [aggregate] at update
    cases update
  | ok text =>
    rw [aggregate] at update
    cases update
    refine ⟨fun key other => ?_, text, ?_, Dict.get?_set_self _ _ _⟩
    · rw [Dict.get?_set_of_ne _ _ other, get?_storeEntry]
    · rw [aggregate_pop, ← aggregate]
      exact aggregate_congr codec fun key other => Dict.get?_set_of_ne _ _ other

theorem Consistent.congr {first second : Dict String String} (consistent : Consistent codec first)
    (same : ∀ key, second.get? key = first.get? key) : Consistent codec second := by
  obtain ⟨aggregate, collected, stored⟩ := consistent
  refine ⟨aggregate, ?_, (same _).trans stored⟩
  rw [aggregate_pop] at collected ⊢
  exact (aggregate_congr codec fun key _ => same key).trans collected

/-- A published entry is there, and the rest is as it was. -/
theorem Published.entries {before after : World}
    (published : Published codec policyName entry before after) {key : String}
    (other : key ≠ resolvedAssignmentsKey) : after.registryData.get? key =
      if key = policyKey policyName then entry.map codec.dumps else before.registryData.get? key := by
  obtain ⟨data, configMap, update, stored, lookups⟩ := published
  rw [World.registryData, stored]
  exact (lookups key).trans ((updateData_ok update).1 key other)

/-- A registry in which an entry was published is consistent. -/
theorem Published.consistent {before after : World}
    (published : Published codec policyName entry before after) :
    ∃ configMap, after.registry = some configMap ∧ Consistent codec configMap.data := by
  obtain ⟨data, configMap, update, stored, lookups⟩ := published
  exact ⟨configMap, stored, (updateData_ok update).2.congr lookups⟩

/-- An update of consistent data with the entry it already has changes nothing. -/
theorem updateData_of_stored {data : Dict String String} {value : Json}
    (consistent : Consistent codec data)
    (stored : policyName ≠ "resolved-assignments" →
      data.get? (policyKey policyName) = some (codec.dumps value)) :
    ∃ updated, updateData codec policyName (some value) data = .ok updated ∧
      ∀ key, updated.get? key = data.get? key := by
  obtain ⟨aggregate, collected, listed⟩ := consistent
  have others : ∀ key, key ≠ resolvedAssignmentsKey →
      (storeEntry codec policyName (some value) data).get? key = data.get? key := by
    intro key other
    rw [get?_storeEntry]
    split
    · next own =>
      rw [own] at other ⊢
      refine (stored fun named => other ?_).symm
      rw [named]
      rfl
    · rfl
  rw [aggregate_pop, ← aggregate_congr codec others] at collected
  refine ⟨_, by rw [updateData, collected]; rfl, fun key => ?_⟩
  rw [Dict.get?_set]
  split
  · next own => rw [own, listed]
  · next other => exact others key other

/-- Data whose entries do not stop the aggregation. -/
def ReadableData (codec : Codec) (data : Dict String String) : Prop :=
  ∀ key raw, data.get? key = some raw → isEntryKey key = true → ReadableEntry codec raw

/-- **An update succeeds** when neither the entries nor the new one stop the aggregation. -/
theorem exists_updateData {original : Dict String String} (readable : ReadableData codec original)
    (readableEntry : ∀ value, entry = some value → ReadableEntry codec (codec.dumps value)) :
    ∃ data, updateData codec policyName entry original = .ok data ∧ ReadableData codec data := by
  have stored : ReadableData codec (storeEntry codec policyName entry original) := by
    intro key raw found isEntry
    rw [get?_storeEntry] at found
    split at found
    · obtain ⟨value, given, rfl⟩ := Option.map_eq_some_iff.mp found
      exact readableEntry value given
    · exact readable key raw found isEntry
  have storedItem : ∀ item ∈ (storeEntry codec policyName entry original).sortedItems,
      isEntryKey item.1 = true → ReadableEntry codec item.2 := fun item listed =>
    stored item.1 item.2 (Dict.get?_eq_some_iff.mpr ((Dict.sortedItems_perm _).mem_iff.mp listed))
  have collected := collectAssignments_ok codec storedItem
  refine ⟨_, by rw [updateData, aggregateResolvedAssignments, collected]; rfl, ?_⟩
  intro key raw found isEntry
  have other : key ≠ resolvedAssignmentsKey := by
    rintro rfl
    cases isEntry
  rw [Dict.get?_set_of_ne _ _ other] at found
  exact stored key raw found isEntry

/-- Publishing an entry that does not stop the aggregation leaves data that does not. -/
theorem Published.readable {before after : World}
    (published : Published codec policyName entry before after)
    (readable : ReadableData codec before.registryData)
    (readableEntry : ∀ value, entry = some value → ReadableEntry codec (codec.dumps value)) :
    ReadableData codec after.registryData := by
  intro key raw found isEntry
  have other : key ≠ resolvedAssignmentsKey := by
    rintro rfl
    cases isEntry
  rw [published.entries other] at found
  split at found
  · obtain ⟨value, given, rfl⟩ := Option.map_eq_some_iff.mp found
    exact readableEntry value given
  · exact readable key raw found isEntry

end Update

end Opendps.Operator
