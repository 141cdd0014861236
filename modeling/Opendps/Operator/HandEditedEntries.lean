/-
**Registry entries edited by hand.**

Every write of the registry recomputes the aggregate from all entries, whoever wrote them. An entry that
is not JSON is skipped, and within an object anything that is not a list of objects is. An entry that is
JSON of another kind is not: it has no `get`.

`aggregateWithin` is the aggregation with what the interpreter may refuse to write, values nested too
deeply, added to it; without such limits it is `aggregateResolvedAssignments`
(`aggregateWithin_unlimited`). `aggregate_tolerates_iff` says exactly when it returns the assignments of
all entries.
-/

import Opendps.Operator.Registry
import Opendps.Lib.Outcome

namespace Opendps.Operator

open Opendps.Lib

/-! ### What an entry is meant to add -/

/-- The objects in the `assignments` list of a text that is a JSON object; nothing for any other text. -/
def dictElements (codec : Codec) (raw : String) : List Json :=
  match codec.loads raw with
  | .ok (.obj fields) =>
    match fields.lookup "assignments" with
    | some (.arr values) => values.filter Json.isObject
    | _ => []
  | _ => []

/-- What all entries of a registry are meant to add. -/
def registryElements (codec : Codec) (data : Dict String String) : List Json :=
  (data.items.filter fun item => isEntryKey item.1).flatMap fun item => dictElements codec item.2

/-- The code adds that. -/
theorem entryAssignments_eq (codec : Codec) (raw : String) :
    entryAssignments codec raw = dictElements codec raw := by
  unfold entryAssignments dictElements
  cases codec.loads raw with
  | error exc => rfl
  | ok policy =>
    cases policy with
    | obj fields =>
      show (listedAssignments (.obj fields)).toOption.getD [] = _
      have object : (Json.obj fields).isObject = true := rfl
      rw [listedAssignments, if_pos object, Json.get?]
      dsimp only
      cases fields.lookup "assignments" with
      | none => rfl
      | some value => cases value <;> rfl
    | null => rfl
    | bool value => rfl
    | int value => rfl
    | float value => rfl
    | str text => rfl
    | arr elements => rfl

/-! ### What may not be written -/

/-- The exception `str()` raises on a value, and the one the encoder raises on an element of the
array. -/
structure WriteLimits where
  str : Json → Option PyError
  dumps : Json → Option PyError

/-- An interpreter that writes everything. -/
def WriteLimits.unlimited : WriteLimits := ⟨fun _ => none, fun _ => none⟩

/-- Raise, if there is something to raise. -/
def raiseIf : Option PyError → Except PyError PUnit
  | none => .ok ⟨⟩
  | some exc => .error exc

theorem raiseIf_eq_ok_iff {exc : Option PyError} : raiseIf exc = .ok ⟨⟩ ↔ exc = none := by
  cases exc with
  | none => exact iff_of_true rfl rfl
  | some exc => exact ⟨nofun, nofun⟩

/-- The fields of an assignment that go into its sort key as texts. -/
def textFields : List String := ["nodeName", "podUid", "policyUid"]

/-- The sort key of an assignment. -/
def WriteLimits.checkKey (limits : WriteLimits) (value : Json) : Except PyError PUnit :=
  textFields.forM fun name => raiseIf (limits.str ((value.get? name).getD (.str "")))

/-- An assignment whose sort key and text can be written. -/
def WriteLimits.Writable (limits : WriteLimits) (value : Json) : Prop :=
  (∀ name ∈ textFields, limits.str ((value.get? name).getD (.str "")) = none) ∧
    limits.dumps value = none

theorem WriteLimits.checkKey_eq_ok_iff {limits : WriteLimits} {value : Json} :
    limits.checkKey value = .ok ⟨⟩ ↔
      ∀ name ∈ textFields, limits.str ((value.get? name).getD (.str "")) = none := by
  rw [checkKey, forM_eq_ok_iff]
  exact forall₂_congr fun name _ => raiseIf_eq_ok_iff

/-- The text under `resolved-assignments.json`, or what is raised on the way to it: by an entry, by a
sort key, or by the encoder. -/
def aggregateWithin (codec : Codec) (limits : WriteLimits) (data : Dict String String) :
    Except PyError String := do
  let assignments ← collectAssignments codec data.sortedItems
  assignments.forM limits.checkKey
  let sorted := sortedBy (publishedKey codec) assignments
  sorted.forM fun value => raiseIf (limits.dumps value)
  pure (codec.dumps (aggregatePayload sorted))

/-- Without limits, this is the aggregation. -/
theorem aggregateWithin_unlimited (codec : Codec) (data : Dict String String) :
    aggregateWithin codec .unlimited data = aggregateResolvedAssignments codec data := by
  have keys : ∀ assignments : List Json,
      assignments.forM WriteLimits.unlimited.checkKey = .ok ⟨⟩ := fun assignments =>
    forM_eq_ok_iff.mpr fun value _ => WriteLimits.checkKey_eq_ok_iff.mpr fun name _ => rfl
  have elements : ∀ assignments : List Json, (assignments.forM fun value =>
      raiseIf (WriteLimits.unlimited.dumps value)) = .ok ⟨⟩ := fun assignments =>
    forM_eq_ok_iff.mpr fun value _ => rfl
  unfold aggregateWithin aggregateResolvedAssignments
  cases collectAssignments codec data.sortedItems with
  | error exc => rfl
  | ok assignments => exact bind_of_ok rfl (bind_of_ok (keys assignments) (bind_of_ok (elements _) rfl))

/-! ### When the aggregation returns -/

/-- Only readable entries let the collection pass. -/
theorem readable_of_collectAssignments {codec : Codec} {items : List (String × String)}
    {assignments : List Json} (collected : collectAssignments codec items = .ok assignments) :
    ∀ item ∈ items, isEntryKey item.1 = true → ReadableEntry codec item.2 := by
  induction items generalizing assignments with
  | nil => exact fun item member => absurd member List.not_mem_nil
  | cons first rest ih =>
    obtain ⟨key, raw⟩ := first
    rw [List.forall_mem_cons]
    unfold collectAssignments at collected
    by_cases entry : isEntryKey key = true
    · rw [if_pos entry] at collected
      unfold ReadableEntry
      split at collected
      · next message loaded => exact ⟨fun _ => by simp only [loaded], ih collected⟩
      · next message loaded => exact ⟨fun _ => by simp only [loaded], ih collected⟩
      · cases collected
      · next policy loaded =>
        obtain ⟨values, listed, others⟩ := ok_of_bind collected
        obtain ⟨_, later, _⟩ := ok_of_bind others
        refine ⟨fun _ => ?_, ih later⟩
        simp only [loaded]
        by_contra notObject
        rw [listedAssignments, if_neg notObject] at listed
        cases listed
    · rw [if_neg entry] at collected
      exact ⟨fun isEntry => absurd isEntry entry, ih collected⟩

/-- What the collection returns, when it does. -/
theorem perm_of_collectAssignments {codec : Codec} {data : Dict String String}
    {assignments : List Json} (collected : collectAssignments codec data.sortedItems = .ok assignments) :
    assignments.Perm (registryElements codec data) := by
  have readable := readable_of_collectAssignments collected
  cases (collectAssignments_ok codec readable).symm.trans collected
  simp only [entryAssignments_eq]
  exact (data.sortedItems_perm.filter _).flatMap_right _

/-- **Which registries are aggregated.** For every map of texts, the aggregation returns, with exactly
the objects in the `assignments` lists of the entries that are JSON objects, if and only if every entry
is an object or not JSON at all, and each of these objects can be written. -/
theorem aggregate_tolerates_iff (codec : Codec) (limits : WriteLimits) (data : Dict String String) :
    (∃ assignments, aggregateWithin codec limits data =
        .ok (codec.dumps (aggregatePayload assignments)) ∧
      assignments.Perm (registryElements codec data)) ↔
    (∀ key raw, data.get? key = some raw → isEntryKey key = true → ReadableEntry codec raw) ∧
      ∀ value ∈ registryElements codec data, limits.Writable value := by
  have entries : (∀ item ∈ data.sortedItems, isEntryKey item.1 = true → ReadableEntry codec item.2) ↔
      ∀ key raw, data.get? key = some raw → isEntryKey key = true → ReadableEntry codec raw := by
    constructor
    · intro readable key raw found
      exact readable (key, raw) (data.sortedItems_perm.mem_iff.mpr (Dict.get?_eq_some_iff.mp found))
    · intro readable item member
      exact readable item.1 item.2 (Dict.get?_eq_some_iff.mpr (data.sortedItems_perm.mem_iff.mp member))
  constructor
  · rintro ⟨_, returned, _⟩
    obtain ⟨assignments, collected, rest⟩ := ok_of_bind returned
    obtain ⟨_, keyed, rest⟩ := ok_of_bind rest
    obtain ⟨_, written, _⟩ := ok_of_bind rest
    refine ⟨entries.mp (readable_of_collectAssignments collected), fun value member => ?_⟩
    have listed := (perm_of_collectAssignments collected).mem_iff.mpr member
    exact ⟨WriteLimits.checkKey_eq_ok_iff.mp (forM_eq_ok_iff.mp keyed value listed),
      raiseIf_eq_ok_iff.mp (forM_eq_ok_iff.mp written value (mem_sortedBy.mpr listed))⟩
  · rintro ⟨readable, writable⟩
    have collected := collectAssignments_ok codec (entries.mpr readable)
    have perm := perm_of_collectAssignments collected
    generalize ((data.sortedItems.filter fun item => isEntryKey item.1).flatMap fun item =>
      entryAssignments codec item.2) = assignments at collected perm
    have keyed : assignments.forM limits.checkKey = .ok ⟨⟩ := forM_eq_ok_iff.mpr fun value listed =>
      WriteLimits.checkKey_eq_ok_iff.mpr (writable value (perm.mem_iff.mp listed)).1
    have written : ((sortedBy (publishedKey codec) assignments).forM fun value =>
        raiseIf (limits.dumps value)) = .ok ⟨⟩ := forM_eq_ok_iff.mpr fun value listed =>
      raiseIf_eq_ok_iff.mpr (writable value (perm.mem_iff.mp (mem_sortedBy.mp listed))).2
    refine ⟨sortedBy (publishedKey codec) assignments, ?_, (sortedBy_perm _ _).trans perm⟩
    exact bind_of_ok collected (bind_of_ok keyed (bind_of_ok written rfl))

/-! ### A list in the place of an object -/

/-- A parser that knows two texts: a list, and an entry with one assignment. -/
def editedCodec : Codec where
  dumps _ := "null"
  loads raw :=
    if raw = "[]" then .ok (.arr [])
    else if raw = "\x7b\"assignments\": [\x7b\x7d]\x7d" then
      .ok (.obj [("assignments", .arr [.obj []])])
    else .error (.jsonDecodeError "Expecting value: line 1 column 1 (char 0)")
  repr _ := "null"

def editedRegistry : Dict String String :=
  .ofList [("policy-a.json", "[]"), ("policy-b.json", "\x7b\"assignments\": [\x7b\x7d]\x7d")]

/-- One entry is a list, and the assignment of the other is not published either. -/
theorem list_entry_blocks_others :
    aggregateWithin editedCodec .unlimited editedRegistry =
        .error (.attributeError "'list' object has no attribute 'get'") ∧
      (registryElements editedCodec editedRegistry).length = 1 ∧
      ¬ ∃ assignments, aggregateWithin editedCodec .unlimited editedRegistry =
          .ok (editedCodec.dumps (aggregatePayload assignments)) ∧
        assignments.Perm (registryElements editedCodec editedRegistry) := by
  have raised : aggregateWithin editedCodec .unlimited editedRegistry =
      .error (.attributeError "'list' object has no attribute 'get'") := by decide +kernel
  refine ⟨raised, by decide +kernel, ?_⟩
  rintro ⟨assignments, returned, _⟩
  exact nomatch raised.symm.trans returned

end Opendps.Operator
