/-
**Concurrent upserts of one ConfigMap.**

`_patch_or_create_cm` patches its keys into the ConfigMap, creates it when it is not there, and patches
again when somebody else created it first. A call that returns takes effect at its last API call, so
the ConfigMap is what the calls that have returned leave one after the other (`world_afterUpserts`).
`upserts_never_dropped`: no call raises, each returns after three API calls at the latest, and no key of
a call that has returned is lost, whatever the calls that run at the same time.
-/

import Opendps.Lib.Dict
import Opendps.Lib.Prog
import Opendps.Operator.Api

namespace Opendps.Operator

open Opendps.Lib

/-! ### The API server -/

/-- The API calls on the ConfigMap. -/
inductive CmRequest where
  | patch (data : Dict String String)
  | create (data : Dict String String)

/-- Every call answers or fails. -/
abbrev CmAnswer (_ : CmRequest) : Type := Except ApiException Unit

/-- The data of the ConfigMap, while there is one. -/
abbrev CmWorld := Option (Dict String String)

/-- A merge patch writes its keys and leaves the others. -/
def handleCm : (request : CmRequest) → CmWorld → CmAnswer request × CmWorld
  | .patch _, none => (.error notFound, none)
  | .patch data, some stored => (.ok (), some (stored.update data))
  | .create data, none => (.ok (), some data)
  | .create _, some stored => (.error conflict, some stored)

/-! ### One call -/

/-- Merge-patch the given data keys into a ConfigMap, creating it if absent. -/
def patchOrCreateCm (data : Dict String String) : Prog CmAnswer (Except ApiException Unit) :=
  .call (.patch data) fun
    | .ok done => .ret (.ok done)
    | .error e =>
      if e.status ≠ 404 then .ret (.error e)
      else .call (.create data) fun
        | .ok done => .ret (.ok done)
        | .error ce =>
          if ce.status ≠ 409 then .ret (.error ce)
          else .call (.patch data) fun answer => .ret answer

theorem patchOrCreateCm_returnsWithin (data : Dict String String) :
    (patchOrCreateCm data).ReturnsWithin 3 := by
  intro patched
  cases patched with
  | ok done => exact trivial
  | error e =>
    by_cases absent : e.status = 404
    · simp only [absent, ne_eq, not_true, if_false]
      intro created
      cases created with
      | ok done => exact trivial
      | error ce =>
        by_cases lost : ce.status = 409
        · simp only [lost, not_true, if_false]
          exact fun patched => trivial
        · simp only [lost, not_false_iff, if_true]
          exact trivial
    · simp only [absent, ne_eq, not_false_iff, if_true]
      exact trivial

/-- Nobody deletes the ConfigMap. -/
def Kept (before after : CmWorld) : Prop := before.isSome = true → after.isSome = true

theorem Kept.refl (world : CmWorld) : Kept world world := id

theorem Kept.trans (first second third : CmWorld) (before : Kept first second)
    (after : Kept second third) : Kept first third := after ∘ before

/-- The ConfigMap with some keys written. -/
def upserted (world : CmWorld) (data : Dict String String) : CmWorld :=
  some ((world.getD .empty).update data)

/-- An API call of an upsert: the one it returns after writes its keys, and the others write nothing. -/
def UpsertStep (data : Dict String String) (before after : CmWorld)
    (result : Option (Except ApiException Unit)) : Prop :=
  match result with
  | none => after = before
  | some (.ok _) => after = upserted before data
  | some (.error _) => False

theorem upserted_none (data : Dict String String) : upserted none data = some data := by
  refine congrArg some (Dict.eq_of_items ?_)
  rw [Option.getD_none, Dict.items_update_of_disjoint _ _ fun _ _ => List.not_mem_nil]
  rfl

theorem UpsertStep.kept {data : Dict String String} {before after : CmWorld}
    {result : Option (Except ApiException Unit)} (step : UpsertStep data before after result) :
    Kept before after := by
  intro stored
  match result, step with
  | none, same =>
    rw [same]
    exact stored
  | some (.ok _), written =>
    rw [written]
    rfl

/-- What an API call of an upsert leaves. -/
theorem UpsertStep.leaves {data : Dict String String} {before after : CmWorld}
    {result : Option (Except ApiException Unit)} (step : UpsertStep data before after result) :
    after = if result.any Except.isOk = true then upserted before data else before := by
  match result, step with
  | none, same => exact same
  | some (.ok _), written => exact written

/-- **One upsert next to others.** Whatever others write before each of its API calls, it raises nothing
and its keys are written by the call it returns after. -/
theorem patchOrCreateCm_safe (data : Dict String String) (world : CmWorld) :
    (patchOrCreateCm data).Safe handleCm Kept (UpsertStep data)
      (fun outcome _ => outcome = .ok ()) world := by
  intro first _
  cases first with
  | some stored => exact ⟨rfl, fun _ _ => rfl⟩
  | none =>
    -- not found: create it
    refine ⟨rfl, fun second _ => ?_⟩
    cases second with
    | none => exact ⟨(upserted_none data).symm, fun _ _ => rfl⟩
    | some stored =>
      -- somebody else was first, and the ConfigMap stays
      refine ⟨rfl, fun third kept => ?_⟩
      cases third with
      | none => cases kept rfl
      | some stored => exact ⟨rfl, fun _ _ => rfl⟩

/-! ### Any number of calls -/

section Pool

variable {ι : Type} [DecidableEq ι]

/-- No one but the calls themselves. -/
def undisturbed (world : CmWorld) (_ : Empty) : CmWorld := world

/-- The calls before their first step. -/
def upsertPool (world : CmWorld) (datas : ι → Dict String String) :
    Lib.Pool CmAnswer ι (Except ApiException Unit) CmWorld where
  world := world
  progs i := patchOrCreateCm (datas i)

/-- The pool after some API calls, one at a time and in any order. -/
def afterUpserts (pool : Lib.Pool CmAnswer ι (Except ApiException Unit) CmWorld) (order : List ι) :
    Lib.Pool CmAnswer ι (Except ApiException Unit) CmWorld :=
  run (Lib.Pool.step handleCm undisturbed) pool (order.map .thread)

/-- The calls that have returned, in the order in which their last patch or create took effect. -/
def effectiveUpserts (pool : Lib.Pool CmAnswer ι (Except ApiException Unit) CmWorld)
    (order : List ι) : List ι :=
  pool.completions Except.isOk handleCm undisturbed (order.map .thread)

variable (world : CmWorld) (datas : ι → Dict String String)

omit [DecidableEq ι] in
/-- No call has returned before its first step. -/
theorem upsertPool_fresh (i : ι) (result : Except ApiException Unit) :
    (upsertPool world datas).progs i ≠ .ret result := by
  intro returned
  cases returned

theorem afterUpserts_safe (order : List ι) :
    (afterUpserts (upsertPool world datas) order).Safe handleCm Kept (fun i => UpsertStep (datas i))
      fun _ outcome _ => outcome = .ok () := by
  have start : (upsertPool world datas).Safe handleCm Kept (fun i => UpsertStep (datas i))
      fun _ outcome _ => outcome = .ok () := fun i => patchOrCreateCm_safe (datas i) world
  exact start.run Kept.refl Kept.trans (fun _ _ _ _ => UpsertStep.kept)
    (fun _ (event : Empty) => event.elim) _

/-- The ConfigMap is what the calls that have returned leave one after the other. -/
theorem world_afterUpserts (order : List ι) :
    (afterUpserts (upsertPool world datas) order).world =
      (effectiveUpserts (upsertPool world datas) order).foldl
        (fun world i => upserted world (datas i)) world := by
  induction order using List.reverseRecOn with
  | nil => rfl
  | append_singleton past i ih =>
    have safe := afterUpserts_safe world datas past i
    rw [effectiveUpserts, List.map_append, List.map_singleton, Pool.completions_append_singleton,
      List.foldl_append, ← effectiveUpserts, ← ih]
    rw [afterUpserts, List.map_append, List.map_singleton, run_append_singleton, ← afterUpserts,
      Pool.step_thread, Pool.completes_thread]
    cases current : (afterUpserts (upsertPool world datas) past).progs i with
    | ret value => rfl
    | call req resume =>
      rw [current] at safe
      generalize (afterUpserts (upsertPool world datas) past).world = before at safe ⊢
      have leaves : (handleCm req before).2 =
          if (Prog.call req resume).finishes Except.isOk handleCm before = true then
            upserted before (datas i) else before := UpsertStep.leaves (safe.guar_call Kept.refl)
      rw [Prog.step, leaves]
      split <;> rfl

omit [DecidableEq ι] in
/-- A key holds what the last call with that key has written. -/
theorem get?_foldl_upserted (calls : List ι) (world : CmWorld) (key : String) :
    ((calls.foldl (fun world i => upserted world (datas i)) world).getD .empty).get? key =
      (calls.reverse.findSome? fun i => (datas i).get? key).or ((world.getD .empty).get? key) := by
  induction calls using List.reverseRecOn with
  | nil => rfl
  | append_singleton past i ih =>
    rw [List.foldl_append, List.reverse_append, List.reverse_singleton, List.singleton_append,
      List.findSome?_cons]
    show (Dict.update _ (datas i)).get? key = _
    rw [Dict.get?_update, ih]
    cases (datas i).get? key <;> rfl

omit [DecidableEq ι] in
theorem exists_foldl_upserted {calls : List ι} (nonempty : calls ≠ []) (world : CmWorld) :
    ∃ stored, calls.foldl (fun world i => upserted world (datas i)) world = some stored := by
  cases calls using List.reverseRecOn with
  | nil => exact absurd rfl nonempty
  | append_singleton past i => exact ⟨_, List.foldl_append⟩

/-- The API calls of one upsert among all. -/
theorem countP_isThread (order : List ι) (i : ι) :
    (order.map (PoolEvent.thread : ι → PoolEvent ι Empty)).countP (·.isThread i) = order.count i := by
  rw [List.countP_map, List.count]
  rfl

/-- No call raises. -/
theorem outcome_afterUpserts {order : List ι} {i : ι} {result : Except ApiException Unit}
    (returned : (afterUpserts (upsertPool world datas) order).progs i = .ret result) :
    result = .ok () := by
  have own := afterUpserts_safe world datas order i
  rw [returned] at own
  exact own _ (Kept.refl _)

/-- A call has returned after three API calls of its own. -/
theorem returned_afterUpserts {order : List ι} {i : ι} (enough : 3 ≤ order.count i) :
    (afterUpserts (upsertPool world datas) order).progs i = .ret (.ok ()) := by
  have within : ((afterUpserts (upsertPool world datas) order).progs i).ReturnsWithin
      (3 - (order.map (PoolEvent.thread : ι → PoolEvent ι Empty)).countP (·.isThread i)) :=
    Pool.returnsWithin_run (patchOrCreateCm_returnsWithin (datas i)) _
  rw [countP_isThread, Nat.sub_eq_zero_of_le enough] at within
  obtain ⟨result, returned⟩ := within.returned
  rw [returned, outcome_afterUpserts world datas returned]

/-- The calls that have returned, each once. -/
theorem mem_effectiveUpserts (order : List ι) :
    (effectiveUpserts (upsertPool world datas) order).Nodup ∧
      ∀ i, i ∈ effectiveUpserts (upsertPool world datas) order ↔
        (afterUpserts (upsertPool world datas) order).progs i = .ret (.ok ()) := by
  obtain ⟨nodup, members⟩ : (effectiveUpserts (upsertPool world datas) order).Nodup ∧
      ∀ i, i ∈ effectiveUpserts (upsertPool world datas) order ↔ ∃ result,
        Except.isOk result = true ∧
          (afterUpserts (upsertPool world datas) order).progs i = .ret result :=
    Pool.completions_spec Except.isOk (upsertPool_fresh world datas) (order.map .thread)
  refine ⟨nodup, fun i => (members i).trans ?_⟩
  constructor
  · rintro ⟨result, _, returned⟩
    rw [returned, outcome_afterUpserts world datas returned]
  · exact fun returned => ⟨.ok (), rfl, returned⟩

/-- A key holds what the last call with that key has written. -/
theorem get?_afterUpserts (order : List ι) (key : String) :
    ((afterUpserts (upsertPool world datas) order).world.getD .empty).get? key =
      ((effectiveUpserts (upsertPool world datas) order).reverse.findSome?
        fun i => (datas i).get? key).or ((world.getD .empty).get? key) := by
  rw [world_afterUpserts, get?_foldl_upserted]

/-- **Upserts are never dropped.** However the API calls of any number of upserts of one ConfigMap
interleave, with any keys and whether or not the ConfigMap is there:

* no call raises, and each has returned after three API calls of its own;
* there is a ConfigMap once a call has returned, with every key of every such call;
* a key holds the value of the call whose patch or create on it took effect last, and a key of no such
  call holds what it held before. -/
theorem upserts_never_dropped (world : CmWorld) (datas : ι → Dict String String) (order : List ι) :
    let pool := upsertPool world datas
    let effective := effectiveUpserts pool order
    let final := afterUpserts pool order
    (∀ i exc, final.progs i ≠ .ret (.error exc)) ∧
      (∀ i, 3 ≤ order.count i → final.progs i = .ret (.ok ())) ∧
      (effective.Nodup ∧ ∀ i, i ∈ effective ↔ final.progs i = .ret (.ok ())) ∧
      (∀ i ∈ effective, ∃ stored, final.world = some stored ∧
        ∀ key ∈ (datas i).keys, key ∈ stored.keys) ∧
      (∀ before i after key, effective = before ++ i :: after → key ∈ (datas i).keys →
        (∀ j ∈ after, key ∉ (datas j).keys) →
        (final.world.getD .empty).get? key = (datas i).get? key) ∧
      ∀ key, (∀ i ∈ effective, key ∉ (datas i).keys) →
        (final.world.getD .empty).get? key = (world.getD .empty).get? key := by
  intro pool effective final
  have value : ∀ key, (final.world.getD .empty).get? key =
      (effective.reverse.findSome? fun i => (datas i).get? key).or
        ((world.getD .empty).get? key) := get?_afterUpserts world datas order
  refine ⟨fun i exc raised => ?_, fun i enough => returned_afterUpserts world datas enough,
    mem_effectiveUpserts world datas order, fun i listed => ?_,
    fun before i after key split own later => ?_, fun key untouched => ?_⟩
  · cases outcome_afterUpserts world datas raised
  · have last : final.world = effective.foldl (fun world i => upserted world (datas i)) world :=
      world_afterUpserts world datas order
    obtain ⟨stored, there⟩ := exists_foldl_upserted datas (List.ne_nil_of_mem listed) world
    refine ⟨stored, last.trans there, fun key own => ?_⟩
    obtain ⟨text, written⟩ := Dict.mem_keys_iff.mp own
    have present : (effective.reverse.findSome? fun i => (datas i).get? key).isSome = true :=
      List.findSome?_isSome_iff.mpr ⟨i, List.mem_reverse.mpr listed, by rw [written]; rfl⟩
    obtain ⟨latest, found⟩ := Option.isSome_iff_exists.mp present
    have held := value key
    rw [last, there, found] at held
    exact Dict.mem_keys_iff.mpr ⟨latest, held⟩
  · obtain ⟨text, written⟩ := Dict.mem_keys_iff.mp own
    have none : (after.reverse.findSome? fun j => (datas j).get? key) = none :=
      List.findSome?_eq_none_iff.mpr fun j member =>
        Dict.get?_eq_none_iff.mpr (later j (List.mem_reverse.mp member))
    rw [value, split, List.reverse_append, List.reverse_cons, List.append_assoc, List.findSome?_append,
      none, List.singleton_append, List.findSome?_cons, written]
    rfl
  · have none : (effective.reverse.findSome? fun i => (datas i).get? key) = none :=
      List.findSome?_eq_none_iff.mpr fun i member =>
        Dict.get?_eq_none_iff.mpr (untouched i (List.mem_reverse.mp member))
    rw [value, none, Option.none_or]

end Pool

end Opendps.Operator
