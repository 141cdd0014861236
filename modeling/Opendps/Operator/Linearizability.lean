/-
**Concurrent writes of the registry.**

Any number of `writeBoostRegistry` calls run at once, their API calls in any order. A call that
returns takes effect at its last API call, so the order in which calls return is an order in which
they could have run one after the other: `History` says what the registry holds after a list of
completed writes, `History.step` adds one, and `registry_linearizable` finds in every state of every
run the history of the calls that have returned so far.
-/

import Opendps.Operator.Registry

namespace Opendps.Operator

open Opendps.Lib

/-- One call: the entry of a policy is written, or removed. -/
structure RegistryWrite where
  policyName : String
  entry : Option Json

/-- The writes to one key of the registry. -/
def writesTo (key : String) (writes : List RegistryWrite) : List RegistryWrite :=
  writes.filter fun write => decide (policyKey write.policyName = key)

/-- What a key other than the aggregate holds after some writes, one after the other: what the last
write to it left, or what it held before. -/
def lastWritten (codec : Codec) (key : String) (before : Option String)
    (writes : List RegistryWrite) : Option String :=
  match (writesTo key writes).getLast? with
  | some write => write.entry.map codec.dumps
  | none => before

/-- What the registry holds when some writes have completed, in order, since a first world. -/
structure History (codec : Codec) (first : World) (writes : List RegistryWrite) (world : World) :
    Prop where
  untouched : writes = [] → world.registry = first.registry
  consistent : writes ≠ [] →
    ∃ configMap, world.registry = some configMap ∧ Consistent codec configMap.data
  entries : ∀ key, key ≠ resolvedAssignmentsKey → world.registryData.get? key =
    lastWritten codec key (first.registryData.get? key) writes

namespace History

variable {codec : Codec} {first before after : World} {writes : List RegistryWrite}

theorem start (codec : Codec) (first : World) : History codec first [] first :=
  ⟨fun _ => rfl, fun some => absurd rfl some, fun _ _ => rfl⟩

theorem congr (history : History codec first writes before)
    (same : after.registry = before.registry) : History codec first writes after where
  untouched none := same.trans (history.untouched none)
  consistent some := by
    obtain ⟨configMap, stored, consistent⟩ := history.consistent some
    exact ⟨configMap, same.trans stored, consistent⟩
  entries key other := by
    have data : after.registryData = before.registryData := by
      unfold World.registryData
      rw [same]
    rw [data]
    exact history.entries key other

theorem lastWritten_append_singleton (codec : Codec) (key : String) (before : Option String)
    (writes : List RegistryWrite) (write : RegistryWrite) :
    lastWritten codec key before (writes ++ [write]) =
      if key = policyKey write.policyName then write.entry.map codec.dumps
      else lastWritten codec key before writes := by
  unfold lastWritten writesTo
  rw [List.filter_append]
  by_cases own : key = policyKey write.policyName
  · rw [if_pos own, List.filter_cons_of_pos (by simp [own]), List.filter_nil,
      List.getLast?_append_of_ne_nil _ (by simp)]
    rfl
  · rw [if_neg own, List.filter_cons_of_neg (by simpa using Ne.symm own), List.filter_nil,
      List.append_nil]

theorem lastWritten_of_forall_ne {codec : Codec} {key : String} {before : Option String}
    {writes : List RegistryWrite} (apart : ∀ write ∈ writes, key ≠ policyKey write.policyName) :
    lastWritten codec key before writes = before := by
  have none : writesTo key writes = [] :=
    List.filter_eq_nil_iff.mpr fun write listed => by simpa using Ne.symm (apart write listed)
  rw [lastWritten, none]
  rfl

/-- One more write. -/
theorem step (history : History codec first writes before) {write : RegistryWrite}
    (published : Published codec write.policyName write.entry before after) :
    History codec first (writes ++ [write]) after := by
  refine ⟨fun none => absurd none (by simp), fun _ => published.consistent, fun key other => ?_⟩
  rw [published.entries other, lastWritten_append_singleton, history.entries key other]

end History

/-! ### One step of one call -/

section Step

variable {α : Type} {codec : Codec} {selects : String → Dict String String → Bool}
  {policyName : String} {entry : Option Json} {post : Except OperatorError α → World → Prop}
  {prog : Handler α} {world first : World} {writes : List RegistryWrite}

/-- The next call of a write, in terms of whether it completes the write. -/
theorem writeStep_effect (within : ∀ req resume, prog = .call req resume →
      WriteStep codec policyName entry world (handle selects req world).2
        (resume (handle selects req world).1).result?) :
    (prog.finishes isOk (handle selects) world = true →
        Published codec policyName entry world (prog.step (handle selects) world).2) ∧
      (prog.finishes isOk (handle selects) world = false →
        (prog.step (handle selects) world).2.registry = world.registry) := by
  cases prog with
  | ret value => exact ⟨fun finished => (Bool.false_ne_true finished).elim, fun _ => rfl⟩
  | call req resume =>
    have effect := (within req resume rfl).2
    constructor <;> intro finished
    · rwa [← Prog.finishes, finished, if_pos rfl] at effect
    · rwa [← Prog.finishes, finished, if_neg Bool.false_ne_true] at effect

/-- The next call of a safe program is within its guarantee. -/
theorem writeStep_of_safe (safe : prog.Safe (handle selects) Rely
      (WriteStep codec policyName entry) post world) (req : Request)
    (resume : Answer req → Handler α) (current : prog = .call req resume) :
    WriteStep codec policyName entry world (handle selects req world).2
      (resume (handle selects req world).1).result? := by
  subst current
  exact safe.guar_call Rely.refl

/-- The next call of a write adds the write to the history when it completes it. -/
theorem History.step_within (history : History codec first writes world)
    (within : ∀ req resume, prog = .call req resume →
      WriteStep codec policyName entry world (handle selects req world).2
        (resume (handle selects req world).1).result?) :
    History codec first
      (writes ++ if prog.finishes isOk (handle selects) world then [⟨policyName, entry⟩] else [])
      (prog.step (handle selects) world).2 := by
  obtain ⟨published, unchanged⟩ := writeStep_effect within
  cases finished : prog.finishes isOk (handle selects) world with
  | true => exact history.step (published finished)
  | false =>
    rw [if_neg Bool.false_ne_true, List.append_nil]
    exact history.congr (unchanged finished)

end Step

/-! ### The pool of writes -/

section Pool

variable {ι : Type} [DecidableEq ι]

/-- No one but the calls themselves. -/
def nobody (world : World) (_ : Empty) : World := world

/-- The calls before their first step. -/
def registryPool (codec : Codec) (namespaceName : String) (world : World)
    (calls : ι → RegistryWrite) : Lib.Pool Answer ι (Except OperatorError Unit) World where
  world := world
  progs i := writeBoostRegistry codec namespaceName (calls i).policyName (calls i).entry

/-- The pool after some API calls, one at a time and in any order. -/
def afterCalls (selects : String → Dict String String → Bool)
    (pool : Lib.Pool Answer ι (Except OperatorError Unit) World) (order : List ι) :
    Lib.Pool Answer ι (Except OperatorError Unit) World :=
  run (Lib.Pool.step (handle selects) nobody) pool (order.map .thread)

/-- The calls that have returned without raising, in the order in which they did. -/
def completedCalls (selects : String → Dict String String → Bool)
    (pool : Lib.Pool Answer ι (Except OperatorError Unit) World) (order : List ι) : List ι :=
  pool.completions isOk (handle selects) nobody (order.map .thread)

variable (codec : Codec) (selects : String → Dict String String → Bool) (namespaceName : String)
  (world : World) (calls : ι → RegistryWrite)

omit [DecidableEq ι] in
/-- No call has returned before its first step. -/
theorem registryPool_fresh (i : ι) (value : Except OperatorError Unit) :
    (registryPool codec namespaceName world calls).progs i ≠ .ret value := by
  intro returned
  cases returned

theorem afterCalls_safe (order : List ι) :
    (afterCalls selects (registryPool codec namespaceName world calls) order).Safe (handle selects)
      Rely (fun i => WriteStep codec (calls i).policyName (calls i).entry) fun _ _ _ => True := by
  have start : (registryPool codec namespaceName world calls).Safe (handle selects) Rely
      (fun i => WriteStep codec (calls i).policyName (calls i).entry) fun _ _ _ => True :=
    fun i => writeBoostRegistry_safe world
  exact start.run Rely.refl Rely.trans (fun _ _ _ _ within => within.1)
    (fun world event => event.elim) _

/-- In every reachable state the registry holds the history of the completed calls. -/
theorem history_afterCalls (order : List ι) :
    History codec world
      ((completedCalls selects (registryPool codec namespaceName world calls) order).map calls)
      (afterCalls selects (registryPool codec namespaceName world calls) order).world := by
  induction order using List.reverseRecOn with
  | nil => exact History.start codec world
  | append_singleton past i ih =>
    have next := ih.step_within
      (writeStep_of_safe (afterCalls_safe codec selects namespaceName world calls past i))
    rw [completedCalls, List.map_append, List.map_singleton, Pool.completions_append_singleton,
      List.map_append, ← completedCalls]
    rw [afterCalls, List.map_append, List.map_singleton, run_append_singleton, ← afterCalls,
      Pool.step_thread, Pool.completes_thread, apply_ite (List.map calls)]
    exact next

/-- The registry after a call that raised is the registry before it. -/
theorem unchanged_of_raised (past rest : List ι) (i : ι) {exc : OperatorError}
    (raised : (afterCalls selects (registryPool codec namespaceName world calls)
      (past ++ i :: rest)).progs i = .ret (.error exc)) :
    (afterCalls selects (registryPool codec namespaceName world calls)
        (past ++ [i])).world.registry =
      (afterCalls selects (registryPool codec namespaceName world calls) past).world.registry := by
  have safe := afterCalls_safe codec selects namespaceName world calls past i
  rw [afterCalls, List.map_append, List.map_singleton, run_append_singleton, ← afterCalls,
    Pool.step_thread]
  refine (writeStep_effect (writeStep_of_safe safe)).2 (Bool.eq_false_iff.mpr fun finished => ?_)
  -- a call that completed stays completed, so it cannot have raised in the end
  have completed : i ∈ completedCalls selects (registryPool codec namespaceName world calls)
      (past ++ i :: rest) := by
    rw [completedCalls, List.map_append, Pool.completions_append, List.map_cons, Pool.completions]
    refine List.mem_append_right _ (List.mem_append_left _ ?_)
    rw [← afterCalls, Pool.completes_thread, if_pos finished]
    exact List.mem_singleton_self i
  obtain ⟨value, counted, returned⟩ := ((Pool.completions_spec isOk
    (registryPool_fresh codec namespaceName world calls) _).2 i).mp completed
  rw [← afterCalls, raised] at returned
  cases returned
  cases counted

/-- **The registry is linearizable.** However the API calls of any number of writes interleave, the
registry holds what the writes that have returned would leave one after the other, in the order in
which they returned: no entry is lost or brought back, the aggregate is the aggregate of the entries,
and a write that raised left no trace. -/
theorem registry_linearizable (calls : ι → RegistryWrite) (order : List ι) :
    let pool := registryPool codec namespaceName world calls
    let completed := completedCalls selects pool order
    let final := afterCalls selects pool order
    (completed.Nodup ∧ ∀ i, i ∈ completed ↔ final.progs i = .ret (.ok ())) ∧
      (completed = [] → final.world.registry = world.registry) ∧
      (completed ≠ [] → ∃ configMap, final.world.registry = some configMap ∧
        ∃ aggregate, aggregateResolvedAssignments codec
            (configMap.data.pop resolvedAssignmentsKey) = .ok aggregate ∧
          configMap.data.get? resolvedAssignmentsKey = some aggregate) ∧
      (∀ policyName, policyName ≠ "resolved-assignments" →
        final.world.registryData.get? (policyKey policyName) =
          lastWritten codec (policyKey policyName)
            (world.registryData.get? (policyKey policyName)) (completed.map calls)) ∧
      (∀ key, key ≠ resolvedAssignmentsKey → (∀ i ∈ completed, key ≠ policyKey (calls i).policyName) →
        final.world.registryData.get? key = world.registryData.get? key) ∧
      ∀ past i rest exc, order = past ++ i :: rest → final.progs i = .ret (.error exc) →
        (afterCalls selects pool (past ++ [i])).world.registry =
          (afterCalls selects pool past).world.registry := by
  intro pool completed final
  have history : History codec world (completed.map calls) final.world :=
    history_afterCalls codec selects namespaceName world calls order
  obtain ⟨nodup, members⟩ := @Pool.completions_spec _ _ _ _ _ _ _ (handle selects) nobody pool isOk
    (registryPool_fresh codec namespaceName world calls) (order.map .thread)
  refine ⟨⟨nodup, fun i => (members i).trans ?_⟩, fun none => history.untouched ?_,
    fun some => history.consistent ?_, fun policyName named => ?_, fun key other apart => ?_, ?_⟩
  · constructor
    · rintro ⟨value, counted, returned⟩
      cases value with
      | error exc => cases counted
      | ok value => exact returned
    · exact fun returned => ⟨.ok (), rfl, returned⟩
  · rw [none, List.map_nil]
  · exact mt List.map_eq_nil_iff.mp some
  · exact history.entries _ (policyKey_ne_resolvedAssignmentsKey named)
  · rw [history.entries key other, History.lastWritten_of_forall_ne]
    rintro write listed
    obtain ⟨i, member, rfl⟩ := List.mem_map.mp listed
    exact apart i member
  · rintro past i rest exc rfl raised
    exact unchanged_of_raised codec selects namespaceName world calls past rest i raised

end Pool

end Opendps.Operator
