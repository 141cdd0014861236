/-
**The life of a domain's ConfigMap.**

Handlers that run one after the other, each to its end. What is then known of a domain is a
`DomainRecord`: the spec it was accepted with last, and the PowerPolicy applied last since its ConfigMap
was created. `configmap_follows_lifecycle`: after any history, the ConfigMap of a domain is there exactly
while there is a record, and it is written from the record alone.

A record does not outlive the ConfigMap: a domain that is deleted and created again has no params, though
its PowerPolicy is still there, until a PowerPolicy that refers to it changes (`policy_of_recreated`).
-/

import Opendps.Operator.DomainConfigMaps

namespace Opendps.Operator

open Opendps.Lib Opendps.Pdn

/-! ### What is known of a domain -/

/-- The spec a domain was last accepted with, and the policy applied last. -/
structure DomainRecord where
  spec : PowerDomainSpec
  policy : Option PowerPolicySpec := none

namespace DomainRecord

/-- What a call changes about a domain. A spec that is not accepted changes nothing, and neither does a
policy before its domain. -/
def after (name : String) (record : Option DomainRecord) : DomainCall → Option DomainRecord
  | .powerDomain other spec =>
    if other = name ∧ spec.indices ≠ [] ∧ 0 < spec.budgetW then
      some { spec := spec, policy := record.bind DomainRecord.policy }
    else record
  | .deletePowerDomain other => if other = name then none else record
  | .powerPolicy policy =>
    if policy.domainRef = name then record.map fun known => { known with policy := some policy }
    else record

/-- The topology of a record. -/
def topology (record : DomainRecord) (name : String) : Json :=
  buildTopology name record.spec.indices record.spec.budgetW record.spec.overheadW

/-- The data of a record: its topology, and the params of its policy if it has one. -/
def data (codec : Codec) (name : String) (record : DomainRecord) : Dict String String :=
  match record.policy with
  | none => .ofList [(topologyKey, codec.dumps (record.topology name))]
  | some policy => .ofList [(topologyKey, codec.dumps (record.topology name)),
      (paramsKey, codec.dumps policy.params)]

/-- The ConfigMap of a record. -/
def configMap (codec : Codec) (name : String) (record : DomainRecord) : DomainConfigMap where
  data := record.data codec name
  annotations := match record.policy with
    | none => .empty
    | some policy => policy.annotations codec

end DomainRecord

/-- What is known of a domain after a history. -/
def recordOf (name : String) (history : List DomainCall) : Option DomainRecord :=
  run (DomainRecord.after name) none history

/-! ### One handler after the other -/

/-- A call on the ConfigMaps that does not fail by itself. -/
def answerDomain (request : DomainRequest) (configMaps : Dict String DomainConfigMap) :
    DomainAnswer request × Dict String DomainConfigMap :=
  handleConfigMaps configMaps request

/-- What a handler returns or raises, and the ConfigMaps it leaves. -/
def runHandler (codec : Codec) (configMaps : Dict String DomainConfigMap) (call : DomainCall) :
    Except DomainError (Option Bool) × Dict String DomainConfigMap :=
  (call.handler codec).run answerDomain configMaps

/-- The ConfigMaps after a history. -/
def configMapsAfter (codec : Codec) (history : List DomainCall) : Dict String DomainConfigMap :=
  run (fun configMaps call => (runHandler codec configMaps call).2) .empty history

/-- What a handler returns or raises, by what is known of the domain of a policy. -/
def DomainCall.outcome (record : String → Option DomainRecord) :
    DomainCall → Except DomainError (Option Bool)
  | .powerDomain name spec =>
    match onPowerdomainChange name spec with
    | .error exc => .error (.permanent exc.message)
    | .ok _ => .ok none
  | .deletePowerDomain _ => .ok none
  | .powerPolicy policy =>
    match record policy.domainRef with
    | some _ => .ok (some true)
    | none => .error (.temporary
        ("ConfigMap " ++ configMapName policy.domainRef ++ " not ready; create PowerDomain first") 15)

section Lifecycle

variable {codec : Codec} {configMaps : Dict String DomainConfigMap}

/-- The ConfigMaps are those of the records. -/
def Recorded (codec : Codec) (configMaps : Dict String DomainConfigMap)
    (record : String → Option DomainRecord) : Prop :=
  ∀ name, configMaps.get? (configMapName name) = (record name).map (DomainRecord.configMap codec name)

/-! ### What a handler does -/

/-- A spec that is not accepted is not written. -/
theorem runHandler_of_refused {name : String} {spec : PowerDomainSpec} {exc : PermanentError}
    (refused : onPowerdomainChange name spec = .error exc) :
    runHandler codec configMaps (.powerDomain name spec) =
      (.error (.permanent exc.message), configMaps) := by
  show ((reconcilePowerDomain codec name spec).bind _).run answerDomain configMaps = _
  rw [Prog.run_bind, reconcilePowerDomain, refused]
  rfl

/-- An upsert patches the ConfigMap that is there, and creates it otherwise. -/
theorem run_patchOrCreateDomainCm (cmName : String) (data : Dict String String) :
    (patchOrCreateDomainCm cmName data).run answerDomain configMaps =
      (.ok (), configMaps.set cmName ((configMaps.get? cmName).elim { data := data }
        fun stored => { stored with data := stored.data.update data })) := by
  unfold patchOrCreateDomainCm
  cases stored : configMaps.get? cmName with
  | none =>
    have absent : answerDomain (.patch cmName data) configMaps = (.error notFound, configMaps) := by
      rw [answerDomain, handleConfigMaps, stored]
    have created : answerDomain (.create cmName data) configMaps =
        (.ok (), configMaps.set cmName { data := data }) := by
      rw [answerDomain, handleConfigMaps, stored]
    exact (Prog.run_call absent _).trans (Prog.run_call created _)
  | some found =>
    have patched : answerDomain (.patch cmName data) configMaps =
        (.ok (), configMaps.set cmName { found with data := found.data.update data }) := by
      rw [answerDomain, handleConfigMaps, stored]
    exact Prog.run_call patched _

/-- An accepted spec is written. -/
theorem runHandler_of_accepted {name : String} {spec : PowerDomainSpec} {topology : Json}
    (accepted : onPowerdomainChange name spec = .ok topology) :
    runHandler codec configMaps (.powerDomain name spec) =
      (.ok none, configMaps.set (configMapName name)
        ((configMaps.get? (configMapName name)).elim
          { data := .ofList [(topologyKey, codec.dumps topology)] }
          fun stored => { stored with
            data := stored.data.update (.ofList [(topologyKey, codec.dumps topology)]) })) := by
  show ((reconcilePowerDomain codec name spec).bind _).run answerDomain configMaps = _
  rw [Prog.run_bind, reconcilePowerDomain, accepted]
  dsimp only
  rw [upsertConfigmap, run_patchOrCreateDomainCm]
  rfl

theorem runHandler_delete (name : String) :
    runHandler codec configMaps (.deletePowerDomain name) =
      (.ok none, (configMaps.get? (configMapName name)).elim configMaps
        fun _ => configMaps.pop (configMapName name)) := by
  show ((onPowerdomainDelete name).bind _).run answerDomain configMaps = _
  rw [Prog.run_bind, onPowerdomainDelete]
  cases stored : configMaps.get? (configMapName name) with
  | none =>
    have absent : answerDomain (.delete (configMapName name)) configMaps =
        (.error notFound, configMaps) := by
      rw [answerDomain, handleConfigMaps, stored]
    rw [Prog.run_call absent]
    rfl
  | some found =>
    have deleted : answerDomain (.delete (configMapName name)) configMaps =
        (.ok (), configMaps.pop (configMapName name)) := by
      rw [answerDomain, handleConfigMaps, stored]
    rw [Prog.run_call deleted]
    rfl

/-- Without its ConfigMap a policy writes nothing. -/
theorem runHandler_of_absent {policy : PowerPolicySpec}
    (absent : configMaps.get? (configMapName policy.domainRef) = none) :
    runHandler codec configMaps (.powerPolicy policy) =
      (.error (.temporary
        ("ConfigMap " ++ configMapName policy.domainRef ++ " not ready; create PowerDomain first") 15),
        configMaps) := by
  have refused : answerDomain (.patch (configMapName policy.domainRef)
      (.ofList [(paramsKey, codec.dumps policy.params)])) configMaps =
        (.error notFound, configMaps) := by
    rw [answerDomain, handleConfigMaps, absent]
  show ((onPowerpolicyChange codec policy).bind _).run answerDomain configMaps = _
  rw [Prog.run_bind, onPowerpolicyChange, Prog.run_bind, writeDomainParams, Prog.run_call refused]
  rfl

/-- A policy writes its params, then its annotations. -/
theorem runHandler_of_present {policy : PowerPolicySpec} {found : DomainConfigMap}
    (present : configMaps.get? (configMapName policy.domainRef) = some found) :
    runHandler codec configMaps (.powerPolicy policy) =
      (.ok (some true), configMaps.set (configMapName policy.domainRef)
        { data := found.data.update (.ofList [(paramsKey, codec.dumps policy.params)])
          annotations := found.annotations.update (policy.annotations codec) }) := by
  have patched : answerDomain (.patch (configMapName policy.domainRef)
        (.ofList [(paramsKey, codec.dumps policy.params)])) configMaps =
      (.ok (), configMaps.set (configMapName policy.domainRef) { found with
        data := found.data.update (.ofList [(paramsKey, codec.dumps policy.params)]) }) := by
    rw [answerDomain, handleConfigMaps, present]
  have annotated (stored : DomainConfigMap) :
      answerDomain (.annotate (configMapName policy.domainRef) (policy.annotations codec))
          (configMaps.set (configMapName policy.domainRef) stored) =
        (.ok (), configMaps.set (configMapName policy.domainRef) { stored with
          annotations := stored.annotations.update (policy.annotations codec) }) := by
    rw [answerDomain, handleConfigMaps, Dict.get?_set_self]
    exact congrArg _ (Dict.set_set _ _ _ _)
  have whole : (onPowerpolicyChange codec policy).run answerDomain configMaps =
      (.ok true, configMaps.set (configMapName policy.domainRef)
        { data := found.data.update (.ofList [(paramsKey, codec.dumps policy.params)])
          annotations := found.annotations.update (policy.annotations codec) }) := by
    rw [onPowerpolicyChange, Prog.run_bind, writeDomainParams, Prog.run_call patched]
    show ((annotateDomainConfigmap _ _).bind _).run answerDomain (configMaps.set _ _) = _
    rw [Prog.run_bind, annotateDomainConfigmap, Prog.run_call (annotated _)]
    rfl
  show ((onPowerpolicyChange codec policy).bind _).run answerDomain configMaps = _
  rw [Prog.run_bind, whole]
  rfl

/-! ### What a record is written as -/

/-- Writing the topology keeps the params and the annotations. -/
theorem configMap_writeTopology (name : String) (record : Option DomainRecord)
    (spec : PowerDomainSpec) :
    (record.map (DomainRecord.configMap codec name)).elim
        { data := .ofList [(topologyKey,
          codec.dumps (buildTopology name spec.indices spec.budgetW spec.overheadW))] }
        (fun stored => { stored with data := stored.data.update (.ofList [(topologyKey,
          codec.dumps (buildTopology name spec.indices spec.budgetW spec.overheadW))]) }) =
      DomainRecord.configMap codec name ⟨spec, record.bind DomainRecord.policy⟩ := by
  cases record with
  | none => rfl
  | some known =>
    obtain ⟨before, policy⟩ := known
    cases policy <;> rfl

/-- Writing params keeps the topology, and what was there of a policy before is gone. -/
theorem configMap_writePolicy (name : String) (record : DomainRecord) (policy : PowerPolicySpec) :
    ({ data := (record.configMap codec name).data.update
          (.ofList [(paramsKey, codec.dumps policy.params)])
       annotations := (record.configMap codec name).annotations.update (policy.annotations codec) } :
        DomainConfigMap) =
      DomainRecord.configMap codec name { record with policy := some policy } := by
  obtain ⟨spec, before⟩ := record
  cases before <;> rfl

/-- Writing the ConfigMap of one domain. -/
theorem Recorded.set {record later : String → Option DomainRecord}
    (recorded : Recorded codec configMaps record) {name : String} {known : DomainRecord}
    (here : later name = some known) (elsewhere : ∀ other, other ≠ name → later other = record other) :
    Recorded codec (configMaps.set (configMapName name) (known.configMap codec name)) later := by
  intro other
  rw [Dict.get?_set]
  by_cases same : other = name
  · subst same
    rw [if_pos rfl, here]
    rfl
  · rw [if_neg fun equal => same (configMapName_injective equal), elsewhere other same]
    exact recorded other

/-- **What one handler does**: it returns or raises as the records say, and leaves the ConfigMaps of the
records after its call. -/
theorem recorded_runHandler {record : String → Option DomainRecord}
    (recorded : Recorded codec configMaps record) (call : DomainCall) :
    (runHandler codec configMaps call).1 = call.outcome record ∧
      Recorded codec (runHandler codec configMaps call).2
        fun name => DomainRecord.after name (record name) call := by
  cases call with
  | powerDomain name spec =>
    cases accepted : onPowerdomainChange name spec with
    | error exc =>
      have refused : ¬ (spec.indices ≠ [] ∧ 0 < spec.budgetW) := by
        intro holds
        have fine := onPowerdomainChange_eq_ok_iff.mpr
          ⟨holds.1, holds.2, Eq.refl (buildTopology name spec.indices spec.budgetW spec.overheadW)⟩
        rw [accepted] at fine
        cases fine
      rw [runHandler_of_refused accepted, DomainCall.outcome, accepted]
      refine ⟨rfl, fun other => ?_⟩
      show configMaps.get? (configMapName other) = (if name = other ∧ spec.indices ≠ [] ∧
        0 < spec.budgetW then some _ else record other).map _
      rw [if_neg fun holds => refused holds.2]
      exact recorded other
    | ok topology =>
      rw [runHandler_of_accepted accepted, DomainCall.outcome, accepted, recorded name]
      obtain ⟨listed, positive, rfl⟩ := onPowerdomainChange_eq_ok_iff.mp accepted
      rw [configMap_writeTopology]
      exact ⟨rfl, recorded.set (if_pos ⟨rfl, listed, positive⟩) fun other different =>
        if_neg fun holds => different holds.1.symm⟩
  | deletePowerDomain name =>
    rw [runHandler_delete, recorded name]
    refine ⟨rfl, fun other => ?_⟩
    show _ = (if name = other then none else record other).map _
    by_cases same : name = other
    · subst same
      rw [if_pos rfl]
      cases known : record name with
      | none =>
        show configMaps.get? (configMapName name) = none
        rw [recorded name, known]
        rfl
      | some before => exact (Dict.get?_pop _ _ _).trans (if_pos rfl)
    · have apart : configMapName other ≠ configMapName name := fun equal =>
        same (configMapName_injective equal).symm
      rw [if_neg same, ← recorded other]
      cases record name with
      | none => rfl
      | some before => exact (Dict.get?_pop _ _ _).trans (if_neg apart)
  | powerPolicy policy =>
    have stored := recorded policy.domainRef
    cases known : record policy.domainRef with
    | none =>
      rw [known] at stored
      rw [runHandler_of_absent stored, DomainCall.outcome, known]
      refine ⟨rfl, fun other => ?_⟩
      show configMaps.get? (configMapName other) = (if policy.domainRef = other then
        (record other).map _ else record other).map _
      rw [recorded other]
      split
      · next same =>
        rw [← same, known]
        rfl
      · rfl
    | some before =>
      rw [known] at stored
      rw [runHandler_of_present stored, DomainCall.outcome, known, configMap_writePolicy]
      refine ⟨rfl, recorded.set ?_ fun other different => if_neg fun same => different same.symm⟩
      show (if policy.domainRef = policy.domainRef then
        (record policy.domainRef).map _ else record policy.domainRef) = _
      rw [if_pos rfl, known]
      rfl

end Lifecycle

/-! ### Histories -/

theorem recordOf_append_singleton (name : String) (history : List DomainCall) (call : DomainCall) :
    recordOf name (history ++ [call]) = DomainRecord.after name (recordOf name history) call :=
  run_append_singleton history call

theorem recorded_configMapsAfter (codec : Codec) (history : List DomainCall) :
    Recorded codec (configMapsAfter codec history) fun name => recordOf name history := by
  refine run_invariant (fun past configMaps => Recorded codec configMaps fun name => recordOf name past)
    (fun name => rfl) (fun past call configMaps recorded => ?_) history
  have next := (recorded_runHandler recorded call).2
  simp only [recordOf_append_singleton]
  exact next

/-- **A ConfigMap follows the life of its domain.** After any history of handlers, one after the other,
the ConfigMap of a domain is the one its record is written as, and there is none without a record; and
the next handler returns or raises as the records say: a PowerPolicy becomes active if its domain has a
record, and is otherwise tried again. -/
theorem configmap_follows_lifecycle (codec : Codec) (history : List DomainCall) :
    (∀ name, (configMapsAfter codec history).get? (configMapName name) =
      (recordOf name history).map (DomainRecord.configMap codec name)) ∧
    ∀ call, (runHandler codec (configMapsAfter codec history) call).1 =
      call.outcome fun name => recordOf name history :=
  ⟨recorded_configMapsAfter codec history, fun call =>
    (recorded_runHandler (recorded_configMapsAfter codec history) call).1⟩

/-- The policy of a record is one that changed. -/
theorem mem_of_recordOf {name : String} {history : List DomainCall} {record : DomainRecord}
    (known : recordOf name history = some record) {policy : PowerPolicySpec}
    (applied : record.policy = some policy) : .powerPolicy policy ∈ history := by
  induction history using List.reverseRecOn generalizing record with
  | nil => cases known
  | append_singleton past call ih =>
    rw [recordOf_append_singleton] at known
    have earlier : ∀ before, recordOf name past = some before → before.policy = some policy →
        .powerPolicy policy ∈ past ++ [call] := fun before stored same =>
      List.mem_append_left _ (ih stored same)
    cases call with
    | powerDomain other spec =>
      unfold DomainRecord.after at known
      dsimp only at known
      split at known
      · cases known
        obtain ⟨before, stored, same⟩ := Option.bind_eq_some_iff.mp applied
        exact earlier before stored same
      · exact earlier record known applied
    | deletePowerDomain other =>
      unfold DomainRecord.after at known
      dsimp only at known
      split at known
      · cases known
      · exact earlier record known applied
    | powerPolicy other =>
      unfold DomainRecord.after at known
      dsimp only at known
      split at known
      · obtain ⟨before, stored, rfl⟩ := Option.map_eq_some_iff.mp known
        cases applied
        exact List.mem_append_right _ (List.mem_singleton_self _)
      · exact earlier record known applied

/-- A domain that was deleted has no policy until one that refers to it changes. -/
theorem policy_of_recreated {name : String} {later : List DomainCall} (before : List DomainCall)
    (untouched : ∀ policy, DomainCall.powerPolicy policy ∈ later → policy.domainRef ≠ name)
    {record : DomainRecord}
    (known : recordOf name (before ++ .deletePowerDomain name :: later) = some record) :
    record.policy = none := by
  induction later using List.reverseRecOn generalizing record with
  | nil =>
    rw [recordOf_append_singleton] at known
    cases (if_pos rfl).symm.trans known
  | append_singleton past call ih =>
    have earlier : ∀ record, recordOf name (before ++ .deletePowerDomain name :: past) = some record →
        record.policy = none := fun record known => ih (fun policy inside =>
      untouched policy (List.mem_append_left _ inside)) known
    rw [← List.cons_append, ← List.append_assoc, recordOf_append_singleton] at known
    cases call with
    | powerDomain other spec =>
      unfold DomainRecord.after at known
      dsimp only at known
      split at known
      · cases known
        cases past : recordOf name (before ++ .deletePowerDomain name :: past) with
        | none => rfl
        | some stored => exact earlier stored past
      · exact earlier record known
    | deletePowerDomain other =>
      unfold DomainRecord.after at known
      dsimp only at known
      split at known
      · cases known
      · exact earlier record known
    | powerPolicy policy =>
      have elsewhere := untouched policy (List.mem_append_right _ (List.mem_singleton_self _))
      unfold DomainRecord.after at known
      dsimp only at known
      rw [if_neg elsewhere] at known
      exact earlier record known

end Opendps.Operator
