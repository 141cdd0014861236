/-
**The ConfigMaps of the PowerDomains.**

A PowerDomain has a ConfigMap with its topology; a PowerPolicy writes its params and two annotations into
that of the domain it refers to, and never creates one. The handlers of any number of PowerDomains and
PowerPolicies run next to each other, one API call at a time, PowerDomains are deleted meanwhile, and any
call may fail, with its effect or without it.

* `mounted_configmaps_sound`: every ConfigMap there ever is has the topology of a PowerDomain of its name
  that was accepted, which loads, and its params, if it has any, are those of a PowerPolicy that refers
  to it. So no controller is given params without a topology.
-/

import Opendps.Lib.Calls
import Opendps.Operator.Api
import Opendps.Operator.PowerDomains

namespace Opendps.Operator

open Opendps.Lib Opendps.Pdn

/-! ### The API server -/

/-- A ConfigMap as a domain has it. -/
structure DomainConfigMap where
  data : Dict String String
  annotations : Dict String String := .empty
  deriving DecidableEq

inductive DomainRequest where
  | patch (cmName : String) (data : Dict String String)
  | create (cmName : String) (data : Dict String String)
  | annotate (cmName : String) (annotations : Dict String String)
  | delete (cmName : String)

/-- Every call answers or fails. -/
abbrev DomainAnswer (_ : DomainRequest) : Type := Except ApiException Unit

/-- How a call fails: with or without its effect. -/
structure Fault where
  exc : ApiException
  effective : Bool

/-- The ConfigMaps, and the number of calls so far. -/
structure DomainWorld where
  configMaps : Dict String DomainConfigMap := .empty
  calls : ℕ := 0

/-- A call on the ConfigMaps: a merge patch writes its keys and leaves the others. -/
def handleConfigMaps (configMaps : Dict String DomainConfigMap) :
    DomainRequest → Except ApiException Unit × Dict String DomainConfigMap
  | .patch cmName data =>
    match configMaps.get? cmName with
    | none => (.error notFound, configMaps)
    | some stored => (.ok (), configMaps.set cmName { stored with data := stored.data.update data })
  | .create cmName data =>
    match configMaps.get? cmName with
    | none => (.ok (), configMaps.set cmName { data := data })
    | some _ => (.error conflict, configMaps)
  | .annotate cmName annotations =>
    match configMaps.get? cmName with
    | none => (.error notFound, configMaps)
    | some stored =>
      (.ok (), configMaps.set cmName { stored with annotations := stored.annotations.update annotations })
  | .delete cmName =>
    match configMaps.get? cmName with
    | none => (.error notFound, configMaps)
    | some _ => (.ok (), configMaps.pop cmName)

/-- A call, which `faults` may make fail. -/
def handleDomains (faults : ℕ → Option Fault) (request : DomainRequest) (world : DomainWorld) :
    DomainAnswer request × DomainWorld :=
  match faults world.calls with
  | none => ((handleConfigMaps world.configMaps request).1,
      ⟨(handleConfigMaps world.configMaps request).2, world.calls + 1⟩)
  | some fault => (.error fault.exc,
      ⟨if fault.effective then (handleConfigMaps world.configMaps request).2 else world.configMaps,
        world.calls + 1⟩)

/-! ### The handlers -/

/-- What these handlers raise. -/
inductive DomainError where
  | permanent (message : String)
  | temporary (message : String) (delay : ℕ)
  | api (exc : ApiException)

abbrev DomainHandler (α : Type) := Prog DomainAnswer (Except DomainError α)

/-- The name of the ConfigMap of a domain. -/
def configMapName (domainName : String) : String := "opendps-topology-" ++ domainName

def topologyKey : String := "topology.json"

def paramsKey : String := "params.json"

/-- Patch keys into a ConfigMap, creating it if absent. -/
def patchOrCreateDomainCm (cmName : String) (data : Dict String String) : DomainHandler Unit :=
  .call (.patch cmName data) fun
    | .ok _ => .ret (.ok ())
    | .error e =>
      if e.status ≠ 404 then .ret (.error (.api e))
      else .call (.create cmName data) fun
        | .ok _ => .ret (.ok ())
        | .error ce =>
          if ce.status ≠ 409 then .ret (.error (.api ce))
          else .call (.patch cmName data) fun
            | .ok _ => .ret (.ok ())
            | .error again => .ret (.error (.api again))

/-- Write the topology of a domain. -/
def upsertConfigmap (codec : Codec) (domainName : String) (topology : Json) : DomainHandler Unit :=
  patchOrCreateDomainCm (configMapName domainName) (.ofList [(topologyKey, codec.dumps topology)])

/-- Reconcile a PowerDomain. -/
def reconcilePowerDomain (codec : Codec) (name : String) (spec : PowerDomainSpec) :
    DomainHandler Unit :=
  match onPowerdomainChange name spec with
  | .error exc => .ret (.error (.permanent exc.message))
  | .ok topology => upsertConfigmap codec name topology

/-- Clean up when a PowerDomain is deleted. -/
def onPowerdomainDelete (name : String) : DomainHandler Unit :=
  .call (.delete (configMapName name)) fun
    | .ok _ => .ret (.ok ())
    | .error e => if e.status ≠ 404 then .ret (.error (.api e)) else .ret (.ok ())

/-- The `spec` of a PowerPolicy. -/
structure PowerPolicySpec where
  domainRef : String
  brain : Option String := none
  intervalSeconds : Option ℚ := none
  capRaiseRateWattsPerTick : Option ℚ := none
  ewmaAlpha : Option ℚ := none
  failsafeThresholdWatts : Option ℚ := none
  failsafeEmergencyCapWatts : Option ℚ := none

namespace PowerPolicySpec

def brainName (spec : PowerPolicySpec) : String := spec.brain.getD "prs"

def interval (spec : PowerPolicySpec) : ℚ := spec.intervalSeconds.getD 5

def capRaiseRate (spec : PowerPolicySpec) : ℚ := spec.capRaiseRateWattsPerTick.getD 50

def alpha (spec : PowerPolicySpec) : ℚ := spec.ewmaAlpha.getD (3 / 10)

/-- The params of a policy. -/
def params (spec : PowerPolicySpec) : Json :=
  Json.ofFields
    [("brain", some (.str spec.brainName)),
     ("interval_s", some (.float (.finite spec.interval))),
     ("cap_raise_rate_w_per_tick", some (.float (.finite spec.capRaiseRate))),
     ("ewma_alpha", some (.float (.finite spec.alpha))),
     ("failsafe_threshold_w", spec.failsafeThresholdWatts.map fun watts => .float (.finite watts)),
     ("failsafe_emergency_cap_w",
       spec.failsafeEmergencyCapWatts.map fun watts => .float (.finite watts))]

/-- The annotations of a policy. -/
def annotations (codec : Codec) (spec : PowerPolicySpec) : Dict String String :=
  .ofList [("opendps.io/brain", spec.brainName),
    ("opendps.io/interval", codec.str (.float (.finite spec.interval)))]

end PowerPolicySpec

/-- Write params into the ConfigMap of a domain; without one, try again later. -/
def writeDomainParams (codec : Codec) (domainName : String) (params : Json) : DomainHandler Bool :=
  .call (.patch (configMapName domainName) (.ofList [(paramsKey, codec.dumps params)])) fun
    | .ok _ => .ret (.ok true)
    | .error e =>
      if e.status = 404 then
        .ret (.error (.temporary
          ("ConfigMap " ++ configMapName domainName ++ " not ready; create PowerDomain first") 15))
      else .ret (.error (.api e))

/-- Annotate the ConfigMap of a domain, if there is one. -/
def annotateDomainConfigmap (domainName : String) (annotations : Dict String String) :
    DomainHandler Unit :=
  .call (.annotate (configMapName domainName) annotations) fun
    | .ok _ => .ret (.ok ())
    | .error e => if e.status = 404 then .ret (.ok ()) else .ret (.error (.api e))

/-- Reconcile a PowerPolicy; the result becomes its `active`. -/
def onPowerpolicyChange (codec : Codec) (spec : PowerPolicySpec) : DomainHandler Bool :=
  (writeDomainParams codec spec.domainRef spec.params).bind fun
    | .error exc => .ret (.error exc)
    | .ok wrote => (annotateDomainConfigmap spec.domainRef (spec.annotations codec)).bind fun
      | .error exc => .ret (.error exc)
      | .ok _ => .ret (.ok wrote)

/-- What a handler is called for. -/
inductive DomainCall where
  | powerDomain (name : String) (spec : PowerDomainSpec)
  | deletePowerDomain (name : String)
  | powerPolicy (spec : PowerPolicySpec)

/-- The handler of a call. Its result is what becomes of `active`, for a PowerPolicy. -/
def DomainCall.handler (codec : Codec) : DomainCall → DomainHandler (Option Bool)
  | .powerDomain name spec => (reconcilePowerDomain codec name spec).bind fun outcome =>
      .ret (outcome.map fun _ => none)
  | .deletePowerDomain name => (onPowerdomainDelete name).bind fun outcome =>
      .ret (outcome.map fun _ => none)
  | .powerPolicy spec => (onPowerpolicyChange codec spec).bind fun outcome => .ret (outcome.map some)

/-! ### What every ConfigMap is -/

theorem configMapName_injective : Function.Injective configMapName := by
  intro first second same
  exact String.append_right_inj _ |>.mp same

section Sound

variable {ι : Type} {codec : Codec} {calls : ι → DomainCall}

/-- A ConfigMap that a controller can work with: the topology of an accepted PowerDomain of its name, and
no params but those of a PowerPolicy that refers to it. -/
structure Mounted (codec : Codec) (calls : ι → DomainCall) (name : String) (cm : DomainConfigMap) :
    Prop where
  topology : ∃ i spec, calls i = .powerDomain name spec ∧ spec.indices ≠ [] ∧ 0 < spec.budgetW ∧
    cm.data.get? topologyKey =
      some (codec.dumps (buildTopology name spec.indices spec.budgetW spec.overheadW))
  params : ∀ text, cm.data.get? paramsKey = some text → ∃ i policy, calls i = .powerPolicy policy ∧
    policy.domainRef = name ∧ text = codec.dumps policy.params

/-- Every ConfigMap is one of a domain. -/
def SoundConfigMaps (codec : Codec) (calls : ι → DomainCall)
    (configMaps : Dict String DomainConfigMap) : Prop :=
  ∀ cmName cm, configMaps.get? cmName = some cm →
    ∃ name, cmName = configMapName name ∧ Mounted codec calls name cm

/-- What is written for a PowerDomain. -/
def WritesTopology (codec : Codec) (calls : ι → DomainCall) (cmName : String)
    (data : Dict String String) : Prop :=
  ∃ i name spec, calls i = .powerDomain name spec ∧ spec.indices ≠ [] ∧ 0 < spec.budgetW ∧
    cmName = configMapName name ∧ data = .ofList [(topologyKey,
      codec.dumps (buildTopology name spec.indices spec.budgetW spec.overheadW))]

/-- What is written for a PowerPolicy. -/
def WritesParams (codec : Codec) (calls : ι → DomainCall) (cmName : String)
    (data : Dict String String) : Prop :=
  ∃ i policy, calls i = .powerPolicy policy ∧ cmName = configMapName policy.domainRef ∧
    data = .ofList [(paramsKey, codec.dumps policy.params)]

/-- The calls the handlers make. -/
def DomainRequest.Allowed (codec : Codec) (calls : ι → DomainCall) : DomainRequest → Prop
  | .patch cmName data => WritesTopology codec calls cmName data ∨ WritesParams codec calls cmName data
  | .create cmName data => WritesTopology codec calls cmName data
  | .annotate _ _ => True
  | .delete _ => True

theorem get?_written (first key text : String) :
    (Dict.ofList [(first, text)]).get? key = if key = first then some text else none := by
  rw [Dict.ofList]
  exact Dict.get?_set _ _ _ _

/-- Writing the topology of a domain. -/
theorem Mounted.writeTopology {i : ι} {name : String} {spec : PowerDomainSpec}
    (call : calls i = .powerDomain name spec) (listed : spec.indices ≠ []) (positive : 0 < spec.budgetW)
    {cm : DomainConfigMap} (params : ∀ text, cm.data.get? paramsKey = some text →
      ∃ j policy, calls j = .powerPolicy policy ∧ policy.domainRef = name ∧
        text = codec.dumps policy.params) :
    Mounted codec calls name { cm with data := cm.data.update (.ofList [(topologyKey,
      codec.dumps (buildTopology name spec.indices spec.budgetW spec.overheadW))]) } := by
  refine ⟨⟨i, spec, call, listed, positive, ?_⟩, fun text found => params text ?_⟩
  · rw [Dict.get?_update, get?_written, if_pos rfl]
    rfl
  · have other : paramsKey ≠ topologyKey := by decide
    rw [Dict.get?_update, get?_written, if_neg other] at found
    exact found

/-- **What an allowed call leaves is sound.** -/
theorem sound_handleConfigMaps {configMaps : Dict String DomainConfigMap}
    (sound : SoundConfigMaps codec calls configMaps) {request : DomainRequest}
    (allowed : request.Allowed codec calls) :
    SoundConfigMaps codec calls (handleConfigMaps configMaps request).2 := by
  have stored : ∀ {cmName : String} {cm : DomainConfigMap}, (∃ name, cmName = configMapName name ∧
      Mounted codec calls name cm) → SoundConfigMaps codec calls (configMaps.set cmName cm) := by
    intro cmName cm mounted place found here
    rw [Dict.get?_set] at here
    split at here
    · next same =>
      cases here
      exact same ▸ mounted
    · exact sound place found here
  cases request with
  | patch cmName data =>
    unfold handleConfigMaps
    dsimp only
    cases present : configMaps.get? cmName with
    | none => exact sound
    | some cm =>
      obtain ⟨name, isName, mounted⟩ := sound cmName cm present
      refine stored ⟨name, isName, ?_⟩
      rcases allowed with ⟨i, own, spec, call, listed, positive, isOwn, rfl⟩ | ⟨i, policy, call, isOwn, rfl⟩
      · have same : own = name := configMapName_injective (isOwn.symm.trans isName)
        subst same
        exact Mounted.writeTopology call listed positive mounted.params
      · have same : policy.domainRef = name := configMapName_injective (isOwn.symm.trans isName)
        have other : topologyKey ≠ paramsKey := by decide
        obtain ⟨j, spec, owner, listed, positive, topology⟩ := mounted.topology
        refine ⟨⟨j, spec, owner, listed, positive, ?_⟩, fun text found => ?_⟩
        · rw [Dict.get?_update, get?_written, if_neg other]
          exact topology
        · rw [Dict.get?_update, get?_written, if_pos rfl] at found
          exact ⟨i, policy, call, same, (Option.some.inj found).symm⟩
  | create cmName data =>
    unfold handleConfigMaps
    dsimp only
    cases present : configMaps.get? cmName with
    | some cm => exact sound
    | none =>
      obtain ⟨i, name, spec, call, listed, positive, isOwn, rfl⟩ := allowed
      have other : paramsKey ≠ topologyKey := by decide
      refine stored ⟨name, isOwn, ⟨i, spec, call, listed, positive, ?_⟩, fun text found => ?_⟩
      · rw [get?_written, if_pos rfl]
      · rw [get?_written, if_neg other] at found
        cases found
  | annotate cmName annotations =>
    unfold handleConfigMaps
    dsimp only
    cases present : configMaps.get? cmName with
    | none => exact sound
    | some cm =>
      obtain ⟨name, isName, mounted⟩ := sound cmName cm present
      exact stored ⟨name, isName, mounted.topology, mounted.params⟩
  | delete cmName =>
    unfold handleConfigMaps
    dsimp only
    cases present : configMaps.get? cmName with
    | none => exact sound
    | some cm =>
      intro place found here
      rw [Dict.get?_pop] at here
      split at here
      · cases here
      · exact sound place found here

/-- Failing calls change nothing, or what they would have changed. -/
theorem sound_handleDomains {faults : ℕ → Option Fault} {world : DomainWorld}
    (sound : SoundConfigMaps codec calls world.configMaps) {request : DomainRequest}
    (allowed : request.Allowed codec calls) :
    SoundConfigMaps codec calls (handleDomains faults request world).2.configMaps := by
  unfold handleDomains
  cases faults world.calls with
  | none => exact sound_handleConfigMaps sound allowed
  | some fault =>
    dsimp only
    split
    · exact sound_handleConfigMaps sound allowed
    · exact sound

/-- The handlers make these calls only. -/
theorem makes_handler (i : ι) :
    ((calls i).handler codec).Makes (DomainRequest.Allowed codec calls) := by
  cases call : calls i with
  | powerDomain name spec =>
    refine Prog.Makes.bind ?_ fun _ => trivial
    unfold reconcilePowerDomain
    cases accepted : onPowerdomainChange name spec with
    | error exc => exact trivial
    | ok topology =>
      obtain ⟨listed, positive, rfl⟩ := onPowerdomainChange_eq_ok_iff.mp accepted
      have writes : WritesTopology codec calls (configMapName name) (.ofList [(topologyKey,
          codec.dumps (buildTopology name spec.indices spec.budgetW spec.overheadW))]) :=
        ⟨i, name, spec, call, listed, positive, rfl, rfl⟩
      refine ⟨.inl writes, fun patched => ?_⟩
      cases patched with
      | ok done => exact trivial
      | error e =>
        by_cases absent : e.status = 404
        · simp only [absent, ne_eq, not_true, if_false]
          refine ⟨writes, fun created => ?_⟩
          cases created with
          | ok done => exact trivial
          | error ce =>
            by_cases lost : ce.status = 409
            · simp only [lost, not_true, if_false]
              refine ⟨.inl writes, fun again => ?_⟩
              cases again <;> exact trivial
            · simp only [lost, not_false_iff, if_true]
              exact trivial
        · simp only [absent, ne_eq, not_false_iff, if_true]
          exact trivial
  | deletePowerDomain name =>
    refine Prog.Makes.bind ⟨trivial, fun answer => ?_⟩ fun _ => trivial
    cases answer with
    | ok done => exact trivial
    | error e =>
      dsimp only
      split <;> exact trivial
  | powerPolicy spec =>
    refine Prog.Makes.bind (Prog.Makes.bind ⟨.inr ⟨i, spec, call, rfl, rfl⟩, fun answer => ?_⟩
      fun wrote => ?_) fun _ => trivial
    · cases answer with
      | ok done => exact trivial
      | error e =>
        dsimp only
        split <;> exact trivial
    · cases wrote with
      | error exc => exact trivial
      | ok wrote =>
        refine Prog.Makes.bind ⟨trivial, fun answer => ?_⟩ fun outcome => ?_
        · cases answer with
          | ok done => exact trivial
          | error e =>
            dsimp only
            split <;> exact trivial
        · cases outcome <;> exact trivial

end Sound

/-! ### Handlers next to each other -/

section Pool

variable {ι : Type} [DecidableEq ι]

/-- The handlers before their first call, and no ConfigMap yet. -/
def domainPool (codec : Codec) (calls : ι → DomainCall) :
    Lib.Pool DomainAnswer ι (Except DomainError (Option Bool)) DomainWorld where
  world := {}
  progs i := (calls i).handler codec

/-- No one but the handlers. -/
def operatorAlone (world : DomainWorld) (_ : Empty) : DomainWorld := world

/-- The pool after some API calls, one at a time and in any order, some of which fail. -/
def afterDomainCalls (faults : ℕ → Option Fault) (codec : Codec) (calls : ι → DomainCall)
    (order : List ι) : Lib.Pool DomainAnswer ι (Except DomainError (Option Bool)) DomainWorld :=
  run (Lib.Pool.step (handleDomains faults) operatorAlone) (domainPool codec calls)
    (order.map .thread)

theorem sound_afterDomainCalls (faults : ℕ → Option Fault) (codec : Codec) (calls : ι → DomainCall)
    (order : List ι) :
    SoundConfigMaps codec calls (afterDomainCalls faults codec calls order).world.configMaps :=
  @Lib.Pool.invariant_of_makes _ _ ι _ Empty DomainWorld _ _ (handleDomains faults) operatorAlone
    (fun world => SoundConfigMaps codec calls world.configMaps) (domainPool codec calls)
    (fun _ allowed _ sound => sound_handleDomains sound allowed) (fun _ event => event.elim)
    makes_handler (fun _ _ none => nomatch none) (order.map .thread)

/-- **Every mounted ConfigMap is sound.** Whichever handlers of PowerDomains and PowerPolicies run next
to each other, in whatever order their API calls come and whichever of them fail: each ConfigMap has the
topology of an accepted PowerDomain of its name, from which that domain loads, alone on its PDU; and if
it has params, they are those of a PowerPolicy that refers to it. -/
theorem mounted_configmaps_sound (faults : ℕ → Option Fault) (codec : Codec) (calls : ι → DomainCall)
    (topologiesRoundTrip : ∀ i name spec, calls i = .powerDomain name spec →
      codec.RoundTrips (buildTopology name spec.indices spec.budgetW spec.overheadW))
    (paramsRoundTrip : ∀ i policy, calls i = .powerPolicy policy → codec.RoundTrips policy.params)
    (order : List ι) {cmName : String} {cm : DomainConfigMap}
    (there : (afterDomainCalls faults codec calls order).world.configMaps.get? cmName = some cm) :
    ∃ i name spec text written, calls i = .powerDomain name spec ∧ cmName = configMapName name ∧
      spec.indices ≠ [] ∧ 0 < spec.budgetW ∧
      cm.data.get? topologyKey = some text ∧ codec.loads text = .ok written ∧
      LoadedTopology.fromDict written = .ok (LoadedTopology.ofTopology
        (soleTopology name spec.indices spec.budgetW spec.overheadW)) ∧
      ∀ params, cm.data.get? paramsKey = some params → ∃ j policy, calls j = .powerPolicy policy ∧
        policy.domainRef = name ∧ codec.loads params = .ok policy.params := by
  obtain ⟨name, isName, mounted⟩ := sound_afterDomainCalls faults codec calls order cmName cm there
  obtain ⟨i, spec, call, listed, positive, topology⟩ := mounted.topology
  refine ⟨i, name, spec, _, _, call, isName, listed, positive, topology,
    topologiesRoundTrip i name spec call, fromDict_buildTopology _ _ _ _, fun params found => ?_⟩
  obtain ⟨j, policy, owner, refers, rfl⟩ := mounted.params params found
  exact ⟨j, policy, owner, refers, paramsRoundTrip j policy owner⟩

end Pool

/-- A domain and a policy for it. -/
def rackCalls : Bool → DomainCall
  | false => .powerDomain "rack-a" { gpuIndices := some [0, 1], budgetWatts := some 700 }
  | true => .powerPolicy { domainRef := "rack-a", brain := some "dpm" }

/-- The texts that both of them write. -/
def rackTopologyText : String :=
  "\x7b\n  \"pdus\": \x7b\n    \"pdu0\": \x7b\n      \"name\": \"pdu0\",\n" ++
  "      \"capacity_w\": 840.0\n    \x7d\n  \x7d,\n  \"domains\": \x7b\n" ++
  "    \"rack-a\": \x7b\n      \"name\": \"rack-a\",\n      \"pdu_name\": \"pdu0\",\n" ++
  "      \"gpu_indices\": [\n        0,\n        1\n      ],\n      \"budget_w\": 700.0,\n" ++
  "      \"node_overhead_w\": 0.0\n    \x7d\n  \x7d\n\x7d"

def rackParamsText : String :=
  "\x7b\n  \"brain\": \"dpm\",\n  \"interval_s\": 5.0,\n" ++
  "  \"cap_raise_rate_w_per_tick\": 50.0,\n  \"ewma_alpha\": 0.3\n\x7d"

/-- Nothing else is written or read. -/
def rackCodec : Codec where
  dumps value := if (value.get? "pdus").isSome then rackTopologyText else rackParamsText
  loads text :=
    if text = rackTopologyText then .ok (buildTopology "rack-a" [0, 1] 700 0)
    else if text = rackParamsText then
      .ok (PowerPolicySpec.params { domainRef := "rack-a", brain := some "dpm" })
    else .error (.jsonDecodeError "Expecting value: line 1 column 1 (char 0)")
  repr := Json.repr

theorem rackCodec_loads (text : String) : rackCodec.loads text =
    if text = rackTopologyText then .ok (buildTopology "rack-a" [0, 1] 700 0)
    else if text = rackParamsText then
      .ok (PowerPolicySpec.params { domainRef := "rack-a", brain := some "dpm" })
    else .error (.jsonDecodeError "Expecting value: line 1 column 1 (char 0)") := rfl

theorem rackTopology_roundTrips : rackCodec.RoundTrips (buildTopology "rack-a" [0, 1] 700 0) := by
  have written : rackCodec.dumps (buildTopology "rack-a" [0, 1] 700 0) = rackTopologyText := by
    decide +kernel
  rw [Codec.RoundTrips, written, rackCodec_loads, if_pos rfl]

theorem rackParams_roundTrips :
    rackCodec.RoundTrips (PowerPolicySpec.params { domainRef := "rack-a", brain := some "dpm" }) := by
  have written : rackCodec.dumps (PowerPolicySpec.params { domainRef := "rack-a", brain := some "dpm" }) =
      rackParamsText := by decide +kernel
  have other : rackParamsText ≠ rackTopologyText := by decide +kernel
  rw [Codec.RoundTrips, written, rackCodec_loads, if_neg other, if_pos rfl]

/-- The create takes effect, but its answer is lost. -/
def lostCreate (n : ℕ) : Option Fault := if n = 1 then some ⟨⟨504, "(504)"⟩, true⟩ else none

def rackConfigMap : DomainConfigMap where
  data := .ofList [(topologyKey, rackTopologyText), (paramsKey, rackParamsText)]
  annotations := .ofList [("opendps.io/brain", "dpm"), ("opendps.io/interval", "5.0")]

theorem mounted_configmaps_sound_rack :
    (afterDomainCalls lostCreate rackCodec rackCalls [false, false, true, true]).world.configMaps.get?
        (configMapName "rack-a") = some rackConfigMap ∧
      ∃ i name spec text written, rackCalls i = .powerDomain name spec ∧
        configMapName "rack-a" = configMapName name ∧ spec.indices ≠ [] ∧ 0 < spec.budgetW ∧
        rackConfigMap.data.get? topologyKey = some text ∧ rackCodec.loads text = .ok written ∧
        LoadedTopology.fromDict written = .ok (LoadedTopology.ofTopology
          (soleTopology name spec.indices spec.budgetW spec.overheadW)) ∧
        ∀ params, rackConfigMap.data.get? paramsKey = some params → ∃ j policy,
          rackCalls j = .powerPolicy policy ∧ policy.domainRef = name ∧
            rackCodec.loads params = .ok policy.params :=
  have there : (afterDomainCalls lostCreate rackCodec rackCalls
      [false, false, true, true]).world.configMaps.get? (configMapName "rack-a") =
        some rackConfigMap := by decide +kernel
  ⟨there, mounted_configmaps_sound lostCreate rackCodec rackCalls
    (fun i name spec call => by cases i <;> cases call; exact rackTopology_roundTrips)
    (fun i policy call => by cases i <;> cases call; exact rackParams_roundTrips) _ there⟩

end Opendps.Operator
