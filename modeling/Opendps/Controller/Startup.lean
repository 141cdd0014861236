/-
**How the controller is started.**

`main` checks its arguments, takes the raise rate and the smoothing factor from the `params.json` next to
its topology where there is one, builds the brain and hands over to the loop. Here it is a function of
its arguments, of what it reads (`StartInputs`) and of the actuator.

* `policy_is_two_flags`: on the ConfigMap of a domain, after any history of handlers, a PowerPolicy is
  worth the two flags `--cap-raise-rate` and `--ewma-alpha` and nothing else: neither its brain nor its
  interval reaches the controller, and after the domain was deleted and created again neither do the two.
* `admitted_policy_starts`: a policy within the bounds of its custom resource definition never keeps a
  controller from starting, and changes nothing but what a brain of the PRS family works with.
-/

import Opendps.Controller.TiersInForce
import Opendps.Lib.Numerals
import Opendps.Operator.DomainLifecycle

namespace Opendps.Controller

open Opendps.Lib Opendps.Pdn Opendps.Brain Opendps.Operator

/-! ### Arguments and inputs -/

/-- The brains of `--brain`. -/
inductive BrainChoice where
  | dpm
  | prs
  | cvxpy
  | jobPrs
  | quotaPrs
  | priorityPrs
  | thermalPrs
  deriving DecidableEq

def BrainChoice.name : BrainChoice → String
  | dpm => "dpm"
  | prs => "prs"
  | cvxpy => "cvxpy"
  | jobPrs => "job-prs"
  | quotaPrs => "quota-prs"
  | priorityPrs => "priority-prs"
  | thermalPrs => "thermal-prs"

/-- The brains that are built with the smoothing factor and the raise rate. -/
def BrainChoice.takesParams : BrainChoice → Bool
  | dpm | cvxpy => false
  | _ => true

/-- The command line, with its defaults. -/
structure Arguments where
  intervalS : ℚ := 5
  dryRun : Bool := false
  sim : Bool := false
  brain : BrainChoice := .prs
  hotGpus : String := ""
  thermalThrottleTempC : PyFloat := .finite 85
  gpuPriorityTiers : Option String := none
  metricsPort : Option ℕ := none
  capRaiseRate : PyFloat := .finite 0
  ewmaAlpha : PyFloat := .finite (3 / 10)
  busyGpus : String := ""
  priorityBoost : Option PyFloat := none
  telemetry : String := "prom"
  quotaConfig : Option String := none

/-- What `main` meets besides: the topology and the quota as they load, the text of `params.json` if it
can be read, the environment, and the first poll. -/
structure StartInputs where
  topology : Except PyError PDNTopology
  quota : Except PyError (Option QuotaConfig) := .ok none
  paramsText : Option String := none
  environ : Dict String String := .empty
  polled : PollInput

/-- How `main` ends before the loop. -/
inductive Halt where
  /-- `parser.error`. -/
  | usage (message : String)
  | raised (exc : PyError)
  /-- It starts, but a number it works with is none of this model's. -/
  | outside

/-- Raise what was raised. -/
def raising {α : Type} : Except PyError α → Except Halt α
  | .ok value => .ok value
  | .error exc => .error (.raised exc)

/-- Whether an optional text is there and not empty. -/
def given : Option String → Bool
  | none => false
  | some text => text ≠ ""

/-! ### The parts of `main` -/

/-- A list of GPU indices that only a simulation takes. -/
def simOnly (flag text : String) (sim : Bool) : Except Halt (List ℤ) :=
  match ((text.toList.splitOn ',').filter fun piece => strip piece ≠ []).mapM
      (intOfStr ∘ String.ofList) with
  | .error _ => .error (.usage (flag ++ " must be a comma-separated list of GPU indices"))
  | .ok gpus =>
    if gpus ≠ [] ∧ sim = false then
      .error (.usage (flag ++ " is a sim/demo-only override; use it with --sim"))
    else .ok gpus

def throttleTemp : PyFloat → Except Halt ℚ
  | .finite temp =>
    if 0 < temp then .ok temp
    else .error (.usage "--thermal-throttle-temp-c must be a finite positive number")
  | _ => .error (.usage "--thermal-throttle-temp-c must be a finite positive number")

/-- The exceptions that become a usage error, with their message. -/
def usageOf : PyError → Halt
  | .valueError message => .usage message
  | .jsonDecodeError message => .usage message
  | exc => .raised exc

/-- The quota of a quota brain; no other brain has one. -/
def quotaFor (args : Arguments) (loaded : Except PyError (Option QuotaConfig)) :
    Except Halt (Option QuotaConfig) :=
  if given args.quotaConfig ∧ args.brain ≠ .quotaPrs then
    .error (.usage "--quota-config is only valid with --brain quota-prs")
  else if args.brain = .quotaPrs then
    match loaded with
    | .error exc => .error (usageOf exc)
    | .ok none => .error (.usage ("--brain quota-prs requires a quota config: pass --quota-config FILE " ++
        "or place quota.json next to --config"))
    | .ok (some quota) => .ok (some quota)
  else .ok none

/-- The switch for published priorities, and the node they are for. -/
def dynamicPriorityConfigFromEnv (environ : Dict String String) : Except PyError (Option String) :=
  let normalized := (strip (environ.getD "OPENDPS_PRIORITY_CONFIG_ENABLED" "false").toList).map
    Char.toLower
  if normalized = "true".toList then
    let nodeName := strip (environ.getD "OPENDPS_NODE_NAME" "").toList
    if nodeName = [] then
      .error (.valueError "OPENDPS_NODE_NAME is required when dynamic priority config is enabled")
    else .ok (some (String.ofList nodeName))
  else if normalized = "false".toList then .ok none
  else .error (.valueError "OPENDPS_PRIORITY_CONFIG_ENABLED must be 'true' or 'false'")

def dynamicFor (args : Arguments) (environ : Dict String String) : Except Halt (Option String) :=
  if args.brain = .priorityPrs then
    match dynamicPriorityConfigFromEnv environ with
    | .error exc => .error (usageOf exc)
    | .ok nodeName => .ok nodeName
  else .ok none

/-- `{int(k): str(v) for k, v in raw.items()}`. -/
def readTiers (codec : Codec) (text : String) : Except PyError (Dict ℤ String) := do
  let raw ← codec.loads text
  let items ← raw.itemsOf
  let entries ← items.mapM fun item => do
    let gpu ← intOfStr item.1
    pure (gpu, codec.str item.2)
  pure (.ofList entries)

/-- What the exceptions of a tier map become. -/
def tiersRefused : PyError → Halt
  | .valueError message | .jsonDecodeError message | .typeError message | .attributeError message =>
    .usage ("--gpu-priority-tiers must be a JSON object of gpu->tier: " ++ message)
  | exc => .raised exc

/-- The GPUs of a topology. -/
def topologyGpus (topology : PDNTopology) : List GpuIndex :=
  topology.domains.values.flatMap PowerDomain.gpuIndices

/-- The GPUs of a tier map that the topology does not have. -/
def strayGpus (topology : PDNTopology) (tiers : Dict ℤ String) : List ℤ :=
  sortedBy id (tiers.keys.filter fun gpu => decide (gpu ∉ topologyGpus topology))

/-- The tier map of a priority brain; no other brain has one. -/
def tiersFor (codec : Codec) (args : Arguments) (topology : PDNTopology) (dynamic : Bool) :
    Except Halt (Dict ℤ String) :=
  if args.gpuPriorityTiers.isSome ∧ args.brain ≠ .priorityPrs then
    .error (.usage "--gpu-priority-tiers is only used by --brain priority-prs")
  else if args.brain = .priorityPrs ∧ given args.gpuPriorityTiers = false ∧ dynamic = false then
    .error (.usage "--brain priority-prs requires --gpu-priority-tiers")
  else if args.brain = .priorityPrs ∧ given args.gpuPriorityTiers = true then
    match readTiers codec (args.gpuPriorityTiers.getD "") with
    | .error exc => .error (tiersRefused exc)
    | .ok tiers =>
      if tiers.items = [] then
        .error (.usage "--gpu-priority-tiers must map at least one GPU to a tier")
      else if strayGpus topology tiers ≠ [] then
        .error (.usage ("--gpu-priority-tiers references GPUs " ++
          reprList ((strayGpus topology tiers).map toString) ++ " not in the topology"))
      else .ok tiers
  else .ok .empty

/-- Load PowerPolicy-derived params: nothing where there is no file, or none that can be read. -/
def loadBrainParams (codec : Codec) : Option String → Except PyError Json
  | none => .ok (.obj [])
  | some text =>
    match codec.loads text with
    | .ok (.obj items) => .ok (.obj items)
    | .ok _ => .ok (.obj [])
    | .error (.valueError _) => .ok (.obj [])
    | .error (.jsonDecodeError _) => .ok (.obj [])
    | .error exc => .error exc

/-- What `<` raises for what is no number. -/
def notComparable (first second : String) : Halt :=
  .raised (.typeError
    ("'<' not supported between instances of '" ++ first ++ "' and '" ++ second ++ "'"))

/-- The refusal of a boost. -/
def boostRefused (priorityBoost : Json) : Halt :=
  .usage ("--priority-boost must be >= 0, got " ++ priorityBoost.formatted)

/-- The boost of a job brain, from the params or the command line. -/
def priorityBoostFor (args : Arguments) (params : Json) : Except Halt ℚ :=
  if args.brain = .jobPrs then
    let priorityBoost := (params.get? "priority_boost").getD
      (.float (args.priorityBoost.getD (.finite (15 / 100))))
    match priorityBoost.number? with
    | none => .error (notComparable priorityBoost.typeName "int")
    | some (.finite boost) => if boost < 0 then .error (boostRefused priorityBoost) else .ok boost
    | some .negInf => .error (boostRefused priorityBoost)
    | some _ => .error .outside
  else if args.priorityBoost.isSome then
    .error (.usage "--priority-boost is only used by --brain job-prs")
  else .ok (15 / 100)

/-- The refusal of a smoothing factor. -/
def alphaRefused (ewmaAlpha : Json) : Halt :=
  .raised (.valueError ("ewma_alpha must be in (0, 1], got " ++ ewmaAlpha.formatted))

/-- The parameters of a PRS brain, as its constructor checks them. A raise rate that is infinite or no
number passes the check. -/
def prsParamsOf (ewmaAlpha capRaiseRate : Json) : Except Halt PRSParams :=
  match ewmaAlpha.number? with
  | none => .error (notComparable "float" ewmaAlpha.typeName)
  | some (.finite alpha) =>
    if 0 < alpha ∧ alpha ≤ 1 then
      match capRaiseRate.number? with
      | none => .error (notComparable capRaiseRate.typeName "float")
      | some (.finite rate) =>
        raising ((PRSBrain.init 200 alpha (6 / 10) (3 / 10) rate).map PRSBrain.params)
      | some .negInf => .error (.raised (.valueError "cap_raise_rate_w_per_tick must be >= 0"))
      | some _ => .error .outside
    else .error (alphaRefused ewmaAlpha)
  | some _ => .error (alphaRefused ewmaAlpha)

/-- What brains are built from. -/
structure BrainConfig where
  quota : Option QuotaConfig
  tiers : Dict ℤ String
  hasSource : Bool
  priorityBoost : ℚ
  ewmaAlpha : Json
  capRaiseRate : Json

/-- The constructor of a quota brain. It checks the quota; what PRS makes of the parameters shows when
the brain of a tenant is built. -/
def quotaBrainOf (quota : QuotaConfig) (params : Except Halt PRSParams) : Except Halt AnyBrain :=
  match validated : quota.validate with
  | .error exc => .error (.raised exc)
  | .ok () =>
    match params with
    | .error (.raised refusal) => .ok (.refusedQuotaPrs { quota, validated, refusal })
    | .error halt => .error halt
    | .ok params => .ok (.quotaPrs { quota := quota, validated := validated, prsParams := params })

/-- The brain of the constructor of the controller. -/
def brainOf (choice : BrainChoice) (topology : PDNTopology) (config : BrainConfig) :
    Except Halt AnyBrain :=
  match choice with
  | .dpm => .ok (.dpm {})
  | .prs => do
    let params ← prsParamsOf config.ewmaAlpha config.capRaiseRate
    pure (.prs { params := params })
  | .cvxpy => raising (CVXPYBrain.init.map AnyBrain.cvxpy)
  | .jobPrs => do
    let params ← prsParamsOf config.ewmaAlpha config.capRaiseRate
    let brain ← raising (JobAwarePRSBrain.init params config.priorityBoost)
    pure (.jobPrs brain)
  | .quotaPrs =>
    match config.quota with
    | none => .error (.raised (.valueError ("--brain quota-prs requires a quota config " ++
        "(pass --quota-config FILE or place quota.json next to --config)")))
    | some quota =>
      match validateQuotaAgainstTopology quota topology with
      | .error exc => .error (.raised exc)
      | .ok () => quotaBrainOf quota (prsParamsOf config.ewmaAlpha config.capRaiseRate)
  | .priorityPrs =>
    if config.tiers.items = [] ∧ config.hasSource = false then
      .error (.raised (.valueError "--brain priority-prs requires --gpu-priority-tiers"))
    else if known : ∀ tier ∈ config.tiers.values, tier ∈ tierWeights.keys then do
      let params ← prsParamsOf config.ewmaAlpha config.capRaiseRate
      pure (.priorityPrs { prs := { params := params }, tiers := config.tiers, known := known
                           threshold := 6 / 10, minCapW := 200 })
    else .error (.raised (PriorityTieredPRSBrain.unknownTiers config.tiers))
  | .thermalPrs => do
    let params ← prsParamsOf config.ewmaAlpha config.capRaiseRate
    let brain ← raising (ThermalAwarePRSBrain.init params)
    pure (.thermalPrs brain)

/-- The source of published priorities, polled once. -/
def sourceFor (codec : Codec) (dynamic : Option String) (environ : Dict String String)
    (baseline : Dict ℤ String) (polled : PollInput) : Except Halt (Option PriorityConfigSource) :=
  match dynamic with
  | none => .ok none
  | some nodeName =>
    if strip (environ.getD "POD_NAMESPACE" "").toList = [] then
      .error (.usage "POD_NAMESPACE is required when dynamic priority config is enabled")
    else
      match RunningController.afterPoll codec (.new nodeName baseline false) polled with
      | (.error exc, _) => .error (.raised exc)
      | (.ok (), source) => .ok (some source)

/-! ### `main` -/

/-- What the arguments come to before the params are read. -/
structure Checked where
  hotGpus : List ℤ
  throttleTempC : ℚ
  topology : PDNTopology
  quota : Option QuotaConfig
  dynamic : Option String
  tiers : Dict ℤ String

/-- The checks before the params are read. -/
def check (codec : Codec) (args : Arguments) (inputs : StartInputs) : Except Halt Checked := do
  let _ ← simOnly "--busy-gpus" args.busyGpus args.sim
  let hotGpus ← simOnly "--hot-gpus" args.hotGpus args.sim
  let temp ← throttleTemp args.thermalThrottleTempC
  let topology ← raising inputs.topology
  let quota ← quotaFor args inputs.quota
  let dynamic ← dynamicFor args inputs.environ
  let tiers ← tiersFor codec args topology dynamic.isSome
  pure { hotGpus := hotGpus, throttleTempC := temp, topology := topology, quota := quota
         dynamic := dynamic, tiers := tiers }

/-- The controller that is built in the end. -/
def launch {σ : Type} (codec : Codec) (args : Arguments) (inputs : StartInputs) (actuator : σ)
    (checked : Checked) (params : Json) : Except Halt (RunningController σ) := do
  let boost ← priorityBoostFor args params
  let source ← sourceFor codec checked.dynamic inputs.environ checked.tiers inputs.polled
  let brain ← brainOf args.brain checked.topology
    { quota := checked.quota, tiers := checked.tiers, hasSource := source.isSome
      priorityBoost := boost
      ewmaAlpha := (params.get? "ewma_alpha").getD (.float args.ewmaAlpha)
      capRaiseRate := (params.get? "cap_raise_rate_w_per_tick").getD (.float args.capRaiseRate) }
  pure
    { config :=
        { intervalS := args.intervalS, dryRun := args.dryRun, simMode := args.sim
          brainType := args.brain.name, metricsPort := args.metricsPort
          telemetry := args.telemetry, quotaConfig := checked.quota }
      deciding :=
        { topology := checked.topology, managedDomains := checked.topology.domains.keys
          brain := brain, thermalThrottledGpus := checked.hotGpus
          thermalThrottleTempC := checked.throttleTempC }
      prioritySource := source
      actuator := actuator }

/-- Everything up to the loop. -/
def main {σ : Type} (codec : Codec) (args : Arguments) (inputs : StartInputs) (actuator : σ) :
    Except Halt (RunningController σ) := do
  let checked ← check codec args inputs
  let params ← raising (loadBrainParams codec inputs.paramsText)
  launch codec args inputs actuator checked params

/-! ### What a policy is worth -/

/-- The arguments under a policy: its raise rate and its smoothing factor, and nothing else of it. -/
def Arguments.under (args : Arguments) : Option PowerPolicySpec → Arguments
  | none => args
  | some policy => { args with
      capRaiseRate := .finite policy.capRaiseRate, ewmaAlpha := .finite policy.alpha }

/-- The text of a topology loads as a given one. -/
def Loads (codec : Codec) (text : String) (topology : PDNTopology) : Prop :=
  ∃ written, codec.loads text = .ok written ∧
    LoadedTopology.fromDict written = .ok (LoadedTopology.ofTopology topology)

section Policy

variable {σ : Type} {codec : Codec}

theorem get?_params (policy : PowerPolicySpec) :
    policy.params.get? "ewma_alpha" = some (.float (.finite policy.alpha)) ∧
      policy.params.get? "cap_raise_rate_w_per_tick" =
        some (.float (.finite policy.capRaiseRate)) ∧
      policy.params.get? "priority_boost" = none := by
  unfold PowerPolicySpec.params
  refine ⟨Json.get?_ofFields (by simp) (by simp), Json.get?_ofFields (by simp) (by simp), ?_⟩
  refine Json.get?_object_of_not_mem fun member => ?_
  obtain ⟨item, inside, key⟩ := List.mem_map.mp member
  have field := Json.mem_present.mp inside
  rw [key] at field
  simp at field

/-- **A controller that is given the params of a policy** starts, or halts, as one without a
`params.json` does that is given the two flags. -/
theorem main_of_params (policy : PowerPolicySpec) {text : String}
    (read : codec.loads text = .ok policy.params) (args : Arguments) (inputs : StartInputs)
    (actuator : σ) :
    main codec args { inputs with paramsText := some text } actuator =
      main codec (args.under (some policy)) { inputs with paramsText := none } actuator := by
  obtain ⟨alpha, rate, boost⟩ := get?_params policy
  have loaded : loadBrainParams codec (some text) = .ok policy.params := by
    rw [loadBrainParams, read]
    rfl
  have sameBoost : priorityBoostFor args policy.params =
      priorityBoostFor (args.under (some policy)) (.obj []) := by
    rw [priorityBoostFor, boost]
    rfl
  have launched (checked : Checked) :
      launch codec args { inputs with paramsText := some text } actuator checked policy.params =
        launch codec (args.under (some policy)) { inputs with paramsText := none } actuator checked
          (.obj []) := by
    rw [launch, launch, sameBoost, alpha, rate]
    rfl
  show (check codec args inputs >>= fun checked => raising (loadBrainParams codec (some text)) >>=
    launch codec args _ actuator checked) = check codec args inputs >>= fun checked =>
      launch codec (args.under (some policy)) _ actuator checked (.obj [])
  rw [loaded]
  exact congrArg _ (funext launched)

/-- What is on the ConfigMap of a domain with a record. -/
theorem texts_of_record (codec : Codec) (name : String) (record : DomainRecord) :
    (record.configMap codec name).data.get? topologyKey =
        some (codec.dumps (record.topology name)) ∧
      (record.configMap codec name).data.get? paramsKey =
        record.policy.map fun policy => codec.dumps policy.params := by
  obtain ⟨spec, policy⟩ := record
  cases policy <;> exact ⟨rfl, rfl⟩

/-- The domain of a record, alone on its PDU. -/
def soleTopologyOf (name : String) (record : DomainRecord) : PDNTopology :=
  soleTopology name record.spec.indices record.spec.budgetW record.spec.overheadW

/-- A controller on the ConfigMap of a record. -/
theorem main_of_record {name : String} {record : DomainRecord}
    (roundTrip : ∀ policy, record.policy = some policy → codec.RoundTrips policy.params)
    (args : Arguments) (inputs : StartInputs) (actuator : σ) :
    main codec args
        { inputs with paramsText := (record.configMap codec name).data.get? paramsKey } actuator =
      main codec (args.under record.policy) { inputs with paramsText := none } actuator := by
  rw [(texts_of_record codec name record).2]
  cases applied : record.policy with
  | none => rfl
  | some policy => exact main_of_params policy (roundTrip policy applied) args inputs actuator

/-- **A policy is two flags.** After any history of handlers, a domain that is there has a ConfigMap from
which it loads, alone on its PDU; and a controller that is started on it, with any arguments, comes out
as one without a `params.json` that has the raise rate and the smoothing factor of the policy applied
last as its flags. If the domain was deleted and created again, and no policy that refers to it changed
since, it comes out as one with its own flags, whatever policy there is. -/
theorem policy_is_two_flags (codec : Codec) (history : List DomainCall) {name : String}
    {record : DomainRecord} (known : recordOf name history = some record)
    (topologyRoundTrips : codec.RoundTrips (record.topology name))
    (paramsRoundTrip : ∀ policy, record.policy = some policy → codec.RoundTrips policy.params)
    (args : Arguments) (inputs : StartInputs) (actuator : σ) :
    ∃ cm text, (configMapsAfter codec history).get? (configMapName name) = some cm ∧
      cm.data.get? topologyKey = some text ∧ Loads codec text (soleTopologyOf name record) ∧
      main codec args { inputs with
          topology := .ok (soleTopologyOf name record), paramsText := cm.data.get? paramsKey } actuator =
        main codec (args.under record.policy) { inputs with
          topology := .ok (soleTopologyOf name record), paramsText := none } actuator ∧
      ((∃ before later, history = before ++ .deletePowerDomain name :: later ∧
          ∀ policy, .powerPolicy policy ∈ later → policy.domainRef ≠ name) →
        cm.data.get? paramsKey = none ∧ args.under record.policy = args) := by
  have stored : (configMapsAfter codec history).get? (configMapName name) =
      (recordOf name history).map (DomainRecord.configMap codec name) :=
    recorded_configMapsAfter codec history name
  rw [known] at stored
  obtain ⟨topology, params⟩ := texts_of_record codec name record
  refine ⟨_, _, stored, topology, ⟨_, topologyRoundTrips, fromDict_buildTopology _ _ _ _⟩,
    main_of_record paramsRoundTrip args { inputs with topology := .ok (soleTopologyOf name record) }
      actuator, ?_⟩
  rintro ⟨before, later, rfl, untouched⟩
  have forgotten := policy_of_recreated before untouched known
  rw [params, forgotten]
  exact ⟨rfl, rfl⟩

/-! ### Policies that are admitted -/

/-- The bounds of the custom resource definition. -/
structure Admitted (policy : PowerPolicySpec) : Prop where
  alpha_pos : 0 < policy.alpha
  alpha_le_one : policy.alpha ≤ 1
  rate_nonneg : 0 ≤ policy.capRaiseRate

/-- The parameters a brain of the PRS family works with. -/
def prsParams? : AnyBrain → Option PRSParams
  | .dpm _ => none
  | .prs brain => some brain.params
  | .cvxpy _ => none
  | .jobPrs brain => some brain.prs.params
  | .quotaPrs brain => some brain.prsParams
  | .refusedQuotaPrs _ => none
  | .priorityPrs brain => some brain.prs.params
  | .thermalPrs brain => some brain.prs.params

/-- A brain works with a policy; of a kind that takes no parameters it is the one there was. -/
def Follows (choice : BrainChoice) (policy : PowerPolicySpec) (before brain : AnyBrain) : Prop :=
  if choice.takesParams then ∃ params, prsParams? brain = some params ∧
    params.ewmaAlpha = policy.alpha ∧ params.capRaiseRateWPerTick = policy.capRaiseRate
  else brain = before

/-- A quota brain that is built has a valid quota, and its parameters are taken or refused. -/
theorem quotaBrainOf_cases {quota : QuotaConfig} {params : Except Halt PRSParams} {brain : AnyBrain}
    (built : quotaBrainOf quota params = .ok brain) : ∃ validated : quota.validate = .ok (),
      (∃ found, params = .ok found ∧
        brain = .quotaPrs { quota := quota, validated := validated, prsParams := found }) ∨
      ∃ refusal, params = .error (.raised refusal) ∧
        brain = .refusedQuotaPrs { quota := quota, validated := validated, refusal := refusal } := by
  unfold quotaBrainOf at built
  split at built
  · cases built
  · next validated =>
    refine ⟨validated, ?_⟩
    split at built
    · next refusal =>
      cases built
      exact .inr ⟨refusal, rfl, rfl⟩
    · cases built
    · next found =>
      cases built
      exact .inl ⟨found, rfl, rfl⟩

theorem quotaBrainOf_ok {quota : QuotaConfig} (validated : quota.validate = .ok ())
    (params : PRSParams) : quotaBrainOf quota (.ok params) =
      .ok (.quotaPrs { quota := quota, validated := validated, prsParams := params }) := by
  unfold quotaBrainOf
  split
  · next refused =>
    rw [validated] at refused
    cases refused
  · rfl

theorem prsParamsOf_of_admitted {policy : PowerPolicySpec} (admitted : Admitted policy) :
    prsParamsOf (.float (.finite policy.alpha)) (.float (.finite policy.capRaiseRate)) =
      .ok ⟨200, policy.alpha, 6 / 10, 3 / 10, policy.capRaiseRate, admitted.alpha_pos,
        admitted.alpha_le_one, admitted.rate_nonneg⟩ := by
  have range : 0 < policy.alpha ∧ policy.alpha ≤ 1 := ⟨admitted.alpha_pos, admitted.alpha_le_one⟩
  have init : PRSBrain.init 200 policy.alpha (6 / 10) (3 / 10) policy.capRaiseRate =
      .ok { params := ⟨200, policy.alpha, 6 / 10, 3 / 10, policy.capRaiseRate, admitted.alpha_pos,
        admitted.alpha_le_one, admitted.rate_nonneg⟩ } := by
    rw [PRSBrain.init, dif_pos range, dif_pos admitted.rate_nonneg]
  simp only [prsParamsOf, Json.number?, if_pos range, init]
  rfl

/-- A brain that is built is built with the parameters of an admitted policy, too. -/
theorem brainOf_of_admitted {choice : BrainChoice} {topology : PDNTopology} {config : BrainConfig}
    {brain : AnyBrain} (built : brainOf choice topology config = .ok brain) {policy : PowerPolicySpec}
    (admitted : Admitted policy) :
    ∃ other, brainOf choice topology { config with
        ewmaAlpha := .float (.finite policy.alpha)
        capRaiseRate := .float (.finite policy.capRaiseRate) } = .ok other ∧
      Follows choice policy brain other := by
  have params := prsParamsOf_of_admitted admitted
  cases choice with
  | dpm => exact ⟨brain, built, rfl⟩
  | cvxpy => exact ⟨brain, built, rfl⟩
  | prs => exact ⟨_, bind_of_ok params rfl, _, rfl, rfl, rfl⟩
  | thermalPrs =>
    have init : ∀ params, ThermalAwarePRSBrain.init params = .ok
        { prs := { params := params }, derate := 15 / 100, minCapW := 200
          derate_nonneg := defaultPart_nonneg, derate_lt_one := defaultPart_lt_one } := fun _ =>
      dif_pos ⟨defaultPart_nonneg, defaultPart_lt_one⟩
    exact ⟨_, bind_of_ok params (bind_of_ok (congrArg raising (init _)) rfl), _, rfl, rfl, rfl⟩
  | jobPrs =>
    obtain ⟨_, _, later⟩ := ok_of_bind built
    obtain ⟨_, boosted, _⟩ := ok_of_bind later
    have nonneg : 0 ≤ config.priorityBoost := by
      by_contra negative
      rw [JobAwarePRSBrain.init, dif_neg negative] at boosted
      cases boosted
    have init : ∀ params, JobAwarePRSBrain.init params config.priorityBoost = .ok
        { prs := { params := params }, boost := config.priorityBoost, boost_nonneg := nonneg } :=
      fun _ => dif_pos nonneg
    exact ⟨_, bind_of_ok params (bind_of_ok (congrArg raising (init _)) rfl), _, rfl, rfl, rfl⟩
  | quotaPrs =>
    unfold brainOf at built ⊢
    cases present : config.quota with
    | none =>
      rw [present] at built
      cases built
    | some quota =>
      rw [present] at built
      dsimp only at built ⊢
      cases fits : validateQuotaAgainstTopology quota topology with
      | error exc =>
        rw [fits] at built
        cases built
      | ok done =>
        rw [fits] at built
        obtain ⟨validated, _⟩ := quotaBrainOf_cases built
        rw [params]
        exact ⟨_, quotaBrainOf_ok validated _, _, rfl, rfl, rfl⟩
  | priorityPrs =>
    unfold brainOf at built ⊢
    simp only at built ⊢
    split at built
    · cases built
    · next some =>
      split at built
      · next known =>
        rw [if_neg some, dif_pos known]
        exact ⟨_, bind_of_ok params rfl, _, rfl, rfl, rfl⟩
      · cases built

/-- What is launched, is launched with the flags of an admitted policy, too: all but the brain is the
same. -/
theorem launch_of_admitted {args : Arguments} {inputs : StartInputs} {actuator : σ}
    {checked : Checked} {controller : RunningController σ}
    (launched : launch codec args inputs actuator checked (.obj []) = .ok controller)
    {policy : PowerPolicySpec} (admitted : Admitted policy) :
    ∃ brain, launch codec (args.under (some policy)) inputs actuator checked (.obj []) =
        .ok { controller with deciding := { controller.deciding with brain := brain } } ∧
      Follows args.brain policy controller.deciding.brain brain := by
  obtain ⟨boost, boosted, later⟩ := ok_of_bind launched
  obtain ⟨source, polled, later⟩ := ok_of_bind later
  obtain ⟨brain, built, returned⟩ := ok_of_bind later
  obtain ⟨other, rebuilt, works⟩ := brainOf_of_admitted built admitted
  cases returned
  exact ⟨other, bind_of_ok boosted (bind_of_ok polled (bind_of_ok rebuilt rfl)), works⟩

/-- **An admitted policy never keeps a controller from starting.** Where all policies of a history are
within the bounds of the custom resource definition: whatever starts with its own flags, starts on the
ConfigMap of a domain as well; it is the same controller up to the brain, and a brain of the PRS family
works with the policy applied last, if there is one. Any other brain is the same, too. -/
theorem admitted_policy_starts (codec : Codec) (history : List DomainCall) {name : String}
    {record : DomainRecord} (known : recordOf name history = some record)
    (admitted : ∀ policy, .powerPolicy policy ∈ history → Admitted policy)
    (roundTrip : ∀ policy, .powerPolicy policy ∈ history → codec.RoundTrips policy.params)
    (args : Arguments) (inputs : StartInputs) (actuator : σ) {controller : RunningController σ}
    (started : main codec args { inputs with paramsText := none } actuator = .ok controller) :
    ∃ cm brain, (configMapsAfter codec history).get? (configMapName name) = some cm ∧
      main codec args { inputs with paramsText := cm.data.get? paramsKey } actuator =
        .ok { controller with deciding := { controller.deciding with brain := brain } } ∧
      ∀ policy, record.policy = some policy →
        Follows args.brain policy controller.deciding.brain brain := by
  have stored : (configMapsAfter codec history).get? (configMapName name) =
      (recordOf name history).map (DomainRecord.configMap codec name) :=
    recorded_configMapsAfter codec history name
  rw [known] at stored
  have written : ∀ policy, record.policy = some policy → .powerPolicy policy ∈ history :=
    fun policy applied => mem_of_recordOf known applied
  have same := @main_of_record σ codec name record
    (fun policy applied => roundTrip policy (written policy applied)) args inputs actuator
  cases applied : record.policy with
  | none =>
    rw [applied] at same
    exact ⟨_, controller.deciding.brain, stored, same.trans started, fun _ none => by cases none⟩
  | some policy =>
    rw [applied] at same
    obtain ⟨checked, passed, later⟩ := ok_of_bind started
    obtain ⟨params, loaded, launched⟩ := ok_of_bind later
    cases loaded
    obtain ⟨brain, relaunched, works⟩ :=
      launch_of_admitted launched (admitted policy (written policy applied))
    refine ⟨_, brain, stored, same.trans ?_, fun other isPolicy => ?_⟩
    · exact bind_of_ok passed (bind_of_ok rfl relaunched)
    · cases isPolicy
      exact works

end Policy

/-- What is read besides the ConfigMap of the rack. -/
def rackInputs : StartInputs where
  topology := .ok { pdus := .empty, domains := .empty }
  polled := ⟨false, .error ⟨none⟩⟩

/-- The rack and its policy: the controller works with the rate of 50 W that a policy has by default. -/
theorem policy_is_two_flags_rack :
    ∃ record cm text, recordOf "rack-a" [rackCalls false, rackCalls true] = some record ∧
      (configMapsAfter rackCodec [rackCalls false, rackCalls true]).get? (configMapName "rack-a") =
        some cm ∧
      cm.data.get? topologyKey = some text ∧ Loads rackCodec text (soleTopologyOf "rack-a" record) ∧
      main rackCodec {} { rackInputs with
          topology := .ok (soleTopologyOf "rack-a" record)
          paramsText := cm.data.get? paramsKey } () =
        main rackCodec { capRaiseRate := .finite 50, ewmaAlpha := .finite (3 / 10) }
          { rackInputs with topology := .ok (soleTopologyOf "rack-a" record) } () := by
  have known : recordOf "rack-a" [rackCalls false, rackCalls true] =
      some ⟨{ gpuIndices := some [0, 1], budgetWatts := some 700 },
        some { domainRef := "rack-a", brain := some "dpm" }⟩ := rfl
  obtain ⟨cm, text, stored, topology, loads, same, _⟩ := policy_is_two_flags rackCodec _ known
    rackTopology_roundTrips (fun policy applied => by cases applied; exact rackParams_roundTrips) {}
    rackInputs ()
  exact ⟨_, cm, text, known, stored, topology, loads, same⟩

/-- The same rack: the controller that starts without a policy starts with it, and its PRS brain may
raise a cap by 50 W a tick. -/
theorem admitted_policy_starts_rack :
    ∃ (controller : RunningController Unit) (cm : DomainConfigMap) (brain : AnyBrain),
      main rackCodec {} rackInputs () = .ok controller ∧
      main rackCodec {} { rackInputs with paramsText := cm.data.get? paramsKey } () =
        .ok { controller with deciding := { controller.deciding with brain := brain } } ∧
      ∃ params, prsParams? brain = some params ∧ params.capRaiseRateWPerTick = 50 := by
  have known : recordOf "rack-a" [rackCalls false, rackCalls true] =
      some ⟨{ gpuIndices := some [0, 1], budgetWatts := some 700 },
        some { domainRef := "rack-a", brain := some "dpm" }⟩ := rfl
  have only : ∀ policy, DomainCall.powerPolicy policy ∈ [rackCalls false, rackCalls true] →
      policy = { domainRef := "rack-a", brain := some "dpm" } := by
    intro policy member
    rcases List.mem_pair.mp member with same | same
    · cases same
    · cases same
      rfl
  have starts : (main rackCodec {} rackInputs ()).toOption.isSome = true := by decide +kernel
  obtain ⟨controller, found⟩ := Option.isSome_iff_exists.mp starts
  have started := ok_of_toOption found
  obtain ⟨cm, brain, _, mounted, works⟩ := admitted_policy_starts rackCodec _ known
    (fun policy member => by
      rw [only policy member]
      exact ⟨by decide +kernel, by decide +kernel, by decide +kernel⟩)
    (fun policy member => by
      rw [only policy member]
      exact rackParams_roundTrips) {} rackInputs () started
  obtain ⟨params, found, _, rate⟩ := works _ rfl
  exact ⟨controller, cm, brain, started, mounted, params, found, rate⟩

end Opendps.Controller
