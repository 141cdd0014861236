/-
**The raise limiter under brains that scale its caps down.**

The job brain scales all caps to the budget, the quota brain those of a tenant to its slice. PRS is not
told: it goes on measuring a raise from the cap it proposed, which the scaled one may be far below. The
quota brain also lets a tenant's brain wait while the tenant is active with other GPUs, and what it
remembers then is older still.

A cap is within the rate of the one returned before exactly when PRS asks for little, or the scaling of
the tick takes back what the remembered cap is above the returned one (`PrsInputs.DriftWithin`).
`scaled_raises_iff` is the equivalence along whole runs of both brains, for the GPUs without a job.
-/

import Opendps.Brain.CapRuns
import Opendps.Brain.JobBoost
import Opendps.Brain.TenantBrains

namespace Opendps.Brain

open Opendps.Lib Opendps.Pdn LoopState

/-! ### One cap -/

namespace PrsInputs

/-- After the scaling, what a GPU asks for or what the limiter allows it from the remembered cap is
within the rate of the cap returned before. -/
def DriftWithin (inputs : PrsInputs) (rate factor before : ℚ) (gpu : GpuIndex) : Prop :=
  inputs.asked gpu * factor ≤ before + rate ∨
    ((inputs.remembered.get? gpu).getD before + rate) * factor ≤ before + rate

theorem scaled_le_iff {inputs : PrsInputs} {rate factor before proposed : ℚ} {gpu : GpuIndex}
    (limited : 0 < rate) (sameRate : inputs.params.capRaiseRateWPerTick = rate) (nonneg : 0 ≤ factor)
    (inForce : inputs.state.gpuCaps.get? gpu = some before)
    (decided : inputs.caps.get? gpu = some proposed) :
    proposed * factor ≤ before + rate ↔ inputs.DriftWithin rate factor before gpu := by
  have base : inputs.base gpu = some ((inputs.remembered.get? gpu).getD before) := by
    rw [base, inForce]
    cases inputs.remembered.get? gpu with
    | none => rfl
    | some remembered => rfl
  rw [eq_cap_of_get?_caps decided, cap_eq_min (sameRate ▸ limited) base, sameRate,
    min_mul_of_nonneg _ _ nonneg, min_le_iff]
  exact .rfl

end PrsInputs

/-- No job runs on a GPU at any tick of a run. -/
def NeverBusy (ticks : List LoopTick) (gpu : GpuIndex) : Prop :=
  ∀ tick ∈ ticks, ¬ tick.around.isGpuBusy gpu

/-! ### The job brain -/

namespace JobAwarePRSBrain

/-- The job brain in the loop. -/
def call : DecideCall JobAwarePRSBrain := fun brain topology domainName state around =>
  brain.decide topology domainName state around.isGpuBusy

theorem budget_of_decide {self next : JobAwarePRSBrain} {topology : PDNTopology}
    {domainName : String} {state : DomainState} {isGpuBusy : GpuIndex → Bool}
    {decision : BrainDecision}
    (returned : self.decide topology domainName state isGpuBusy = .ok (decision, next)) :
    ∃ budget, topology.domainBudgetW domainName = .ok budget := by
  unfold JobAwarePRSBrain.decide at returned
  obtain ⟨⟨inner, prs⟩, innerCall, _⟩ := ok_of_bind returned
  exact PRSBrain.budget_of_decide innerCall

/-- The PRS brain has its parameters, and what was returned is in force. -/
structure Tracked (params : PRSParams) (loop : LoopState JobAwarePRSBrain) : Prop where
  params_eq : loop.brain.prs.params = params
  consistent : Consistent loop

theorem Tracked.step {params : PRSParams} {loop : LoopState JobAwarePRSBrain}
    (tracked : Tracked params loop) (tick : LoopTick) : Tracked params (loop.step call tick) := by
  refine ⟨?_, tracked.consistent.step tick⟩
  rcases step_cases call loop tick with same | ⟨decision, brain, ran, next⟩
  · rw [same]
    exact tracked.params_eq
  · obtain ⟨budget, answer⟩ := budget_of_decide ran
    rw [next]
    exact (decide_ok answer ran).2.2.1.trans tracked.params_eq

/-- Every cap of a GPU without a job is within the rate, once it has paid for the boost of the
others. -/
def PaybackWithinRate (covers : LoopTick → GpuIndex → Prop) (rate : ℚ)
    (loop : LoopState JobAwarePRSBrain) (tick : LoopTick) : Prop :=
  ∀ budget, tick.topology.domainBudgetW tick.domainName = .ok budget →
    let state := loop.observed tick
    let inner := loop.brain.prs.inputs budget tick.domainName state
    ∀ gpu ∈ tick.draws.keys, ∀ before, covers tick gpu →
      (ofDomain loop.returned tick.domainName).get? gpu = some before →
        inner.DriftWithin rate (loop.brain.payback budget state tick.around.isGpuBusy inner.caps)
          before gpu

theorem payback_nonneg (self : JobAwarePRSBrain) {budget : ℚ} (powered : 0 ≤ budget)
    (state : DomainState) (isGpuBusy : GpuIndex → Bool) (caps : Dict GpuIndex ℚ) :
    0 ≤ self.payback budget state isGpuBusy caps := by
  unfold payback
  split
  · exact zero_le_one
  · exact PriorityTieredPRSBrain.scaleFactor_nonneg powered

/-- A GPU without a job gets its proposed cap, scaled. -/
theorem get?_of_free {self next : JobAwarePRSBrain} {topology : PDNTopology} {domainName : String}
    {state : DomainState} {isGpuBusy : GpuIndex → Bool} {decision : BrainDecision} {budget : ℚ}
    (answer : topology.domainBudgetW domainName = .ok budget)
    (ran : self.decide topology domainName state isGpuBusy = .ok (decision, next)) {gpu : GpuIndex}
    (free : ¬ isGpuBusy gpu) :
    decision.caps.get? gpu = ((self.prs.inputs budget domainName state).caps.get? gpu).map
      (· * self.payback budget state isGpuBusy (self.prs.inputs budget domainName state).caps) := by
  rw [(decide_ok answer ran).1, self.prs.caps_inputs]
  refine congrArg (Option.map · _) (funext fun proposed => ?_)
  rw [raisedCap, if_neg free]

/-- **One tick of the job brain.** What PRS proposes is limited from the remembered cap, and the scaling
decides whether that is within the rate of the returned one. -/
theorem risesWithin_iff {params : PRSParams} (limited : 0 < params.capRaiseRateWPerTick)
    {covers : LoopTick → GpuIndex → Prop} {loop : LoopState JobAwarePRSBrain}
    (tracked : Tracked params loop) {tick : LoopTick}
    (free : ∀ gpu, covers tick gpu → ¬ tick.around.isGpuBusy gpu) :
    RisesWithin call covers params.capRaiseRateWPerTick loop tick ↔
      PaybackWithinRate covers params.capRaiseRateWPerTick loop tick := by
  have inForce : ∀ gpu before, (ofDomain loop.returned tick.domainName).get? gpu = some before →
      (loop.observed tick).gpuCaps.get? gpu = some before :=
    fun gpu before returned => tracked.consistent tick.domainName gpu before returned
  have sameRate : loop.brain.prs.params.capRaiseRateWPerTick = params.capRaiseRateWPerTick :=
    congrArg _ tracked.params_eq
  constructor
  · intro rises budget answer state inner gpu drawn before covered returned
    obtain ⟨decision, next, ran⟩ := loop.brain.decide_isOk state tick.around.isGpuBusy answer
    obtain ⟨proposed, decided⟩ := Dict.mem_keys_iff.mp
      (PrsInputs.mem_keys_caps.mpr (show gpu ∈ inner.gpus from drawn))
    have after := get?_of_free answer ran (free gpu covered)
    rw [decided, Option.map_some] at after
    have nonneg := loop.brain.payback_nonneg (PDNTopology.domainBudgetW_nonneg answer) state
      tick.around.isGpuBusy inner.caps
    exact (PrsInputs.scaled_le_iff limited sameRate nonneg (inForce gpu before returned) decided).mp
      (rises decision next ran gpu before _ covered returned after)
  · intro pays decision next ran gpu before after covered returned found
    obtain ⟨budget, answer⟩ := budget_of_decide ran
    rw [get?_of_free answer ran (free gpu covered), Option.map_eq_some_iff] at found
    obtain ⟨proposed, decided, rfl⟩ := found
    have drawn : gpu ∈ tick.draws.keys :=
      PrsInputs.mem_keys_caps.mp (Dict.mem_keys_iff.mpr ⟨proposed, decided⟩)
    have nonneg := loop.brain.payback_nonneg (PDNTopology.domainBudgetW_nonneg answer)
      (loop.observed tick) tick.around.isGpuBusy
      (loop.brain.prs.inputs budget tick.domainName (loop.observed tick)).caps
    exact (PrsInputs.scaled_le_iff limited sameRate nonneg (inForce gpu before returned) decided).mpr
      (pays budget answer gpu drawn before covered returned)

end JobAwarePRSBrain

/-! ### The quota brain -/

namespace QuotaAwarePRSBrain

/-- The quota brain in the loop. -/
def call : DecideCall QuotaAwarePRSBrain := fun brain topology domainName state around =>
  brain.decide topology domainName state around.now

/-- A tenant of the domain owns the GPU, so that a PRS brain decides on it. -/
def Manages (quota : QuotaConfig) (domainName : String) (gpu : GpuIndex) : Prop :=
  ∃ tenant ∈ quota.tenants, tenant.domainName = domainName ∧ gpu ∈ tenant.gpuIndices

/-- What the caps of a tenant are multiplied by. -/
def sliceFactor (tenantBudget : ℚ) (caps : Dict GpuIndex ℚ) : ℚ :=
  if 0 < tenantBudget ∧ tenantBudget < caps.values.sum then tenantBudget / caps.values.sum else 1

theorem sliceFactor_nonneg (tenantBudget : ℚ) (caps : Dict GpuIndex ℚ) :
    0 ≤ sliceFactor tenantBudget caps := by
  unfold sliceFactor
  split
  · next exceeds => exact div_nonneg exceeds.1.le (exceeds.1.trans exceeds.2).le
  · exact zero_le_one

theorem get?_renormalise (tenantBudget : ℚ) (caps : Dict GpuIndex ℚ) (gpu : GpuIndex) :
    (renormalise tenantBudget caps).get? gpu =
      (caps.get? gpu).map (· * sliceFactor tenantBudget caps) := by
  simp only [renormalise, sliceFactor]
  split
  · rw [Dict.get?_mapVals]
  · simp

/-- The quota brain is as it was built, apart from its cache, and what was returned is in force. -/
structure Tracked (brain₀ : QuotaAwarePRSBrain) (loop : LoopState QuotaAwarePRSBrain) : Prop where
  kept : Kept brain₀ loop.brain
  consistent : Consistent loop

theorem Tracked.step {brain₀ : QuotaAwarePRSBrain} {loop : LoopState QuotaAwarePRSBrain}
    (tracked : Tracked brain₀ loop) (tick : LoopTick) : Tracked brain₀ (loop.step call tick) := by
  refine ⟨?_, tracked.consistent.step tick⟩
  rcases LoopState.step_cases call loop tick with same | ⟨decision, brain, ran, next⟩
  · rw [same]
    exact tracked.kept
  · rw [next]
    exact tracked.kept.decide ran

/-- What the brain of a tenant finds at a tick. -/
def tenantInputs (self : QuotaAwarePRSBrain) (domainName : String) (subBudget : ℚ)
    (state : DomainState) (tenant : TenantQuota) : PrsInputs :=
  (self.slotBrain tenant (activeGpus state tenant)).inputs subBudget
    (subDomainName domainName tenant.tenantId)
    (subState domainName state tenant (activeGpus state tenant))

theorem caps_tenantInputs (self : QuotaAwarePRSBrain) (domainName : String) (subBudget : ℚ)
    (state : DomainState) (tenant : TenantQuota) :
    (self.tenantInputs domainName subBudget state tenant).caps =
      (self.tenantTick domainName subBudget state tenant).caps :=
  (self.slotBrain tenant (activeGpus state tenant)).caps_inputs ..

/-- Every cap of a tenant's active GPU is within the rate once the tenant is scaled to its slice. -/
def SlicesWithinRate (covers : LoopTick → GpuIndex → Prop) (rate : ℚ)
    (loop : LoopState QuotaAwarePRSBrain) (tick : LoopTick) : Prop :=
  ∀ found, tick.topology.domain tick.domainName = .ok found →
    ∀ tenant ∈ loop.brain.quota.tenants, tenant.domainName = tick.domainName →
      let state := loop.observed tick
      ∀ subBudget, (loop.brain.tenantBrain tick.domainName found.budgetW state
          tenant).topology.domainBudgetW (subDomainName tick.domainName tenant.tenantId) =
            .ok subBudget →
        let inner := loop.brain.tenantInputs tick.domainName subBudget state tenant
        ∀ gpu ∈ activeGpus state tenant, ∀ before, covers tick gpu →
          (ofDomain loop.returned tick.domainName).get? gpu = some before →
            inner.DriftWithin rate
              (sliceFactor (QuotaConfig.tenantBudgetW tenant found.budgetW) inner.caps) before gpu

theorem mem_caps_tenantInputs {self : QuotaAwarePRSBrain} {domainName : String} {subBudget : ℚ}
    {state : DomainState} {tenant : TenantQuota} {gpu : GpuIndex} :
    gpu ∈ (self.tenantInputs domainName subBudget state tenant).caps.keys ↔
      gpu ∈ activeGpus state tenant := by
  rw [PrsInputs.mem_keys_caps]
  exact Dict.mem_keys_ofKeys

/-- What the brain of a tenant proposes is limited from the cap it remembers, or from the one in
force. -/
theorem Tracked.scaled_le_iff {brain₀ : QuotaAwarePRSBrain} {loop : LoopState QuotaAwarePRSBrain}
    (tracked : Tracked brain₀ loop) (limited : 0 < brain₀.prsParams.capRaiseRateWPerTick)
    {tick : LoopTick} {tenant : TenantQuota} (member : tenant ∈ loop.brain.quota.tenants)
    {subBudget factor before proposed : ℚ} (nonneg : 0 ≤ factor) {gpu : GpuIndex}
    (active : gpu ∈ activeGpus (loop.observed tick) tenant)
    (returned : (ofDomain loop.returned tick.domainName).get? gpu = some before)
    (decided : (loop.brain.tenantInputs tick.domainName subBudget (loop.observed tick)
      tenant).caps.get? gpu = some proposed) :
    proposed * factor ≤ before + brain₀.prsParams.capRaiseRateWPerTick ↔
      (loop.brain.tenantInputs tick.domainName subBudget (loop.observed tick) tenant).DriftWithin
        brain₀.prsParams.capRaiseRateWPerTick factor before gpu := by
  have sameParams := tracked.kept.slotParams tenant (tracked.kept.quota ▸ member) _
    (List.ne_nil_of_mem active) fun gpu listed => mem_activeGpus listed
  have inForce : (loop.observed tick).gpuCaps.get? gpu = some before :=
    tracked.consistent tick.domainName gpu before returned
  refine PrsInputs.scaled_le_iff limited (congrArg _ sameParams) nonneg ?_ decided
  refine (Dict.get?_ofKeys_of_mem _ active).trans ?_
  rw [Dict.getD_of_some inForce]

/-- **One tick of the quota brain.** A cached brain proposes from what it remembers of its own last
tick, and the scaling to the slice decides. -/
theorem risesWithin_iff {brain₀ : QuotaAwarePRSBrain}
    (limited : 0 < brain₀.prsParams.capRaiseRateWPerTick) {covers : LoopTick → GpuIndex → Prop}
    {loop : LoopState QuotaAwarePRSBrain} (tracked : Tracked brain₀ loop) {tick : LoopTick}
    (managed : ∀ gpu, covers tick gpu → Manages brain₀.quota tick.domainName gpu) :
    RisesWithin call covers brain₀.prsParams.capRaiseRateWPerTick loop tick ↔
      SlicesWithinRate covers brain₀.prsParams.capRaiseRateWPerTick loop tick := by
  have quota := tracked.kept.quota
  have cacheOk : CacheOk loop.brain.quota.domainName loop.brain.tenantBrains :=
    quota ▸ tracked.kept.cacheOk
  constructor
  · intro rises found present tenant member here state subBudget budget inner gpu active before
      covered returned
    obtain ⟨_, _, _, ran⟩ := loop.brain.decide_eq_walk state tick.around.now cacheOk present
    rcases decide_tenant_cases cacheOk present ran member with
      ⟨idle, _⟩ | ⟨again, _, _, _, sameBudget, _, caps, _⟩
    · exact absurd here (idle.resolve_right (List.ne_nil_of_mem active))
    cases budget.symm.trans sameBudget
    obtain ⟨proposed, decided⟩ := Dict.mem_keys_iff.mp
      (mem_caps_tenantInputs.mpr (show gpu ∈ activeGpus state tenant from active))
    have after := caps gpu (mem_activeGpus active)
    rw [← caps_tenantInputs, get?_renormalise, decided, Option.map_some] at after
    exact (tracked.scaled_le_iff limited member (sliceFactor_nonneg _ _) active returned decided).mp
      (rises _ _ ran gpu before _ covered returned after)
  · intro fits decision next ran gpu before after covered returned decided
    obtain ⟨found, present⟩ := domain_of_decide ran
    obtain ⟨tenant, member, here, listed⟩ := managed gpu covered
    rw [← quota] at member
    rcases decide_tenant_cases cacheOk present ran member with
      ⟨_, uncapped, _⟩ | ⟨subBudget, _, _, _, budget, _, caps, _⟩
    · cases decided.symm.trans (uncapped here gpu listed)
    rw [caps gpu listed, ← caps_tenantInputs, get?_renormalise, Option.map_eq_some_iff] at decided
    obtain ⟨proposed, stored, rfl⟩ := decided
    have active := mem_caps_tenantInputs.mp (Dict.mem_keys_iff.mpr ⟨proposed, stored⟩)
    exact (tracked.scaled_le_iff limited member (sliceFactor_nonneg _ _) active returned stored).mpr
      (fits found present tenant member here subBudget budget gpu active before covered returned)

end QuotaAwarePRSBrain

/-! ### Whole runs -/

/-- **The raise limiter under scaling brains, exactly.** For a job brain on a new PRS brain and a quota
brain with a fresh cache, with a positive rate, along every run in which each reported cap is the one
returned before (or was found in force at the start): no cap of a GPU that a PRS brain decides on and
that never has a job rises by more than the rate above the one returned before if and only if, at every
tick, the scaling takes back what the remembered cap is above the returned one, or little is asked
for. -/
theorem scaled_raises_iff {params : PRSParams} (limited : 0 < params.capRaiseRateWPerTick)
    {job : JobAwarePRSBrain} (jobFresh : job.prs = { params := params })
    {quota : QuotaAwarePRSBrain} (quotaFresh : quota.tenantBrains = .empty)
    (quotaParams : quota.prsParams = params) (inForce : Dict String (Dict GpuIndex ℚ))
    (ticks : List LoopTick) :
    (Along (step JobAwarePRSBrain.call) (start job inForce)
        (fun _ => RisesWithin JobAwarePRSBrain.call (fun _ => NeverBusy ticks)
          params.capRaiseRateWPerTick) ticks ↔
      Along (step JobAwarePRSBrain.call) (start job inForce)
        (fun _ => JobAwarePRSBrain.PaybackWithinRate (fun _ => NeverBusy ticks)
          params.capRaiseRateWPerTick) ticks) ∧
    (Along (step QuotaAwarePRSBrain.call) (start quota inForce)
        (fun _ => RisesWithin QuotaAwarePRSBrain.call
          (fun tick gpu => NeverBusy ticks gpu ∧
            QuotaAwarePRSBrain.Manages quota.quota tick.domainName gpu)
          params.capRaiseRateWPerTick) ticks ↔
      Along (step QuotaAwarePRSBrain.call) (start quota inForce)
        (fun _ => QuotaAwarePRSBrain.SlicesWithinRate
          (fun tick gpu => NeverBusy ticks gpu ∧
            QuotaAwarePRSBrain.Manages quota.quota tick.domainName gpu)
          params.capRaiseRateWPerTick) ticks) := by
  constructor
  · have tracked : JobAwarePRSBrain.Tracked params (start job inForce) :=
      ⟨congrArg PRSBrain.params jobFresh, .start job inForce⟩
    refine along_congr_of_invariant (fun _ => JobAwarePRSBrain.Tracked params) tracked
      (fun _ tick _ tracked => tracked.step tick) fun _ tick _ member tracked => ?_
    exact JobAwarePRSBrain.risesWithin_iff limited tracked fun gpu never => never tick member
  · subst quotaParams
    have tracked : QuotaAwarePRSBrain.Tracked quota (start quota inForce) :=
      ⟨.start quotaFresh, .start quota inForce⟩
    refine along_congr_of_invariant (fun _ => QuotaAwarePRSBrain.Tracked quota) tracked
      (fun _ tick _ tracked => tracked.step tick) fun _ tick _ _ tracked => ?_
    exact QuotaAwarePRSBrain.risesWithin_iff limited tracked fun gpu covered => covered.2

/-! ### Two remembered caps that are out of date

Both brains may raise a cap by 50 W a tick, and no job ever runs on GPU 0. Under the job brain it pays
for the boost of GPU 1 at the first tick and is alone at the second. Under the quota brain GPU 1 reports
no maximum at the second of three ticks, when GPU 0 idles. -/

/-- A tick of `domain-0`; the job, if any, runs on GPU 1. -/
def driftTick (topology : PDNTopology) (draws maxCaps : Dict GpuIndex ℚ) (job : Bool) : LoopTick where
  topology := topology
  domainName := "domain-0"
  draws := draws
  maxCaps := maxCaps
  ts := 0
  flags := .empty
  around := { now := 0, isGpuBusy := fun gpu => job && gpu == 1 }

def limitedJob : JobAwarePRSBrain where
  prs := { params := limitedParams }
  boost := 15 / 100
  boost_nonneg := defaultPart_nonneg

def limitedQuota : QuotaAwarePRSBrain where
  quota := QuotaAwarePRSBrain.sharedBrain.quota
  validated := QuotaAwarePRSBrain.sharedBrain.validated
  prsParams := limitedParams

def boostedTick : LoopTick :=
  driftTick skewedTopology (.ofList [(0, 475), (1, 475)]) (.ofList [(0, 600), (1, 600)]) true

def aloneTick : LoopTick :=
  driftTick skewedTopology (.ofList [(0, 475)]) (.ofList [(0, 600), (1, 600)]) false

def sliceTick : LoopTick :=
  driftTick QuotaAwarePRSBrain.sharedTopology (.ofList [(0, 900), (1, 50)])
    (.ofList [(0, 1000), (1, 1000)]) false

def gapInSlice : LoopTick :=
  driftTick QuotaAwarePRSBrain.sharedTopology (.ofList [(0, 50), (1, 50)]) (.ofList [(0, 1000)]) false

/-- The caps found in force. -/
def cappedAt (watts : ℚ) : Dict String (Dict GpuIndex ℚ) :=
  .ofList [("domain-0", .ofList [(0, watts), (1, watts)])]

/-- The job brain takes GPU 0 from 465 W to 550 W, the quota brain from 200 W to 800 W. -/
theorem scaled_raises_exceed_rate :
    (¬ Along (step JobAwarePRSBrain.call) (start limitedJob (cappedAt 500))
      (fun _ => RisesWithin JobAwarePRSBrain.call
        (fun _ => NeverBusy ([boostedTick] ++ [aloneTick])) limitedParams.capRaiseRateWPerTick)
      ([boostedTick] ++ [aloneTick])) ∧
    ¬ Along (step QuotaAwarePRSBrain.call) (start limitedQuota (cappedAt 1000))
      (fun _ => RisesWithin QuotaAwarePRSBrain.call
        (fun tick gpu => NeverBusy ([sliceTick, gapInSlice] ++ [sliceTick]) gpu ∧
          QuotaAwarePRSBrain.Manages limitedQuota.quota tick.domainName gpu)
        limitedParams.capRaiseRateWPerTick)
      ([sliceTick, gapInSlice] ++ [sliceTick]) := by
  constructor
  · have never : NeverBusy ([boostedTick] ++ [aloneTick]) 0 := by
      unfold NeverBusy
      decide
    exact not_along_of_last 0 (20000 / 43) 550 never (by decide +kernel)
      (by decide +kernel) (by decide +kernel)
  · have never : NeverBusy ([sliceTick, gapInSlice] ++ [sliceTick]) 0 := by
      unfold NeverBusy
      decide
    exact not_along_of_last 0 200 800
      ⟨never, QuotaAwarePRSBrain.quarterTenant, .head _, rfl, by decide⟩ (by decide +kernel)
      (by decide +kernel) (by decide +kernel)

/-- The equivalences for these ticks. -/
theorem scaled_raises_iff_drift :
    (Along (step JobAwarePRSBrain.call) (start limitedJob (cappedAt 500))
        (fun _ => RisesWithin JobAwarePRSBrain.call (fun _ => NeverBusy [boostedTick, aloneTick])
          limitedParams.capRaiseRateWPerTick) [boostedTick, aloneTick] ↔
      Along (step JobAwarePRSBrain.call) (start limitedJob (cappedAt 500))
        (fun _ => JobAwarePRSBrain.PaybackWithinRate
          (fun _ => NeverBusy [boostedTick, aloneTick]) limitedParams.capRaiseRateWPerTick)
        [boostedTick, aloneTick]) ∧
    (Along (step QuotaAwarePRSBrain.call) (start limitedQuota (cappedAt 500))
        (fun _ => RisesWithin QuotaAwarePRSBrain.call
          (fun tick gpu => NeverBusy [boostedTick, aloneTick] gpu ∧
            QuotaAwarePRSBrain.Manages limitedQuota.quota tick.domainName gpu)
          limitedParams.capRaiseRateWPerTick) [boostedTick, aloneTick] ↔
      Along (step QuotaAwarePRSBrain.call) (start limitedQuota (cappedAt 500))
        (fun _ => QuotaAwarePRSBrain.SlicesWithinRate
          (fun tick gpu => NeverBusy [boostedTick, aloneTick] gpu ∧
            QuotaAwarePRSBrain.Manages limitedQuota.quota tick.domainName gpu)
          limitedParams.capRaiseRateWPerTick) [boostedTick, aloneTick]) := by
  have limited : 0 < limitedParams.capRaiseRateWPerTick := by norm_num [limitedParams]
  have jobFresh : limitedJob.prs = { params := limitedParams } := rfl
  have quotaFresh : limitedQuota.tenantBrains = .empty := rfl
  have quotaParams : limitedQuota.prsParams = limitedParams := rfl
  exact scaled_raises_iff limited jobFresh quotaFresh quotaParams (cappedAt 500)
    [boostedTick, aloneTick]

end Opendps.Brain
