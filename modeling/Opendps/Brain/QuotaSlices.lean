/-
**The slices of the quota-aware brain: hard ceilings, and no way from one into another.**

A round of the walk over the tenants touches the caps and the cached brains of one tenant only
(`tenantStep_frame`), and what it does to them is a function of that tenant's telemetry and of its
own cached brains (`tenantStep_congr`). Two facts about whole histories follow.

* `slices_are_ceilings`: after any history, the caps of each tenant fit its slice of `budget_w`, and
  no GPU of a tenant is in the pool the rest of the budget is shared among.
* `slices_isolated`: two histories that agree on the telemetry of a tenant's GPUs decide the same
  caps for them at every tick. Tenants may share a `tenant_id`: their cached brains are told apart by
  the GPUs in the key, which are disjoint and never empty.
-/

import Opendps.Brain.QuotaPrs
import Mathlib.Algebra.BigOperators.Group.Finset.Basic

namespace Opendps.Brain

open Opendps.Lib Opendps.Pdn

namespace QuotaAwarePRSBrain

/-! ### One round, inverted -/

/-- The GPUs of a tenant that get a cap: those with both a draw and a maximum. -/
def activeGpus (state : DomainState) (tenant : TenantQuota) : List GpuIndex :=
  (tenant.gpuIndices.filter fun gpu => state.gpuDraws.contains gpu).filter fun gpu =>
    state.gpuMaxCaps.contains gpu

/-- The brain a tenant's round runs: the cached one, or a new one on the tenant's slice. -/
def brainFor (params : PRSParams) (domainName : String) (budget : ℚ) (state : DomainState)
    (pass : QuotaPass) (tenant : TenantQuota) : TenantBrain :=
  (pass.tenantBrains.get? (tenant.tenantId, activeGpus state tenant)).getD
    { topology := subTopology domainName tenant (activeGpus state tenant)
        (QuotaConfig.tenantBudgetW tenant budget)
      brain := { params := params } }

theorem mem_activeGpus {state : DomainState} {tenant : TenantQuota} {gpu : GpuIndex}
    (active : gpu ∈ activeGpus state tenant) : gpu ∈ tenant.gpuIndices :=
  (List.mem_filter.mp (List.mem_filter.mp active).1).1

/-- **What a round can do**: nothing to the caps and the cache, or one run of the tenant's brain,
whose caps and next state it records. -/
theorem tenantStep_cases {params : PRSParams} {domainName : String} {budget : ℚ}
    {state : DomainState} {pass next : QuotaPass} {tenant : TenantQuota}
    (ran : tenantStep params domainName budget state pass tenant = .ok next) :
    ((tenant.domainName ≠ domainName ∨ activeGpus state tenant = []) ∧
        next.allCaps = pass.allCaps ∧ next.tenantBrains = pass.tenantBrains) ∨
      ∃ decision brain,
        (tenant.domainName = domainName ∧ activeGpus state tenant ≠ []) ∧
        (brainFor params domainName budget state pass tenant).brain.decide
          (brainFor params domainName budget state pass tenant).topology
          (subDomainName domainName tenant.tenantId)
          (subState domainName state tenant (activeGpus state tenant)) = .ok (decision, brain) ∧
        next.allCaps = pass.allCaps.update
          (renormalise (QuotaConfig.tenantBudgetW tenant budget) decision.caps) ∧
        next.tenantBrains = pass.tenantBrains.set (tenant.tenantId, activeGpus state tenant)
          { brainFor params domainName budget state pass tenant with brain := brain } := by
  rw [tenantStep_eq] at ran
  by_cases elsewhere : tenant.domainName ≠ domainName
  · rw [if_pos elsewhere] at ran
    cases ran
    exact .inl ⟨.inl elsewhere, rfl, rfl⟩
  rw [if_neg elsewhere] at ran
  simp only at ran
  by_cases idle : activeGpus state tenant = []
  · rw [if_pos (show List.filter _ (List.filter _ tenant.gpuIndices) = [] from idle)] at ran
    cases ran
    exact .inl ⟨.inr idle, rfl, rfl⟩
  rw [if_neg (show ¬ List.filter _ (List.filter _ tenant.gpuIndices) = [] from idle)] at ran
  split at ran
  · cases ran
  · next decision brain call =>
    cases ran
    exact .inr ⟨decision, brain, ⟨not_not.mp elsewhere, idle⟩, call, rfl, rfl⟩

/-! ### What one tenant can see of a walk -/

/-- Two passes that a tenant cannot tell apart: its GPUs have the same caps, and every brain it may
run is the same. -/
structure SameSlice (tenant : TenantQuota) (first second : QuotaPass) : Prop where
  caps : ∀ gpu ∈ tenant.gpuIndices, first.allCaps.get? gpu = second.allCaps.get? gpu
  brains : ∀ gpus, gpus ≠ [] → (∀ gpu ∈ gpus, gpu ∈ tenant.gpuIndices) →
    first.tenantBrains.get? (tenant.tenantId, gpus) =
      second.tenantBrains.get? (tenant.tenantId, gpus)

namespace SameSlice

variable {tenant : TenantQuota} {first second third : QuotaPass}

theorem refl (tenant : TenantQuota) (pass : QuotaPass) : SameSlice tenant pass pass :=
  ⟨fun _ _ => rfl, fun _ _ _ => rfl⟩

theorem symm (same : SameSlice tenant first second) : SameSlice tenant second first :=
  ⟨fun gpu listed => (same.caps gpu listed).symm,
    fun gpus some inside => (same.brains gpus some inside).symm⟩

theorem trans (same : SameSlice tenant first second) (next : SameSlice tenant second third) :
    SameSlice tenant first third :=
  ⟨fun gpu listed => (same.caps gpu listed).trans (next.caps gpu listed),
    fun gpus some inside => (same.brains gpus some inside).trans (next.brains gpus some inside)⟩

end SameSlice

/-- Two states with the same telemetry of the given GPUs, values and presence. -/
structure AgreeOn (gpus : List GpuIndex) (first second : DomainState) : Prop where
  draws : ∀ gpu ∈ gpus, first.gpuDraws.get? gpu = second.gpuDraws.get? gpu
  caps : ∀ gpu ∈ gpus, first.gpuCaps.get? gpu = second.gpuCaps.get? gpu
  maxCaps : ∀ gpu ∈ gpus, first.gpuMaxCaps.get? gpu = second.gpuMaxCaps.get? gpu

/-- The keys of a decision's caps are GPUs of the state it was decided on. -/
theorem mem_keys_of_subState {brain next : PRSBrain} {topology : PDNTopology}
    {domainName subName : String} {state : DomainState} {tenant : TenantQuota}
    {gpus : List GpuIndex} {decision : BrainDecision}
    (call : brain.decide topology subName (subState domainName state tenant gpus) =
      .ok (decision, next)) {gpu : GpuIndex} (capped : gpu ∈ decision.caps.keys) : gpu ∈ gpus := by
  obtain ⟨budget, answer⟩ := PRSBrain.budget_of_decide call
  rw [(PRSBrain.decide_ok answer call).1, Tick.mem_keys_caps] at capped
  exact Dict.mem_keys_ofKeys.mp capped

/-- **The frame of a round**: a tenant with other GPUs notices nothing, even under the same id. -/
theorem tenantStep_frame {params : PRSParams} {domainName : String} {budget : ℚ}
    {state : DomainState} {pass next : QuotaPass} {tenant other : TenantQuota}
    (ran : tenantStep params domainName budget state pass other = .ok next)
    (apart : ∀ gpu ∈ tenant.gpuIndices, gpu ∉ other.gpuIndices) : SameSlice tenant pass next := by
  rcases tenantStep_cases ran with ⟨_, caps, brains⟩ | ⟨decision, brain, ⟨_, some⟩, call, caps, brains⟩
  · exact ⟨fun _ _ => by rw [caps], fun _ _ _ => by rw [brains]⟩
  refine ⟨fun gpu listed => ?_, fun gpus _ inside => ?_⟩
  · have uncapped : gpu ∉ (renormalise (QuotaConfig.tenantBudgetW other budget)
        decision.caps).keys := by
      rw [keys_renormalise]
      exact fun capped => apart gpu listed (mem_activeGpus (mem_keys_of_subState call capped))
    rw [caps, Dict.get?_update, Dict.get?_eq_none_iff.mpr uncapped, Option.none_or]
  · -- the cached brains differ in their GPUs, which are not empty and belong to one tenant only
    have different : (tenant.tenantId, gpus) ≠ (other.tenantId, activeGpus state other) := by
      intro same
      obtain ⟨gpu, active⟩ := List.exists_mem_of_ne_nil _ some
      have mine : gpus = activeGpus state other := (Prod.mk.inj same).2
      exact apart gpu (inside gpu (mine ▸ active)) (mem_activeGpus active)
    rw [brains, Dict.get?_set_of_ne _ _ different]

/-- A PRS decision does not depend on the time stamp, the name or the thermal flags of a state. -/
theorem decide_congr {brain firstNext secondNext : PRSBrain} {topology : PDNTopology}
    {domainName : String} {first second : DomainState} {firstDecision secondDecision : BrainDecision}
    (draws : first.gpuDraws = second.gpuDraws) (caps : first.gpuCaps = second.gpuCaps)
    (maxCaps : first.gpuMaxCaps = second.gpuMaxCaps)
    (firstCall : brain.decide topology domainName first = .ok (firstDecision, firstNext))
    (secondCall : brain.decide topology domainName second = .ok (secondDecision, secondNext)) :
    firstDecision.caps = secondDecision.caps ∧ firstNext = secondNext := by
  obtain ⟨_, firstDraws, firstCaps, _, firstMax, _⟩ := first
  obtain ⟨_, secondDraws, secondCaps, _, secondMax, _⟩ := second
  cases draws
  cases caps
  cases maxCaps
  obtain ⟨budget, answer⟩ := PRSBrain.budget_of_decide firstCall
  unfold PRSBrain.decide at firstCall secondCall
  rw [answer] at firstCall secondCall
  cases firstCall
  cases secondCall
  exact ⟨rfl, rfl⟩

theorem activeGpus_congr {first second : DomainState} {tenant : TenantQuota}
    (agree : AgreeOn tenant.gpuIndices first second) :
    activeGpus first tenant = activeGpus second tenant := by
  have drawn : tenant.gpuIndices.filter (fun gpu => first.gpuDraws.contains gpu) =
      tenant.gpuIndices.filter fun gpu => second.gpuDraws.contains gpu :=
    List.filter_congr fun gpu listed => by rw [Dict.contains, Dict.contains, agree.draws gpu listed]
  unfold activeGpus
  rw [drawn]
  refine List.filter_congr fun gpu present => ?_
  unfold Dict.contains
  rw [agree.maxCaps gpu (List.mem_filter.mp present).1]

/-- Telemetry that agrees on some GPUs gives a tenant the same sub-telemetry of them. -/
theorem subState_congr {first second : DomainState} {gpus : List GpuIndex}
    (agree : AgreeOn gpus first second) (domainName : String) (tenant : TenantQuota) :
    (subState domainName first tenant gpus).gpuDraws =
        (subState domainName second tenant gpus).gpuDraws ∧
      (subState domainName first tenant gpus).gpuCaps =
        (subState domainName second tenant gpus).gpuCaps ∧
      (subState domainName first tenant gpus).gpuMaxCaps =
        (subState domainName second tenant gpus).gpuMaxCaps := by
  refine ⟨congrArg Dict.ofList ?_, congrArg Dict.ofList ?_, congrArg Dict.ofList ?_⟩
  · exact List.map_congr_left fun gpu listed => by rw [Dict.getD_congr (agree.draws gpu listed)]
  · refine List.map_congr_left fun gpu listed => ?_
    rw [Dict.getD_congr (agree.maxCaps gpu listed), Dict.getD_congr (agree.caps gpu listed)]
  · exact List.map_congr_left fun gpu listed => by
      rw [Dict.getD_congr (agree.maxCaps gpu listed)]

/-- **A tenant's own round** gives the same caps and leaves the same brains on telemetry that agrees
on its GPUs, from passes it cannot tell apart. -/
theorem tenantStep_congr {params : PRSParams} {domainName : String} {budget : ℚ}
    {firstState secondState : DomainState} {first second firstNext secondNext : QuotaPass}
    {tenant : TenantQuota} (agree : AgreeOn tenant.gpuIndices firstState secondState)
    (same : SameSlice tenant first second)
    (firstRan : tenantStep params domainName budget firstState first tenant = .ok firstNext)
    (secondRan : tenantStep params domainName budget secondState second tenant = .ok secondNext) :
    SameSlice tenant firstNext secondNext := by
  have sameActive := activeGpus_congr agree
  rcases tenantStep_cases firstRan with
    ⟨firstIdle, firstCaps, firstBrains⟩ | ⟨_, _, firstBusy, firstCall, firstCaps, firstBrains⟩ <;>
  rcases tenantStep_cases secondRan with
    ⟨secondIdle, secondCaps, secondBrains⟩ | ⟨_, _, secondBusy, secondCall, secondCaps, secondBrains⟩
  · refine ⟨fun gpu listed => ?_, fun gpus some inside => ?_⟩
    · rw [firstCaps, secondCaps, same.caps gpu listed]
    · rw [firstBrains, secondBrains, same.brains gpus some inside]
  · rw [sameActive] at firstIdle
    exact (firstIdle.elim (· secondBusy.1) secondBusy.2).elim
  · rw [← sameActive] at secondIdle
    exact (secondIdle.elim (· firstBusy.1) firstBusy.2).elim
  · have sameBrain : brainFor params domainName budget firstState first tenant =
        brainFor params domainName budget secondState second tenant := by
      unfold brainFor
      rw [sameActive, same.brains _ secondBusy.2 fun gpu active => mem_activeGpus active]
    have agreeActive : AgreeOn (activeGpus secondState tenant) firstState secondState :=
      ⟨fun gpu active => agree.draws gpu (mem_activeGpus active),
        fun gpu active => agree.caps gpu (mem_activeGpus active),
        fun gpu active => agree.maxCaps gpu (mem_activeGpus active)⟩
    obtain ⟨draws, caps, maxCaps⟩ := subState_congr agreeActive domainName tenant
    rw [sameBrain, sameActive] at firstCall firstBrains
    obtain ⟨sameCaps, sameNext⟩ := decide_congr draws caps maxCaps firstCall secondCall
    refine ⟨fun gpu listed => ?_, fun gpus some inside => ?_⟩
    · rw [firstCaps, secondCaps, Dict.get?_update, Dict.get?_update, sameCaps, same.caps gpu listed]
    · rw [firstBrains, secondBrains, sameNext, Dict.get?_set, Dict.get?_set,
        same.brains gpus some inside]

/-- **A walk in two runs.** On telemetry that agrees on a tenant's GPUs, walks over the same tenants
from passes the tenant cannot tell apart end in such passes. -/
theorem walk_congr {params : PRSParams} {domainName : String} {budget : ℚ}
    {firstState secondState : DomainState} {first second firstFinal secondFinal : QuotaPass}
    {tenant : TenantQuota} {tenants : List TenantQuota}
    (apart : ∀ other ∈ tenants, tenant ≠ other → ∀ gpu ∈ tenant.gpuIndices, gpu ∉ other.gpuIndices)
    (agree : AgreeOn tenant.gpuIndices firstState secondState)
    (same : SameSlice tenant first second)
    (firstRan : tenants.foldlM (tenantStep params domainName budget firstState) first =
      .ok firstFinal)
    (secondRan : tenants.foldlM (tenantStep params domainName budget secondState) second =
      .ok secondFinal) :
    SameSlice tenant firstFinal secondFinal := by
  induction tenants generalizing first second with
  | nil =>
    cases firstRan
    cases secondRan
    exact same
  | cons other rest ih =>
    rw [List.foldlM_cons] at firstRan secondRan
    cases firstStep : tenantStep params domainName budget firstState first other with
    | error exc =>
      rw [firstStep] at firstRan
      cases firstRan
    | ok firstNext =>
    cases secondStep : tenantStep params domainName budget secondState second other with
    | error exc =>
      rw [secondStep] at secondRan
      cases secondRan
    | ok secondNext =>
    rw [firstStep] at firstRan
    rw [secondStep] at secondRan
    refine ih (fun another member => apart another (List.mem_cons_of_mem _ member)) ?_
      firstRan secondRan
    by_cases own : tenant = other
    · subst own
      exact tenantStep_congr agree same firstStep secondStep
    · have disjoint := apart other (by simp) own
      exact ((tenantStep_frame firstStep disjoint).symm.trans same).trans
        (tenantStep_frame secondStep disjoint)

/-! ### The pool of the GPUs no tenant owns -/

/-- The GPUs the rest of the budget is shared among. -/
def unassigned (state : DomainState) (pass : QuotaPass) : List GpuIndex :=
  state.gpuDraws.keys.filter fun gpu => Decidable.decide (gpu ∉ pass.assignedGpus)

/-- The equal part of a GPU in the pool. -/
def poolShare (budget : ℚ) (state : DomainState) (pass : QuotaPass) : ℚ :=
  max 0 (budget - pass.usedBudget) / ((unassigned state pass).length : ℕ)

/-- The cap of a GPU in the pool: its part, cut at its maximum when one is known. -/
def poolCap (budget : ℚ) (state : DomainState) (pass : QuotaPass) (gpu : GpuIndex) : ℚ :=
  min (poolShare budget state pass) (state.gpuMaxCaps.getD gpu (poolShare budget state pass))

/-- A state reports the tenant's GPUs at home: it is about the tenant's domain, or about a domain
none of these GPUs is in. -/
def AtHome (tenant : TenantQuota) (domainName : String) (state : DomainState) : Prop :=
  tenant.domainName = domainName ∨ ∀ gpu ∈ tenant.gpuIndices, gpu ∉ state.gpuDraws.keys

theorem unassigned_nodup (state : DomainState) (pass : QuotaPass) :
    (unassigned state pass).Nodup :=
  state.gpuDraws.keys_nodup.filter _

/-- Sharing the rest writes the caps of the pool over those of the walk. -/
theorem shareRest_eq (budget : ℚ) (state : DomainState) (pass : QuotaPass) :
    shareRest budget state pass =
      pass.allCaps.update (.ofKeys (unassigned state pass) (poolCap budget state pass)) := by
  rw [Dict.update, Dict.items_ofKeys (unassigned_nodup state pass)]
  by_cases none : unassigned state pass = []
  · have unshared : shareRest budget state pass = pass.allCaps := if_pos none
    rw [unshared, none]
    rfl
  · exact if_neg none

/-- The caps of a decision: those of the pool, and those of the walk for every other GPU. -/
theorem get?_shareRest (budget : ℚ) (state : DomainState) (pass : QuotaPass) (gpu : GpuIndex) :
    (shareRest budget state pass).get? gpu =
      if gpu ∈ unassigned state pass then some (poolCap budget state pass gpu)
      else pass.allCaps.get? gpu := by
  rw [shareRest_eq, Dict.get?_update, Dict.get?_ofKeys (unassigned_nodup state pass)]
  split
  · rfl
  · rfl

/-- A walk for another domain than the tenants' does nothing. -/
theorem walk_elsewhere {params : PRSParams} {domainName : String} {budget : ℚ}
    {state : DomainState} {tenants : List TenantQuota} (pass : QuotaPass)
    (elsewhere : ∀ tenant ∈ tenants, tenant.domainName ≠ domainName) :
    tenants.foldlM (tenantStep params domainName budget state) pass = .ok pass := by
  induction tenants with
  | nil => rfl
  | cons tenant rest ih =>
    have skipped : tenantStep params domainName budget state pass tenant = .ok pass :=
      if_pos (elsewhere tenant (by simp))
    rw [List.foldlM_cons, skipped]
    exact ih fun other member => elsewhere other (List.mem_cons_of_mem _ member)

/-- Every GPU with a draw that no tenant of the domain owns is in the pool. -/
theorem mem_unassigned {self : QuotaAwarePRSBrain} {domainName : String} {budget : ℚ}
    {state : DomainState} {pass : QuotaPass}
    (inv : PassInv self.quota.domainName domainName budget state self.quota.tenants pass)
    (ran : self.walk domainName budget state = .ok pass) {gpu : GpuIndex}
    (drawn : gpu ∈ state.gpuDraws.keys)
    (unowned : ∀ tenant ∈ self.quota.tenants,
      tenant.domainName = domainName → gpu ∉ tenant.gpuIndices) :
    gpu ∈ unassigned state pass := by
  have sameDomain := (QuotaConfig.valid_of_validate self.validated).sameDomain
  refine List.mem_filter.mpr ⟨drawn, decide_eq_true fun assigned => ?_⟩
  by_cases here : self.quota.domainName = domainName
  · obtain ⟨tenant, member, listed⟩ := inv.owned gpu assigned
    exact unowned tenant member ((sameDomain tenant member).trans here) listed
  · rw [walk, walk_elsewhere _ fun tenant member same =>
      here ((sameDomain tenant member).symm.trans same)] at ran
    cases ran
    cases assigned

/-- No GPU of a tenant is in the pool. -/
theorem not_mem_unassigned {home domainName : String} {budget : ℚ} {state : DomainState}
    {processed : List TenantQuota} {pass : QuotaPass} {tenant : TenantQuota}
    (inv : PassInv home domainName budget state processed pass) (member : tenant ∈ processed)
    (atHome : AtHome tenant domainName state) {gpu : GpuIndex} (listed : gpu ∈ tenant.gpuIndices) :
    gpu ∉ unassigned state pass := by
  intro pooled
  obtain ⟨drawn, free⟩ := List.mem_filter.mp pooled
  rcases atHome with here | unreported
  · exact of_decide_eq_true free (inv.reserved tenant member here gpu listed drawn)
  · exact unreported gpu listed drawn

/-! ### Every slice is a ceiling -/

/-- The watts some caps give the GPUs of a tenant. -/
def sliceTotal (tenant : TenantQuota) (caps : Dict GpuIndex ℚ) : ℚ :=
  (tenant.gpuIndices.dedup.map fun gpu => caps.getD gpu 0).sum

theorem sliceTotal_congr {tenant : TenantQuota} {first second : Dict GpuIndex ℚ}
    (same : ∀ gpu ∈ tenant.gpuIndices, first.get? gpu = second.get? gpu) :
    sliceTotal tenant first = sliceTotal tenant second := by
  unfold sliceTotal
  refine congrArg List.sum (List.map_congr_left fun gpu listed => ?_)
  exact Dict.getD_congr (same gpu (List.mem_dedup.mp listed)) 0

/-- Caps of the tenant's GPUs only add up to what the tenant gets. -/
theorem sliceTotal_eq_sum {tenant : TenantQuota} {caps : Dict GpuIndex ℚ}
    (inside : ∀ gpu ∈ caps.keys, gpu ∈ tenant.gpuIndices) :
    sliceTotal tenant caps = caps.values.sum := by
  have subset : caps.keys.toFinset ⊆ tenant.gpuIndices.dedup.toFinset := by
    intro gpu capped
    rw [List.mem_toFinset] at capped ⊢
    exact List.mem_dedup.mpr (inside gpu capped)
  rw [sliceTotal, caps.values_eq_map_getD 0, ← List.sum_toFinset _ (List.nodup_dedup _),
    ← List.sum_toFinset _ caps.keys_nodup]
  refine (Finset.sum_subset subset fun gpu _ uncapped => ?_).symm
  have none : caps.get? gpu = none :=
    Dict.get?_eq_none_iff.mpr fun capped => uncapped (List.mem_toFinset.mpr capped)
  exact Dict.getD_of_none none 0

/-- What holds of the slices after the tenants of a list are walked. -/
def SlicesFit (domainName : String) (budget : ℚ) (state : DomainState)
    (processed : List TenantQuota) (pass : QuotaPass) : Prop :=
  ∀ tenant ∈ processed,
    sliceTotal tenant pass.allCaps ≤ activePct domainName state tenant * budget

/-- One round adds a slice that fits and leaves the others as they are. -/
theorem SlicesFit.step {params : PRSParams} {home domainName : String} {budget : ℚ}
    {state : DomainState} {processed : List TenantQuota} {pass next : QuotaPass}
    {tenant : TenantQuota} (inv : PassInv home domainName budget state processed pass)
    (fits : SlicesFit domainName budget state processed pass)
    (sameDomain : tenant.domainName = home)
    (apart : ∀ other ∈ processed, ∀ gpu ∈ other.gpuIndices, gpu ∉ tenant.gpuIndices)
    (positive : 0 < budget)
    (ran : tenantStep params domainName budget state pass tenant = .ok next) :
    SlicesFit domainName budget state (processed ++ [tenant]) next := by
  intro other member
  rcases List.mem_append.mp member with before | last
  · have untouched := tenantStep_frame ran (apart other before)
    rw [← sliceTotal_congr untouched.caps]
    exact fits other before
  rw [List.mem_singleton.mp last]
  obtain ⟨again, caps, owned, same, _, allCaps, _, _, capsOwned, ownedListed, _, slice⟩ :=
    tenantStep_spec params domainName budget state sameDomain inv.cacheOk
  cases same.symm.trans ran
  have fresh : ∀ gpu ∈ tenant.gpuIndices, pass.allCaps.get? gpu = none := by
    refine fun gpu listed => Dict.get?_eq_none_iff.mpr fun capped => ?_
    obtain ⟨owner, inProcessed, theirs⟩ := inv.owned gpu (inv.capped gpu capped)
    exact apart owner inProcessed gpu theirs listed
  calc sliceTotal tenant next.allCaps
      = sliceTotal tenant caps := sliceTotal_congr fun gpu listed => by
        rw [allCaps, Dict.get?_update, fresh gpu listed, Option.or_none]
    _ = caps.values.sum :=
        sliceTotal_eq_sum fun gpu capped => ownedListed gpu (capsOwned gpu capped)
    _ ≤ activePct domainName state tenant * budget := slice positive

/-- After the walk every slice fits. -/
theorem SlicesFit.walk {params : PRSParams} {home domainName : String} {budget : ℚ}
    {state : DomainState} {tenants processed : List TenantQuota} {pass final : QuotaPass}
    (inv : PassInv home domainName budget state processed pass)
    (fits : SlicesFit domainName budget state processed pass)
    (sameDomain : ∀ tenant ∈ tenants, tenant.domainName = home)
    (disjoint : (processed ++ tenants).Pairwise fun first second =>
      ∀ gpu ∈ first.gpuIndices, gpu ∉ second.gpuIndices)
    (positive : 0 < budget)
    (ran : tenants.foldlM (tenantStep params domainName budget state) pass = .ok final) :
    SlicesFit domainName budget state (processed ++ tenants) final := by
  induction tenants generalizing processed pass with
  | nil =>
    cases ran
    rw [List.append_nil]
    exact fits
  | cons tenant rest ih =>
    have apart : ∀ other ∈ processed, ∀ gpu ∈ other.gpuIndices, gpu ∉ tenant.gpuIndices :=
      fun other member => (List.pairwise_append.mp disjoint).2.2 other member tenant (by simp)
    obtain ⟨next, step, nextInv⟩ := inv.step params (sameDomain tenant (by simp)) apart
    have regroup : processed ++ tenant :: rest = (processed ++ [tenant]) ++ rest := by simp
    rw [regroup] at disjoint ⊢
    rw [List.foldlM_cons, step] at ran
    exact ih nextInv (fits.step inv (sameDomain tenant (by simp)) apart positive step)
      (fun other member => sameDomain other (List.mem_cons_of_mem _ member)) disjoint ran

/-- **Tenant slices are hard ceilings.** After any history of budget adoptions, releases and
decisions, and on any telemetry, a decision for a domain with a positive `budget_w` gives each tenant
at most `max_watts_pct` of it and all GPUs together at most `max(1, Σ pct)` of it. No GPU of a tenant
is in the pool that shares the rest, its cap is the one of the walk; every other GPU with a draw gets
a cap of at most its hardware maximum when that is known. -/
theorem slices_are_ceilings {topology₀ topology : PDNTopology}
    {brain₀ brain : QuotaAwarePRSBrain} (run : QuotaRun topology₀ brain₀ topology brain)
    (fresh : brain₀.tenantBrains = .empty) {domainName : String} {found : PowerDomain}
    (present : topology.domain domainName = .ok found) (positive : 0 < found.budgetW)
    (state : DomainState) (now : ℚ) :
    ∃ decision next pass,
      brain.decide topology domainName state now = .ok (decision, next) ∧
      brain.walk domainName found.budgetW state = .ok pass ∧
      (∀ tenant ∈ brain.quota.tenants, AtHome tenant domainName state →
        sliceTotal tenant decision.caps ≤ tenant.maxWattsPct * found.budgetW) ∧
      decision.total ≤ found.budgetW * max 1 brain.quota.totalPct ∧
      (∀ tenant ∈ brain.quota.tenants, AtHome tenant domainName state →
        ∀ gpu ∈ tenant.gpuIndices, gpu ∉ unassigned state pass ∧
          decision.caps.get? gpu = pass.allCaps.get? gpu) ∧
      ∀ gpu ∈ state.gpuDraws.keys,
        (∀ tenant ∈ brain.quota.tenants, tenant.domainName = domainName →
          gpu ∉ tenant.gpuIndices) →
        ∃ cap, decision.caps.get? gpu = some cap ∧
          ∀ hwMax, state.gpuMaxCaps.get? gpu = some hwMax → cap ≤ hwMax := by
  obtain ⟨_, quota, cacheOk⟩ := run.kept (.of_fresh fresh)
  rw [← quota] at cacheOk
  have valid := QuotaConfig.valid_of_validate brain.validated
  obtain ⟨pass, ran, inv, call⟩ := brain.decide_eq_walk state now cacheOk present
  have fits : SlicesFit domainName found.budgetW state brain.quota.tenants pass :=
    SlicesFit.walk (.start brain.quota.domainName domainName found.budgetW state
      cacheOk) (fun tenant member => by cases member) valid.sameDomain (by simpa using valid.disjoint)
      positive ran
  have ownCaps : ∀ tenant ∈ brain.quota.tenants,
      AtHome tenant domainName state → ∀ gpu ∈ tenant.gpuIndices,
        gpu ∉ unassigned state pass ∧
        (shareRest found.budgetW state pass).get? gpu =
          pass.allCaps.get? gpu := by
    intro tenant member atHome gpu listed
    have unpooled := not_mem_unassigned inv member atHome listed
    rw [get?_shareRest, if_neg unpooled]
    exact ⟨unpooled, rfl⟩
  refine ⟨_, _, pass, call, ran, fun tenant member atHome => ?_, ?_, ownCaps, ?_⟩
  · calc sliceTotal tenant
          (shareRest found.budgetW state pass)
        = sliceTotal tenant pass.allCaps :=
          sliceTotal_congr fun gpu listed =>
            (ownCaps tenant member atHome gpu listed).2
      _ ≤ activePct domainName state tenant * found.budgetW :=
          fits tenant member
      _ ≤ tenant.maxWattsPct * found.budgetW := mul_le_mul_of_nonneg_right
          (activePct_le domainName state tenant) positive.le
  · exact (sum_shareRest_le inv positive).trans
      (brain.handedOut_le domainName positive state)
  · intro gpu drawn unowned
    have pooled := mem_unassigned inv ran drawn unowned
    refine ⟨poolCap found.budgetW state pass gpu, ?_, fun hwMax known => ?_⟩
    · rw [get?_shareRest, if_pos pooled]
    · unfold poolCap
      rw [Dict.getD_of_some known]
      exact min_le_right _ _

/-! ### Two tenants under one id

GPUs 0 and 1 belong to one tenant and GPU 2 to another of the same id; GPU 3 belongs to none. -/

def sharedTopology : PDNTopology where
  pdus := .ofList [("pdu-A", { name := "pdu-A", capacityW := 10000 })]
  domains := .ofList [("domain-0", { name := "domain-0", budgetW := 4000, gpuIndices := [0, 1, 2, 3],
                                     pduName := "pdu-A" })]

def quarterTenant : TenantQuota := ⟨"team", "domain-0", [0, 1], 1 / 4, by norm_num, by norm_num⟩

def halfTenant : TenantQuota := ⟨"team", "domain-0", [2], 1 / 2, by norm_num, by norm_num⟩

def sharedBrain : QuotaAwarePRSBrain where
  quota := { domainName := "domain-0", tenants := [quarterTenant, halfTenant] }
  validated := by decide +kernel
  prsParams := defaultParams

/-- Telemetry in which GPU 1 reports no maximum; the draws of GPUs 2 and 3 are open. -/
def partialState (secondDraw thirdDraw : ℚ) : DomainState where
  domainName := "domain-0"
  gpuDraws := .ofList [(0, 900), (1, 900), (2, secondDraw), (3, thirdDraw)]
  gpuCaps := .ofList [(0, 1000), (1, 1000), (2, 1000), (3, 1000)]
  gpuMaxCaps := .ofList [(0, 1200), (2, 1200), (3, 700)]
  ts := 0

/-- The ceilings of a first decision: 1000 W and 2000 W for the tenants, 700 W for GPU 3. -/
theorem slices_are_ceilings_shared :
    ∃ decision next,
      sharedBrain.decide sharedTopology "domain-0" (partialState 900 900) 0 = .ok (decision, next) ∧
      sliceTotal quarterTenant decision.caps ≤ 1 / 4 * 4000 ∧
      sliceTotal halfTenant decision.caps ≤ 1 / 2 * 4000 ∧
      decision.total ≤ 4000 * max 1 sharedBrain.quota.totalPct ∧
      ∃ cap, decision.caps.get? 3 = some cap ∧ cap ≤ 700 := by
  have present : sharedTopology.domain "domain-0" = .ok
      { name := "domain-0", budgetW := 4000, gpuIndices := [0, 1, 2, 3], pduName := "pdu-A" } := rfl
  obtain ⟨decision, next, pass, call, _, slices, total, _, rest⟩ :=
    slices_are_ceilings (@QuotaRun.init sharedTopology sharedBrain) rfl present (by norm_num)
      (partialState 900 900) 0
  refine ⟨decision, next, call, slices quarterTenant (.head _) (.inl rfl),
    slices halfTenant (.tail _ (.head _)) (.inl rfl), total, ?_⟩
  obtain ⟨cap, stored, within⟩ := rest 3 (by decide +kernel) (by decide +kernel)
  exact ⟨cap, stored, within 700 (by decide +kernel)⟩

/-! ### No way from one slice into another -/

/-- One call of a history. -/
structure QuotaCall where
  domainName : String
  state : DomainState
  now : ℚ

/-- A history of calls on one brain: what each call returns. A call that raises has touched
nothing, the only exception is for a domain the topology does not have. -/
def decideAll (topology : PDNTopology) :
    QuotaAwarePRSBrain → List QuotaCall → List (Except PyError BrainDecision)
  | _, [] => []
  | self, call :: rest =>
    match self.decide topology call.domainName call.state call.now with
    | .error exc => .error exc :: decideAll topology self rest
    | .ok (decision, next) => .ok decision :: decideAll topology next rest

/-- Two calls for the same domain with the same telemetry of a tenant's GPUs; all else may differ. -/
structure AgreeFor (tenant : TenantQuota) (first second : QuotaCall) : Prop where
  domainName : first.domainName = second.domainName
  atHome : AtHome tenant first.domainName first.state
  agree : AgreeOn tenant.gpuIndices first.state second.state

/-- The same outcome for a tenant: the same exception, or the same caps for its GPUs. -/
def SameFor (tenant : TenantQuota) :
    Except PyError BrainDecision → Except PyError BrainDecision → Prop
  | .ok first, .ok second => ∀ gpu ∈ tenant.gpuIndices, first.caps.get? gpu = second.caps.get? gpu
  | .error first, .error second => first = second
  | _, _ => False

/-- Two brains with the same quota and parameters that a tenant cannot tell apart. -/
structure SameBrain (tenant : TenantQuota) (first second : QuotaAwarePRSBrain) : Prop where
  quota : first.quota = second.quota
  params : first.prsParams = second.prsParams
  firstOk : CacheOk first.quota.domainName first.tenantBrains
  secondOk : CacheOk second.quota.domainName second.tenantBrains
  slice : SameSlice tenant { tenantBrains := first.tenantBrains }
    { tenantBrains := second.tenantBrains }

theorem AtHome.congr {tenant : TenantQuota} {domainName : String} {first second : DomainState}
    (atHome : AtHome tenant domainName first) (agree : AgreeOn tenant.gpuIndices first second) :
    AtHome tenant domainName second := by
  rcases atHome with here | unreported
  · exact .inl here
  · refine .inr fun gpu listed drawn => ?_
    have undrawn := Dict.get?_eq_none_iff.mpr (unreported gpu listed)
    rw [agree.draws gpu listed] at undrawn
    exact Dict.get?_eq_none_iff.mp undrawn drawn

/-- **One tick in two runs**: the same outcome for the tenant, and brains it cannot tell apart. -/
theorem SameBrain.step {tenant : TenantQuota} {first second : QuotaAwarePRSBrain}
    (same : SameBrain tenant first second) (member : tenant ∈ first.quota.tenants)
    {topology : PDNTopology} {domainName : String} {found : PowerDomain}
    (present : topology.domain domainName = .ok found) {firstState secondState : DomainState}
    (atHome : AtHome tenant domainName firstState)
    (agree : AgreeOn tenant.gpuIndices firstState secondState) (firstNow secondNow : ℚ) :
    ∃ firstDecision firstNext secondDecision secondNext,
      first.decide topology domainName firstState firstNow = .ok (firstDecision, firstNext) ∧
      second.decide topology domainName secondState secondNow = .ok (secondDecision, secondNext) ∧
      (∀ gpu ∈ tenant.gpuIndices, firstDecision.caps.get? gpu = secondDecision.caps.get? gpu) ∧
      SameBrain tenant firstNext secondNext ∧ firstNext.quota = first.quota := by
  obtain ⟨firstPass, firstRan, firstInv, firstCall⟩ :=
    first.decide_eq_walk firstState firstNow same.firstOk present
  obtain ⟨secondPass, secondRan, secondInv, secondCall⟩ :=
    second.decide_eq_walk secondState secondNow same.secondOk present
  have valid := QuotaConfig.valid_of_validate first.validated
  have sameRan : first.quota.tenants.foldlM
      (tenantStep first.prsParams domainName found.budgetW secondState)
      { tenantBrains := second.tenantBrains } = .ok secondPass := by
    rw [same.quota, same.params]
    exact secondRan
  have sameSlice : SameSlice tenant firstPass secondPass :=
    walk_congr (fun _ inQuota different => valid.apart member inQuota different) agree same.slice
      firstRan sameRan
  refine ⟨_, _, _, _, firstCall, secondCall, fun gpu listed => ?_,
    ⟨same.quota, same.params, firstInv.cacheOk, secondInv.cacheOk, ?_⟩, rfl⟩
  · have firstOut := not_mem_unassigned firstInv member atHome listed
    have secondOut := not_mem_unassigned secondInv (same.quota ▸ member) (atHome.congr agree) listed
    show (shareRest found.budgetW firstState firstPass).get? gpu =
      (shareRest found.budgetW secondState secondPass).get? gpu
    rw [get?_shareRest, get?_shareRest, if_neg firstOut, if_neg secondOut]
    exact sameSlice.caps gpu listed
  · exact ⟨fun _ _ => rfl, sameSlice.brains⟩

/-- Two runs from brains a tenant cannot tell apart, over calls that agree for it. -/
theorem SameBrain.run {tenant : TenantQuota} {first second : QuotaAwarePRSBrain}
    (same : SameBrain tenant first second) (member : tenant ∈ first.quota.tenants)
    (topology : PDNTopology) {firstCalls secondCalls : List QuotaCall}
    (agree : List.Forall₂ (AgreeFor tenant) firstCalls secondCalls) :
    List.Forall₂ (SameFor tenant) (decideAll topology first firstCalls)
      (decideAll topology second secondCalls) := by
  induction agree generalizing first second with
  | nil => exact .nil
  | @cons firstCall secondCall firstRest secondRest here _ ih =>
    unfold decideAll
    rw [← here.domainName]
    cases present : topology.domain firstCall.domainName with
    | error exc =>
      have firstRaises : first.decide topology firstCall.domainName firstCall.state firstCall.now =
          .error exc := by
        unfold QuotaAwarePRSBrain.decide
        rw [present]
        rfl
      have secondRaises : second.decide topology firstCall.domainName secondCall.state
          secondCall.now = .error exc := by
        unfold QuotaAwarePRSBrain.decide
        rw [present]
        rfl
      rw [firstRaises, secondRaises]
      exact .cons rfl (ih same member)
    | ok found =>
      obtain ⟨firstDecision, firstNext, secondDecision, secondNext, firstRan, secondRan, caps, next,
        quota⟩ := same.step member present here.atHome here.agree firstCall.now secondCall.now
      rw [firstRan, secondRan]
      exact .cons caps (ih next (quota ▸ member))

/-- **Tenant isolation.** Two runs of freshly built brains with one quota and one topology, over
calls that agree on the telemetry of a tenant's GPUs and differ arbitrarily elsewhere, decide the
same caps for these GPUs at every tick, whatever the other tenants are called. -/
theorem slices_isolated {brain : QuotaAwarePRSBrain} (fresh : brain.tenantBrains = .empty)
    (topology : PDNTopology) {tenant : TenantQuota} (member : tenant ∈ brain.quota.tenants)
    {firstCalls secondCalls : List QuotaCall}
    (agree : List.Forall₂ (AgreeFor tenant) firstCalls secondCalls) :
    List.Forall₂ (SameFor tenant) (decideAll topology brain firstCalls)
      (decideAll topology brain secondCalls) := by
  have empty : CacheOk brain.quota.domainName brain.tenantBrains := .of_fresh fresh
  exact SameBrain.run ⟨rfl, rfl, empty, empty, .refl _ _⟩ member topology agree

/-- The first tenant does not see what the other of its id draws, nor what GPU 3 draws. -/
theorem slices_isolated_shared :
    List.Forall₂ (SameFor quarterTenant)
      (decideAll sharedTopology sharedBrain
        [⟨"domain-0", partialState 900 900, 0⟩, ⟨"domain-0", partialState 10 900, 1⟩])
      (decideAll sharedTopology sharedBrain
        [⟨"domain-0", partialState 20 0, 0⟩, ⟨"domain-0", partialState 900 30, 5⟩]) := by
  have agree : ∀ first second third fourth,
      AgreeOn quarterTenant.gpuIndices (partialState first second) (partialState third fourth) := by
    intro first second third fourth
    refine ⟨fun gpu listed => ?_, fun _ _ => rfl, fun _ _ => rfl⟩
    rcases List.mem_cons.mp listed with rfl | last
    · rfl
    · rw [List.mem_singleton.mp last]
      rfl
  refine slices_isolated rfl sharedTopology (.head _) ?_
  exact .cons ⟨rfl, .inl rfl, agree _ _ _ _⟩ (.cons ⟨rfl, .inl rfl, agree _ _ _ _⟩ .nil)

end QuotaAwarePRSBrain

end Opendps.Brain
