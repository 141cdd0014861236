/-
**The quota-aware brain, and the budget its slices are cut from.**

`QuotaAwarePRSBrain.decide` walks the tenants in order (`tenantStep`): each gets a slice of the
domain budget, runs a PRS brain of its own over its GPUs that report a maximum, and has its caps
scaled down to the slice. GPUs no tenant owns share what is left (`shareRest`). A brain whose
parameters PRS refuses (`RefusedQuotaBrain`) raises at the first tenant with such a GPU.

The slices are cut from `domain.budget_w`, the static budget, and not from
`PDNTopology.domain_budget_w`. What the brain does keep is therefore a bound in the static budget:
the caps add up to at most `handedOut`, the slices of the tenants that report telemetry, or the
whole static budget if a GPU outside every tenant reports a draw (`decide_total_le_handedOut`). The
bound in the effective budget holds where that is not above it. `QuotaRun` collects the topologies
and brains any history can reach, and `quota_total_le_effective` states this over all of them.
-/

import Opendps.Brain.Prs
import Opendps.Pdn.Quota
import Mathlib.Tactic.Ring

namespace Opendps.Brain

open Opendps.Lib Opendps.Pdn

/-- A tenant's PRS brain, with the sub-topology it was built on. -/
structure TenantBrain where
  topology : PDNTopology
  brain : PRSBrain

/-- The quota brain: a validated quota, PRS parameters and the tenant brains built so far, one for each
tenant id and list of active GPUs. The constructor does not look at the parameters; these are some that
PRS takes, and `RefusedQuotaBrain` is a brain with others. -/
structure QuotaAwarePRSBrain where
  quota : QuotaConfig
  validated : quota.validate = .ok ()
  prsParams : PRSParams
  tenantBrains : Dict (String × List GpuIndex) TenantBrain := .empty

/-- What the walk over the tenants carries. -/
structure QuotaPass where
  allCaps : Dict GpuIndex ℚ := .empty
  assignedGpus : List GpuIndex := []
  usedBudget : ℚ := 0
  tenantBrains : Dict (String × List GpuIndex) TenantBrain

namespace QuotaAwarePRSBrain

def subDomainName (domainName tenantId : String) : String := domainName ++ "/" ++ tenantId

/-- The sub-topology of one tenant: a single domain with the tenant's slice as its budget. -/
def subTopology (domainName : String) (tenant : TenantQuota) (tenantGpus : List GpuIndex)
    (tenantBudget : ℚ) : PDNTopology where
  pdus := .empty
  domains := .ofList [(subDomainName domainName tenant.tenantId,
    { name := subDomainName domainName tenant.tenantId, gpuIndices := tenantGpus,
      budgetW := tenantBudget, pduName := "_virtual", nodeOverheadW := 0 })]

/-- The telemetry of one tenant's active GPUs. -/
def subState (domainName : String) (state : DomainState) (tenant : TenantQuota)
    (tenantGpus : List GpuIndex) : DomainState where
  domainName := subDomainName domainName tenant.tenantId
  gpuDraws := .ofList (tenantGpus.map fun gpu => (gpu, state.gpuDraws.getD gpu 0))
  gpuCaps := .ofList (tenantGpus.map fun gpu =>
    (gpu, state.gpuCaps.getD gpu (state.gpuMaxCaps.getD gpu 0)))
  gpuMaxCaps := .ofList (tenantGpus.map fun gpu => (gpu, state.gpuMaxCaps.getD gpu 0))
  ts := state.ts

/-- The caps of a tenant, scaled down to its slice when they exceed it. -/
def renormalise (tenantBudget : ℚ) (caps : Dict GpuIndex ℚ) : Dict GpuIndex ℚ :=
  let tenantTotal := caps.values.sum
  if 0 < tenantBudget ∧ tenantBudget < tenantTotal then
    caps.mapVals fun _ cap => cap * (tenantBudget / tenantTotal)
  else caps

/-- One round of the loop over the tenants; `built` is what the constructor of PRS makes of the
parameters. -/
def tenantRound (built : Except PyError PRSBrain) (domainName : String) (budget : ℚ)
    (state : DomainState) (pass : QuotaPass) (tenant : TenantQuota) : Except PyError QuotaPass :=
  if tenant.domainName ≠ domainName then .ok pass
  else
    let tenantBudget := QuotaConfig.tenantBudgetW tenant budget
    -- a GPU with a draw but no known maximum is reserved and gets no cap this tick
    let present := tenant.gpuIndices.filter fun gpu => state.gpuDraws.contains gpu
    let tenantGpus := present.filter fun gpu => state.gpuMaxCaps.contains gpu
    let assigned := pass.assignedGpus ++ present
    if tenantGpus = [] then .ok { pass with assignedGpus := assigned }
    else
      let brainKey := (tenant.tenantId, tenantGpus)
      let found : Except PyError TenantBrain := match pass.tenantBrains.get? brainKey with
        | some cached => .ok cached
        | none => built.map fun brain =>
            { topology := subTopology domainName tenant tenantGpus tenantBudget, brain := brain }
      match found with
      | .error exc => .error exc
      | .ok cached =>
        match cached.brain.decide cached.topology (subDomainName domainName tenant.tenantId)
            (subState domainName state tenant tenantGpus) with
        | .error exc => .error exc
        | .ok (decision, brain) =>
          let caps := renormalise tenantBudget decision.caps
          .ok { allCaps := pass.allCaps.update caps
                assignedGpus := assigned
                usedBudget := pass.usedBudget + caps.values.sum
                tenantBrains := pass.tenantBrains.set brainKey { cached with brain := brain } }

/-- A round with parameters that PRS takes. -/
def tenantStep (params : PRSParams) : String → ℚ → DomainState → QuotaPass → TenantQuota →
    Except PyError QuotaPass :=
  tenantRound (.ok { params := params })

/-- Such a round works with the brain of the tenant's GPUs, the cached one or a new one. -/
theorem tenantStep_eq (params : PRSParams) (domainName : String) (budget : ℚ) (state : DomainState)
    (pass : QuotaPass) (tenant : TenantQuota) :
    tenantStep params domainName budget state pass tenant =
      if tenant.domainName ≠ domainName then .ok pass
      else
        let tenantBudget := QuotaConfig.tenantBudgetW tenant budget
        let present := tenant.gpuIndices.filter fun gpu => state.gpuDraws.contains gpu
        let tenantGpus := present.filter fun gpu => state.gpuMaxCaps.contains gpu
        let assigned := pass.assignedGpus ++ present
        if tenantGpus = [] then .ok { pass with assignedGpus := assigned }
        else
          let brainKey := (tenant.tenantId, tenantGpus)
          let cached := (pass.tenantBrains.get? brainKey).getD
            { topology := subTopology domainName tenant tenantGpus tenantBudget
              brain := { params := params } }
          match cached.brain.decide cached.topology (subDomainName domainName tenant.tenantId)
              (subState domainName state tenant tenantGpus) with
          | .error exc => .error exc
          | .ok (decision, brain) =>
            let caps := renormalise tenantBudget decision.caps
            .ok { allCaps := pass.allCaps.update caps
                  assignedGpus := assigned
                  usedBudget := pass.usedBudget + caps.values.sum
                  tenantBrains := pass.tenantBrains.set brainKey { cached with brain := brain } } := by
  unfold tenantStep tenantRound
  simp only
  cases pass.tenantBrains.get? (tenant.tenantId, (tenant.gpuIndices.filter fun gpu =>
    state.gpuDraws.contains gpu).filter fun gpu => state.gpuMaxCaps.contains gpu) with
  | none => rfl
  | some cached => rfl

/-- The GPUs no tenant owns share the rest of the budget equally. -/
def shareRest (budget : ℚ) (state : DomainState) (pass : QuotaPass) : Dict GpuIndex ℚ :=
  let unassigned := state.gpuDraws.keys.filter fun gpu => decide (gpu ∉ pass.assignedGpus)
  if unassigned = [] then pass.allCaps
  else
    let remaining := max 0 (budget - pass.usedBudget)
    let share := remaining / (unassigned.length : ℕ)
    pass.allCaps.setAll
      (unassigned.map fun gpu => (gpu, min share (state.gpuMaxCaps.getD gpu share)))

/-- One decision; `now` is the clock reading the decision is stamped with. -/
def decide (self : QuotaAwarePRSBrain) (topology : PDNTopology) (domainName : String)
    (state : DomainState) (now : ℚ) : Except PyError (BrainDecision × QuotaAwarePRSBrain) := do
  let domain ← topology.domain domainName
  let budget := domain.budgetW
  let pass ← self.quota.tenants.foldlM (tenantStep self.prsParams domainName budget state)
    { tenantBrains := self.tenantBrains }
  pure ({ domain := domainName, caps := shareRest budget state pass, ts := now
          reason := "quota-prs:" ++ toString self.quota.tenants.length ++ "tenants" },
        { self with tenantBrains := pass.tenantBrains })

end QuotaAwarePRSBrain

/-- A quota brain with parameters that the constructor of PRS refuses. It never has a tenant brain. -/
structure RefusedQuotaBrain where
  quota : QuotaConfig
  validated : quota.validate = .ok ()
  refusal : PyError

namespace RefusedQuotaBrain

open QuotaAwarePRSBrain

/-- One decision, as a `QuotaAwarePRSBrain` makes it. -/
def decide (self : RefusedQuotaBrain) (topology : PDNTopology) (domainName : String)
    (state : DomainState) (now : ℚ) : Except PyError (BrainDecision × RefusedQuotaBrain) := do
  let domain ← topology.domain domainName
  let budget := domain.budgetW
  let pass ← self.quota.tenants.foldlM
    (tenantRound (.error self.refusal) domainName budget state) { tenantBrains := .empty }
  pure ({ domain := domainName, caps := shareRest budget state pass, ts := now
          reason := "quota-prs:" ++ toString self.quota.tenants.length ++ "tenants" },
        self)

end RefusedQuotaBrain

namespace QuotaAwarePRSBrain

/-! ### What the static budget lets out -/

/-- The fraction of the domain budget a tenant's slice puts in play: none when the tenant belongs to
another domain or has no GPU with both a draw and a maximum. -/
def activePct (domainName : String) (state : DomainState) (tenant : TenantQuota) : ℚ :=
  if tenant.domainName = domainName ∧ ∃ gpu ∈ tenant.gpuIndices,
      state.gpuDraws.contains gpu ∧ state.gpuMaxCaps.contains gpu then
    tenant.maxWattsPct
  else 0

/-- Some GPU that reports a draw belongs to no tenant of the domain. -/
def SomeUnowned (self : QuotaAwarePRSBrain) (domainName : String) (state : DomainState) : Prop :=
  ∃ gpu ∈ state.gpuDraws.keys, ∀ tenant ∈ self.quota.tenants,
    tenant.domainName = domainName → gpu ∉ tenant.gpuIndices

instance (self : QuotaAwarePRSBrain) (domainName : String) (state : DomainState) :
    Decidable (self.SomeUnowned domainName state) := by
  unfold SomeUnowned
  infer_instance

/-- The most that slices of `budget` can let out on one telemetry. -/
def handedOut (self : QuotaAwarePRSBrain) (domainName : String) (budget : ℚ)
    (state : DomainState) : ℚ :=
  let slices := (self.quota.tenants.map (activePct domainName state)).sum * budget
  if self.SomeUnowned domainName state then max slices budget else slices

theorem activePct_nonneg (domainName : String) (state : DomainState) (tenant : TenantQuota) :
    0 ≤ activePct domainName state tenant := by
  unfold activePct
  split
  · exact tenant.pct_pos.le
  · exact le_rfl

theorem activePct_le (domainName : String) (state : DomainState) (tenant : TenantQuota) :
    activePct domainName state tenant ≤ tenant.maxWattsPct := by
  unfold activePct
  split
  · exact le_rfl
  · exact tenant.pct_pos.le

/-- Whatever the telemetry, a positive budget lets out at most `max(1, Σ pct)` of itself. -/
theorem handedOut_le (self : QuotaAwarePRSBrain) (domainName : String) {budget : ℚ}
    (positive : 0 < budget) (state : DomainState) :
    self.handedOut domainName budget state ≤ budget * max 1 self.quota.totalPct := by
  have slices : (self.quota.tenants.map (activePct domainName state)).sum * budget ≤
      budget * max 1 self.quota.totalPct := by
    rw [mul_comm]
    refine mul_le_mul_of_nonneg_left (le_trans ?_ (le_max_right _ _)) positive.le
    exact List.sum_le_sum fun tenant _ => activePct_le domainName state tenant
  unfold handedOut
  simp only
  split
  · exact max_le slices (le_mul_of_one_le_right positive.le (le_max_left _ _))
  · exact slices

/-! ### One round of the walk -/

/-- Every cached sub-topology knows the sub-domain its key stands for. -/
def CacheOk (home : String) (cache : Dict (String × List GpuIndex) TenantBrain) : Prop :=
  ∀ key tenantBrain, cache.get? key = some tenantBrain →
    ∃ found, tenantBrain.topology.domain (subDomainName home key.1) = .ok found

theorem CacheOk.of_fresh {home : String} {cache : Dict (String × List GpuIndex) TenantBrain}
    (fresh : cache = .empty) : CacheOk home cache := by
  intro key tenantBrain stored
  rw [fresh] at stored
  cases stored

theorem subTopology_domain (domainName : String) (tenant : TenantQuota)
    (tenantGpus : List GpuIndex) (tenantBudget : ℚ) :
    ∃ found, (subTopology domainName tenant tenantGpus tenantBudget).domain
      (subDomainName domainName tenant.tenantId) = .ok found := by
  unfold PDNTopology.domain subTopology
  rw [Dict.get?_ofList (by simp), List.lookup_cons_self]
  exact ⟨_, rfl⟩

theorem keys_renormalise (tenantBudget : ℚ) (caps : Dict GpuIndex ℚ) :
    (renormalise tenantBudget caps).keys = caps.keys := by
  simp only [renormalise]
  split
  · exact Dict.keys_mapVals _ _
  · rfl

/-- A positive slice is never exceeded. -/
theorem sum_renormalise_le {tenantBudget : ℚ} (positive : 0 < tenantBudget)
    (caps : Dict GpuIndex ℚ) : (renormalise tenantBudget caps).values.sum ≤ tenantBudget := by
  simp only [renormalise]
  split
  · next exceeds =>
    have total : caps.values.sum ≠ 0 := (positive.trans exceeds.2).ne'
    rw [Dict.values_mapVals, sum_scaled total]
  · next within =>
    rw [not_and, not_lt] at within
    exact within positive

/-- **What one round does.** It raises nothing; the caps it adds belong to GPUs of the tenant that
it marks as assigned, and they fit the slice the tenant puts in play when the budget is positive. -/
theorem tenantStep_spec (params : PRSParams) {home : String} (domainName : String) (budget : ℚ)
    (state : DomainState) {pass : QuotaPass} {tenant : TenantQuota}
    (sameDomain : tenant.domainName = home) (cacheOk : CacheOk home pass.tenantBrains) :
    ∃ next caps owned, tenantStep params domainName budget state pass tenant = .ok next ∧
      CacheOk home next.tenantBrains ∧
      next.allCaps = pass.allCaps.update caps ∧
      next.usedBudget = pass.usedBudget + caps.values.sum ∧
      next.assignedGpus = pass.assignedGpus ++ owned ∧
      (∀ gpu ∈ caps.keys, gpu ∈ owned) ∧ (∀ gpu ∈ owned, gpu ∈ tenant.gpuIndices) ∧
      (tenant.domainName = domainName → ∀ gpu ∈ tenant.gpuIndices,
        gpu ∈ state.gpuDraws.keys → gpu ∈ owned) ∧
      (0 < budget → caps.values.sum ≤ activePct domainName state tenant * budget) := by
  have idle : 0 < budget → (Dict.empty : Dict GpuIndex ℚ).values.sum ≤
      activePct domainName state tenant * budget := fun positive =>
    mul_nonneg (activePct_nonneg domainName state tenant) positive.le
  rw [tenantStep_eq]
  by_cases elsewhere : tenant.domainName ≠ domainName
  · rw [if_pos elsewhere]
    exact ⟨pass, .empty, [], rfl, cacheOk, rfl, by simp [Dict.values], by simp, by simp, by simp,
      fun here => absurd here elsewhere, idle⟩
  rw [if_neg elsewhere]
  have here : domainName = home := (not_not.mp elsewhere).symm.trans sameDomain
  subst here
  simp only
  set present := tenant.gpuIndices.filter fun gpu => state.gpuDraws.contains gpu with presentDef
  set tenantGpus := present.filter fun gpu => state.gpuMaxCaps.contains gpu with tenantGpusDef
  have presentOwned : ∀ gpu ∈ present, gpu ∈ tenant.gpuIndices :=
    fun gpu member => (List.mem_filter.mp member).1
  have reserved : tenant.domainName = domainName → ∀ gpu ∈ tenant.gpuIndices,
      gpu ∈ state.gpuDraws.keys → gpu ∈ present := fun _ gpu member drawn =>
    List.mem_filter.mpr ⟨member, Dict.contains_iff.mpr drawn⟩
  by_cases none : tenantGpus = []
  · rw [if_pos none]
    exact ⟨_, .empty, present, rfl, cacheOk, rfl, by simp [Dict.values], rfl, by simp,
      presentOwned, reserved, idle⟩
  rw [if_neg none]
  have active : activePct domainName state tenant = tenant.maxWattsPct := by
    obtain ⟨gpu, member⟩ := List.exists_mem_of_ne_nil _ none
    obtain ⟨inPresent, hasMax⟩ := List.mem_filter.mp member
    obtain ⟨listed, drawn⟩ := List.mem_filter.mp inPresent
    exact if_pos ⟨not_not.mp elsewhere, gpu, listed, drawn, hasMax⟩
  have slice : 0 < budget → 0 < QuotaConfig.tenantBudgetW tenant budget :=
    fun positive => mul_pos tenant.pct_pos positive
  set cached := (pass.tenantBrains.get? (tenant.tenantId, tenantGpus)).getD
    { topology := subTopology domainName tenant tenantGpus
        (QuotaConfig.tenantBudgetW tenant budget)
      brain := { params := params } } with cachedDef
  have known : ∃ found,
      cached.topology.domain (subDomainName domainName tenant.tenantId) = .ok found := by
    cases hit : pass.tenantBrains.get? (tenant.tenantId, tenantGpus) with
    | none =>
      rw [cachedDef, hit]
      exact subTopology_domain _ _ _ _
    | some tenantBrain =>
      rw [cachedDef, hit]
      exact cacheOk _ _ hit
  obtain ⟨found, domainFound⟩ := known
  obtain ⟨subBudget, answer⟩ := PDNTopology.domainBudgetW_isOk domainFound
  obtain ⟨decision, brain, call⟩ := PRSBrain.decide_isOk cached.brain
    (subState domainName state tenant tenantGpus) answer
  rw [call, active]
  refine ⟨_, renormalise (QuotaConfig.tenantBudgetW tenant budget) decision.caps, present, rfl,
    ?_, rfl, rfl, rfl, ?_, presentOwned, reserved,
    fun positive => sum_renormalise_le (slice positive) _⟩
  · intro key tenantBrain stored
    rw [Dict.get?_set] at stored
    split at stored
    · next same =>
      cases stored
      exact ⟨found, by rw [same]; exact domainFound⟩
    · exact cacheOk key tenantBrain stored
  · intro gpu member
    rw [keys_renormalise, (PRSBrain.decide_ok answer call).1, Tick.mem_keys_caps] at member
    have inside : gpu ∈ tenantGpus := Dict.mem_keys_ofKeys.mp member
    exact (List.mem_filter.mp inside).1

/-! ### The whole walk -/

/-- What holds after the tenants of a list are walked. -/
structure PassInv (home domainName : String) (budget : ℚ) (state : DomainState)
    (processed : List TenantQuota) (pass : QuotaPass) : Prop where
  cacheOk : CacheOk home pass.tenantBrains
  used : pass.usedBudget = pass.allCaps.values.sum
  capped : ∀ gpu ∈ pass.allCaps.keys, gpu ∈ pass.assignedGpus
  owned : ∀ gpu ∈ pass.assignedGpus, ∃ tenant ∈ processed, gpu ∈ tenant.gpuIndices
  reserved : ∀ tenant ∈ processed, tenant.domainName = domainName → ∀ gpu ∈ tenant.gpuIndices,
    gpu ∈ state.gpuDraws.keys → gpu ∈ pass.assignedGpus
  slices : 0 < budget →
    pass.usedBudget ≤ (processed.map (activePct domainName state)).sum * budget

theorem PassInv.start (home domainName : String) (budget : ℚ) (state : DomainState)
    {cache : Dict (String × List GpuIndex) TenantBrain} (cacheOk : CacheOk home cache) :
    PassInv home domainName budget state [] { tenantBrains := cache } :=
  ⟨cacheOk, rfl, by simp, by simp, by simp, by simp⟩

/-- One round keeps the invariant of the walk. -/
theorem PassInv.step (params : PRSParams) {home domainName : String} {budget : ℚ}
    {state : DomainState} {processed : List TenantQuota} {pass : QuotaPass} {tenant : TenantQuota}
    (inv : PassInv home domainName budget state processed pass)
    (sameDomain : tenant.domainName = home)
    (apart : ∀ other ∈ processed, ∀ gpu ∈ other.gpuIndices, gpu ∉ tenant.gpuIndices) :
    ∃ next, tenantStep params domainName budget state pass tenant = .ok next ∧
      PassInv home domainName budget state (processed ++ [tenant]) next := by
  obtain ⟨next, caps, owned, ran, cacheOk, allCaps, used, assigned, capsOwned, ownedListed,
    reserved, slice⟩ :=
      tenantStep_spec params domainName budget state sameDomain inv.cacheOk
  have fresh : ∀ gpu ∈ caps.keys, gpu ∉ pass.allCaps.keys := by
    intro gpu member before
    obtain ⟨other, inProcessed, listed⟩ := inv.owned gpu (inv.capped gpu before)
    exact apart other inProcessed gpu listed (ownedListed gpu (capsOwned gpu member))
  have items : next.allCaps.items = pass.allCaps.items ++ caps.items := by
    rw [allCaps, Dict.items_update_of_disjoint _ _ fresh]
  refine ⟨next, ran, cacheOk, ?_, ?_, ?_, ?_, fun positive => ?_⟩
  · rw [used, inv.used, Dict.values, Dict.values, Dict.values, items, List.map_append,
      List.sum_append]
  · intro gpu member
    rw [Dict.keys, items, List.map_append, List.mem_append] at member
    rw [assigned, List.mem_append]
    exact member.imp (inv.capped gpu) (capsOwned gpu)
  · intro gpu member
    rw [assigned, List.mem_append] at member
    rcases member with before | now
    · obtain ⟨other, inProcessed, listed⟩ := inv.owned gpu before
      exact ⟨other, List.mem_append_left _ inProcessed, listed⟩
    · exact ⟨tenant, by simp, ownedListed gpu now⟩
  · intro other member here gpu listed drawn
    rw [assigned, List.mem_append]
    rcases List.mem_append.mp member with before | last
    · exact .inl (inv.reserved other before here gpu listed drawn)
    · rw [List.mem_singleton.mp last] at here listed
      exact .inr (reserved here gpu listed drawn)
  · rw [used, List.map_append, List.sum_append, add_mul]
    refine add_le_add (inv.slices positive) ?_
    simpa using slice positive

/-- The walk over all tenants raises nothing and keeps the invariant. -/
theorem PassInv.walk (params : PRSParams) {home domainName : String} {budget : ℚ}
    {state : DomainState} {tenants processed : List TenantQuota} {pass : QuotaPass}
    (inv : PassInv home domainName budget state processed pass)
    (sameDomain : ∀ tenant ∈ tenants, tenant.domainName = home)
    (disjoint : (processed ++ tenants).Pairwise fun first second =>
      ∀ gpu ∈ first.gpuIndices, gpu ∉ second.gpuIndices) :
    ∃ final, tenants.foldlM (tenantStep params domainName budget state) pass = .ok final ∧
      PassInv home domainName budget state (processed ++ tenants) final := by
  induction tenants generalizing processed pass with
  | nil => exact ⟨pass, rfl, by simpa using inv⟩
  | cons tenant rest ih =>
    have apart : ∀ other ∈ processed, ∀ gpu ∈ other.gpuIndices, gpu ∉ tenant.gpuIndices :=
      fun other member => (List.pairwise_append.mp disjoint).2.2 other member tenant (by simp)
    obtain ⟨next, ran, nextInv⟩ := inv.step params (sameDomain tenant (by simp)) apart
    have regroup : processed ++ tenant :: rest = (processed ++ [tenant]) ++ rest := by simp
    rw [regroup] at disjoint ⊢
    obtain ⟨final, folded, finalInv⟩ := ih nextInv
      (fun other member => sameDomain other (List.mem_cons_of_mem _ member)) disjoint
    refine ⟨final, ?_, finalInv⟩
    rw [List.foldlM_cons, ran]
    exact folded

/-- The GPUs outside every tenant take at most what the tenants left. -/
theorem sum_shareRest_le {self : QuotaAwarePRSBrain} {home domainName : String} {budget : ℚ}
    {state : DomainState} {pass : QuotaPass}
    (inv : PassInv home domainName budget state self.quota.tenants pass) (positive : 0 < budget) :
    (shareRest budget state pass).values.sum ≤ self.handedOut domainName budget state := by
  have slices := inv.slices positive
  simp only [shareRest, handedOut]
  split
  · rw [← inv.used]
    split
    · exact slices.trans (le_max_left _ _)
    · exact slices
  · next some =>
    have unowned : self.SomeUnowned domainName state := by
      obtain ⟨gpu, member⟩ := List.exists_mem_of_ne_nil _ some
      obtain ⟨drawn, free⟩ := List.mem_filter.mp member
      refine ⟨gpu, drawn, fun tenant inQuota here listed => ?_⟩
      exact of_decide_eq_true free (inv.reserved tenant inQuota here gpu listed drawn)
    rw [if_pos unowned]
    refine le_trans ?_ (max_le_max_right budget slices)
    set unassigned := state.gpuDraws.keys.filter
      fun gpu => Decidable.decide (gpu ∉ pass.assignedGpus) with unassignedDef
    set share := max 0 (budget - pass.usedBudget) / (unassigned.length : ℕ) with shareDef
    have nodup : unassigned.Nodup := state.gpuDraws.keys_nodup.filter _
    have count : ((unassigned.length : ℕ) : ℚ) ≠ 0 := by
      rw [Nat.cast_ne_zero]
      exact fun zero => some (List.length_eq_zero_iff.mp zero)
    have keys : (unassigned.map fun gpu => (gpu, min share (state.gpuMaxCaps.getD gpu share))).map
        Prod.fst = unassigned := by
      rw [List.map_map]
      exact List.map_id' _
    have items : (pass.allCaps.setAll (unassigned.map fun gpu =>
          (gpu, min share (state.gpuMaxCaps.getD gpu share)))).items =
        pass.allCaps.items ++ unassigned.map fun gpu =>
          (gpu, min share (state.gpuMaxCaps.getD gpu share)) := by
      refine Dict.items_setAll_of_disjoint pass.allCaps (by rw [keys]; exact nodup) ?_
      rw [keys]
      intro gpu member capped
      have free := (List.mem_filter.mp member).2
      rw [decide_eq_true_eq] at free
      exact free (inv.capped gpu capped)
    have rest : (unassigned.map fun gpu => min share (state.gpuMaxCaps.getD gpu share)).sum ≤
        max 0 (budget - pass.usedBudget) := by
      calc (unassigned.map fun gpu => min share (state.gpuMaxCaps.getD gpu share)).sum
          ≤ unassigned.length • share := by
            refine (List.sum_le_card_nsmul _ share fun cap member => ?_).trans_eq (by simp)
            obtain ⟨gpu, _, rfl⟩ := List.mem_map.mp member
            exact min_le_left _ _
        _ = max 0 (budget - pass.usedBudget) := by
            rw [nsmul_eq_mul, shareDef, mul_div_cancel₀ _ count]
    rw [Dict.values, items, List.map_append, List.sum_append, List.map_map]
    calc (pass.allCaps.items.map Prod.snd).sum + (unassigned.map (Prod.snd ∘ fun gpu =>
            (gpu, min share (state.gpuMaxCaps.getD gpu share)))).sum
        ≤ pass.usedBudget + max 0 (budget - pass.usedBudget) := by
          rw [inv.used] at rest ⊢
          exact add_le_add le_rfl rest
      _ = max pass.usedBudget budget := by
          rcases le_total pass.usedBudget budget with under | exceeds
          · rw [max_eq_right (sub_nonneg.mpr under), max_eq_right under, add_sub_cancel]
          · rw [max_eq_left (sub_nonpos.mpr exceeds), max_eq_left exceeds, add_zero]

/-- The walk of a decision over the tenants. -/
def walk (self : QuotaAwarePRSBrain) (domainName : String) (budget : ℚ) (state : DomainState) :
    Except PyError QuotaPass :=
  self.quota.tenants.foldlM (tenantStep self.prsParams domainName budget state)
    { tenantBrains := self.tenantBrains }

/-- A decision is the walk, then the sharing of the rest. -/
theorem decide_eq_walk (self : QuotaAwarePRSBrain) {topology : PDNTopology} {domainName : String}
    {found : PowerDomain} (state : DomainState) (now : ℚ)
    (cacheOk : CacheOk self.quota.domainName self.tenantBrains)
    (present : topology.domain domainName = .ok found) :
    ∃ pass, self.walk domainName found.budgetW state = .ok pass ∧
      PassInv self.quota.domainName domainName found.budgetW state self.quota.tenants pass ∧
      self.decide topology domainName state now = .ok
        ({ domain := domainName, caps := shareRest found.budgetW state pass, ts := now
           reason := "quota-prs:" ++ toString self.quota.tenants.length ++ "tenants" },
         { self with tenantBrains := pass.tenantBrains }) := by
  have valid := QuotaConfig.valid_of_validate self.validated
  obtain ⟨pass, folded, inv⟩ := (PassInv.start self.quota.domainName domainName found.budgetW
    state cacheOk).walk self.prsParams valid.sameDomain (by simpa using valid.disjoint)
  refine ⟨pass, folded, by simpa using inv, ?_⟩
  unfold QuotaAwarePRSBrain.decide
  rw [present]
  show (self.walk domainName found.budgetW state >>= _) = _
  rw [walk, folded]
  rfl

/-- A decision raises nothing, keeps the cache, and is the walk followed by the sharing of the
rest. -/
theorem decide_spec (self : QuotaAwarePRSBrain) {topology : PDNTopology} {domainName : String}
    {found : PowerDomain} (state : DomainState) (now : ℚ)
    (cacheOk : CacheOk self.quota.domainName self.tenantBrains)
    (present : topology.domain domainName = .ok found) :
    ∃ decision next pass, self.decide topology domainName state now = .ok (decision, next) ∧
      next.quota = self.quota ∧ CacheOk self.quota.domainName next.tenantBrains ∧
      decision.caps = shareRest found.budgetW state pass ∧
      PassInv self.quota.domainName domainName found.budgetW state self.quota.tenants pass := by
  obtain ⟨pass, _, inv, call⟩ := self.decide_eq_walk state now cacheOk present
  exact ⟨_, _, pass, call, rfl, inv.cacheOk, rfl, inv⟩

/-- **The bound in the static budget**: with a positive `budget_w`, the caps add up to at most what
the slices of `budget_w` let out. -/
theorem decide_total_le_handedOut (self : QuotaAwarePRSBrain) {topology : PDNTopology}
    {domainName : String} {found : PowerDomain} (state : DomainState) (now : ℚ)
    (cacheOk : CacheOk self.quota.domainName self.tenantBrains)
    (present : topology.domain domainName = .ok found) (positive : 0 < found.budgetW) :
    ∃ decision next, self.decide topology domainName state now = .ok (decision, next) ∧
      decision.total ≤ self.handedOut domainName found.budgetW state := by
  obtain ⟨decision, next, pass, call, _, _, caps, inv⟩ :=
    self.decide_spec state now cacheOk present
  refine ⟨decision, next, call, ?_⟩
  rw [BrainDecision.total, caps]
  exact sum_shareRest_le inv positive

/-! ### A GPU outside every tenant -/

/-- The telemetry of one GPU that draws its whole maximum. -/
def soloState (domainName : String) (gpu : GpuIndex) (watts : ℚ) : DomainState where
  domainName := domainName
  gpuDraws := .ofList [(gpu, watts)]
  gpuCaps := .ofList [(gpu, watts)]
  gpuMaxCaps := .ofList [(gpu, watts)]
  ts := 0

/-- A tenant that does not own the GPU takes nothing. -/
theorem tenantStep_solo (params : PRSParams) {domainName : String} (budget watts : ℚ)
    {gpu : GpuIndex} {tenant : TenantQuota} (pass : QuotaPass)
    (unowned : tenant.domainName = domainName → gpu ∉ tenant.gpuIndices) :
    tenantStep params domainName budget (soloState domainName gpu watts) pass tenant = .ok pass := by
  rw [tenantStep_eq]
  by_cases elsewhere : tenant.domainName ≠ domainName
  · rw [if_pos elsewhere]
  rw [if_neg elsewhere]
  have absent : (tenant.gpuIndices.filter fun other =>
      (soloState domainName gpu watts).gpuDraws.contains other) = [] := by
    refine List.filter_eq_nil_iff.mpr fun other listed drawn => ?_
    have same : other ∈ (Dict.ofList [(gpu, watts)]).keys := Dict.contains_iff.mp drawn
    rw [Dict.mem_keys_ofList, List.map_singleton, List.mem_singleton] at same
    subst same
    exact unowned (not_not.mp elsewhere) listed
  simp [absent]

/-- The walk leaves the whole budget to a GPU no tenant owns. -/
theorem decide_solo (self : QuotaAwarePRSBrain) {topology : PDNTopology} {domainName : String}
    {found : PowerDomain} (now : ℚ) (present : topology.domain domainName = .ok found)
    {gpu : GpuIndex} (unowned : ∀ tenant ∈ self.quota.tenants,
      tenant.domainName = domainName → gpu ∉ tenant.gpuIndices) (positive : 0 < found.budgetW) :
    ∃ decision next, self.decide topology domainName
        (soloState domainName gpu found.budgetW) now = .ok (decision, next) ∧
      decision.total = found.budgetW := by
  have walked : ∀ tenants : List TenantQuota,
      (∀ tenant ∈ tenants, tenant.domainName = domainName → gpu ∉ tenant.gpuIndices) →
      tenants.foldlM (tenantStep self.prsParams domainName found.budgetW
          (soloState domainName gpu found.budgetW)) { tenantBrains := self.tenantBrains } =
        .ok { tenantBrains := self.tenantBrains } := by
    intro tenants free
    induction tenants with
    | nil => rfl
    | cons tenant rest ih =>
      rw [List.foldlM_cons, tenantStep_solo _ _ _ _ (free tenant (by simp))]
      exact ih fun other member => free other (List.mem_cons_of_mem _ member)
  unfold QuotaAwarePRSBrain.decide
  rw [present]
  refine ⟨{ domain := domainName, ts := now
            caps := shareRest found.budgetW (soloState domainName gpu found.budgetW)
              { tenantBrains := self.tenantBrains }
            reason := "quota-prs:" ++ toString self.quota.tenants.length ++ "tenants" },
    self, ?_, ?_⟩
  · show (self.quota.tenants.foldlM (tenantStep self.prsParams domainName found.budgetW
      (soloState domainName gpu found.budgetW)) { tenantBrains := self.tenantBrains } >>= _) = _
    rw [walked _ unowned]
    rfl
  · have keys : (soloState domainName gpu found.budgetW).gpuDraws.keys = [gpu] := rfl
    have maximum : (soloState domainName gpu found.budgetW).gpuMaxCaps.getD gpu found.budgetW =
        found.budgetW := by
      simp [soloState, Dict.getD, Dict.get?_ofList]
    simp [BrainDecision.total, shareRest, keys, max_eq_right positive.le, maximum, Dict.setAll,
      Dict.set, Dict.setItems, Dict.values]

end QuotaAwarePRSBrain

/-- The topologies and brains that a history of budget adoptions, releases and decisions reaches. -/
inductive QuotaRun (topology₀ : PDNTopology) (brain₀ : QuotaAwarePRSBrain) :
    PDNTopology → QuotaAwarePRSBrain → Prop
  | init : QuotaRun topology₀ brain₀ topology₀ brain₀
  | adopt {topology : PDNTopology} {brain : QuotaAwarePRSBrain} (domainName : String)
      (budgetW : ℚ) (before : QuotaRun topology₀ brain₀ topology brain) :
      QuotaRun topology₀ brain₀ (topology.adoptBudget domainName budgetW) brain
  | release {topology : PDNTopology} {brain : QuotaAwarePRSBrain} (domainName : String)
      (before : QuotaRun topology₀ brain₀ topology brain) :
      QuotaRun topology₀ brain₀ (topology.releaseBudget domainName) brain
  | decide {topology : PDNTopology} {brain next : QuotaAwarePRSBrain} {domainName : String}
      {state : DomainState} {now : ℚ} {decision : BrainDecision}
      (before : QuotaRun topology₀ brain₀ topology brain)
      (call : brain.decide topology domainName state now = .ok (decision, next)) :
      QuotaRun topology₀ brain₀ topology next

/-- A history keeps the quota, the validity of the cache and the domains of the topology. -/
theorem QuotaRun.kept {topology₀ topology : PDNTopology} {brain₀ brain : QuotaAwarePRSBrain}
    (run : QuotaRun topology₀ brain₀ topology brain)
    (fresh : QuotaAwarePRSBrain.CacheOk brain₀.quota.domainName brain₀.tenantBrains) :
    topology.domains = topology₀.domains ∧ brain.quota = brain₀.quota ∧
      QuotaAwarePRSBrain.CacheOk brain₀.quota.domainName brain.tenantBrains := by
  induction run with
  | init => exact ⟨rfl, rfl, fresh⟩
  | adopt _ _ _ ih => exact ih
  | release _ _ ih => exact ih
  | @decide topology brain next domainName state now decision _ call ih =>
    obtain ⟨domains, quota, cacheOk⟩ := ih
    refine ⟨domains, ?_⟩
    rw [← quota] at cacheOk ⊢
    cases present : topology.domain domainName with
    | error exc =>
      unfold QuotaAwarePRSBrain.decide at call
      rw [present] at call
      cases call
    | ok found =>
      obtain ⟨_, _, _, again, sameQuota, nextOk, _⟩ := brain.decide_spec state now cacheOk present
      rw [call] at again
      cases again
      exact ⟨sameQuota, nextOk⟩

/-- **Quota enforcement against the power actually available.** After any history of budget
adoptions, releases and decisions, a decision stays within `domain_budget_w · max(1, Σ pct)` on
every telemetry on which what the static budget lets out does. A GPU that no tenant owns shows that
the static budget itself must be within that bound: alone, it is given all of it. -/
theorem quota_total_le_effective {topology₀ topology : PDNTopology}
    {brain₀ brain : QuotaAwarePRSBrain} (run : QuotaRun topology₀ brain₀ topology brain)
    (fresh : brain₀.tenantBrains = .empty) {domainName : String} {found : PowerDomain}
    (present : topology.domain domainName = .ok found) (positive : 0 < found.budgetW) :
    ∃ effective, topology.domainBudgetW domainName = .ok effective ∧
      (∀ state now,
        brain.handedOut domainName found.budgetW state ≤ effective * max 1 brain.quota.totalPct →
        ∃ decision next, brain.decide topology domainName state now = .ok (decision, next) ∧
          decision.total ≤ effective * max 1 brain.quota.totalPct) ∧
      (found.budgetW ≤ effective → ∀ state now,
        ∃ decision next, brain.decide topology domainName state now = .ok (decision, next) ∧
          decision.total ≤ effective * max 1 brain.quota.totalPct) ∧
      ∀ gpu, (∀ tenant ∈ brain.quota.tenants,
          tenant.domainName = domainName → gpu ∉ tenant.gpuIndices) →
        effective * max 1 brain.quota.totalPct < found.budgetW → ∀ now,
        ∃ decision next, brain.decide topology domainName
            (QuotaAwarePRSBrain.soloState domainName gpu found.budgetW) now =
              .ok (decision, next) ∧
          effective * max 1 brain.quota.totalPct < decision.total := by
  obtain ⟨effective, answer⟩ := PDNTopology.domainBudgetW_isOk present
  obtain ⟨_, quota, cacheOk⟩ := run.kept (.of_fresh fresh)
  rw [← quota] at cacheOk
  have bounded : ∀ state now,
      brain.handedOut domainName found.budgetW state ≤ effective * max 1 brain.quota.totalPct →
      ∃ decision next, brain.decide topology domainName state now = .ok (decision, next) ∧
        decision.total ≤ effective * max 1 brain.quota.totalPct := by
    intro state now within
    obtain ⟨decision, next, call, total⟩ :=
      brain.decide_total_le_handedOut state now cacheOk present positive
    exact ⟨decision, next, call, total.trans within⟩
  refine ⟨effective, answer, bounded, fun covered state now => bounded state now ?_, ?_⟩
  · calc brain.handedOut domainName found.budgetW state
        ≤ found.budgetW * max 1 brain.quota.totalPct :=
          brain.handedOut_le domainName positive state
      _ ≤ effective * max 1 brain.quota.totalPct :=
          mul_le_mul_of_nonneg_right covered (zero_le_one.trans (le_max_left _ _))
  · intro gpu unowned above now
    obtain ⟨decision, next, call, total⟩ := brain.decide_solo now present unowned positive
    exact ⟨decision, next, call, total ▸ above⟩

/-! ### A decision over the effective budget

One tenant owns the only GPU of a 1000 W domain whose node takes 400 W for itself. -/

def overheadTopology : PDNTopology where
  pdus := .ofList [("pdu-A", { name := "pdu-A", capacityW := 10000 })]
  domains := .ofList [("domain-0", { name := "domain-0", budgetW := 1000, gpuIndices := [0],
                                     pduName := "pdu-A", nodeOverheadW := 400 })]

def wholeQuota : QuotaConfig where
  domainName := "domain-0"
  tenants := [⟨"tenant-a", "domain-0", [0], 1, by norm_num, le_rfl⟩]

def wholeBrain : QuotaAwarePRSBrain where
  quota := wholeQuota
  validated := by decide +kernel
  prsParams := defaultParams

def busyState : DomainState where
  domainName := "domain-0"
  gpuDraws := .ofList [(0, 900)]
  gpuCaps := .ofList [(0, 1000)]
  gpuMaxCaps := .ofList [(0, 1000)]
  ts := 0

/-- A freshly built brain hands out 1000 W where 600 W are available. -/
theorem quota_total_exceeds_effective :
    overheadTopology.domainBudgetW "domain-0" = .ok 600 ∧ wholeBrain.quota.totalPct = 1 ∧
      ∃ decision next,
        wholeBrain.decide overheadTopology "domain-0" busyState 0 = .ok (decision, next) ∧
          decision.total = 1000 ∧
          600 * max 1 wholeBrain.quota.totalPct < decision.total := by
  refine ⟨by decide +kernel, by decide +kernel, ?_⟩
  refine ⟨_, _, rfl, ?_, ?_⟩ <;> decide +kernel

/-- The bound once a coordinator hands the domain 1500 W: 1100 W are then available, more than the
static 1000 W. -/
theorem quota_total_le_effective_adopted :
    ∃ effective, (overheadTopology.adoptBudget "domain-0" 1500).domainBudgetW "domain-0" =
        .ok effective ∧ effective = 1100 ∧
      ∀ state now, ∃ decision next,
        wholeBrain.decide (overheadTopology.adoptBudget "domain-0" 1500) "domain-0" state now =
            .ok (decision, next) ∧
          decision.total ≤ effective * max 1 wholeBrain.quota.totalPct := by
  have run : QuotaRun overheadTopology wholeBrain
      (overheadTopology.adoptBudget "domain-0" 1500) wholeBrain := .adopt _ _ .init
  have present : (overheadTopology.adoptBudget "domain-0" 1500).domain "domain-0" = .ok
      { name := "domain-0", budgetW := 1000, gpuIndices := [0],
        pduName := "pdu-A", nodeOverheadW := 400 } := rfl
  obtain ⟨effective, answer, _, covered, _⟩ :=
    quota_total_le_effective run rfl present (by norm_num)
  have available : (overheadTopology.adoptBudget "domain-0" 1500).domainBudgetW "domain-0" =
      .ok 1100 := by decide +kernel
  have same : effective = 1100 := Except.ok.inj (answer.symm.trans available)
  exact ⟨effective, answer, same, covered (same ▸ by norm_num)⟩

end Opendps.Brain
