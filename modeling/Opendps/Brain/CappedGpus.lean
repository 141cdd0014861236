/-
**Which GPUs a decision caps, whatever the brain.**

The controller pushes whatever dictionary a brain returns. Every brain of the family caps GPUs that the
telemetry shows and no other, and it caps all of them, with one exception: the quota brain leaves out a
GPU of a tenant that reports no hardware maximum (`LeavesOut`). `mem_keys_decide` is both directions at
once, for any brain after any history.

`decide_isOk` says when a call goes through: with a budget for the domain, always, if the sub-topologies
that a quota brain keeps are those of its own domain (`Sound`), which they stay. The exception is a quota
brain whose parameters PRS refuses: it raises where a tenant's GPU shows a maximum (`Refuses`,
`decide_of_refuses`).
-/

import Opendps.Brain.Family
import Opendps.Brain.JobBoost
import Opendps.Brain.PriorityShares
import Opendps.Brain.ThermalPrs

namespace Opendps.Brain

open Opendps.Lib Opendps.Pdn

/-! ### The walk over the tenants -/

namespace QuotaAwarePRSBrain

variable {built : Except PyError PRSBrain} {domainName : String} {budget : ℚ} {state : DomainState}

/-- A GPU is a tenant's of the domain. -/
def OwnedBy (domainName : String) (tenants : List TenantQuota) (gpu : GpuIndex) : Prop :=
  ∃ tenant ∈ tenants, tenant.domainName = domainName ∧ gpu ∈ tenant.gpuIndices

/-- What the walk has reserved and capped: the tenants' GPUs that are shown, and of these the ones with
a maximum. -/
structure Walked (domainName : String) (state : DomainState) (processed : List TenantQuota)
    (pass : QuotaPass) : Prop where
  reserved : ∀ gpu, gpu ∈ pass.assignedGpus ↔
    OwnedBy domainName processed gpu ∧ gpu ∈ state.gpuDraws.keys
  capped : ∀ gpu, gpu ∈ pass.allCaps.keys ↔
    OwnedBy domainName processed gpu ∧ gpu ∈ state.gpuDraws.keys ∧ gpu ∈ state.gpuMaxCaps.keys

theorem ownedBy_append_singleton {tenants : List TenantQuota} {tenant : TenantQuota}
    {gpu : GpuIndex} : OwnedBy domainName (tenants ++ [tenant]) gpu ↔
      OwnedBy domainName tenants gpu ∨ (tenant.domainName = domainName ∧ gpu ∈ tenant.gpuIndices) := by
  simp only [OwnedBy, List.mem_append, List.mem_singleton]
  constructor
  · rintro ⟨other, inside | rfl, owns⟩
    · exact .inl ⟨other, inside, owns⟩
    · exact .inr owns
  · rintro (⟨other, inside, owns⟩ | owns)
    · exact ⟨other, .inl inside, owns⟩
    · exact ⟨tenant, .inr rfl, owns⟩

theorem Walked.start (domainName : String) (state : DomainState)
    (cache : Dict (String × List GpuIndex) TenantBrain) :
    Walked domainName state [] { tenantBrains := cache } := by
  constructor <;> simp [OwnedBy]

/-- The caps of one tenant are those of its GPUs that are shown with a maximum. -/
theorem mem_keys_tenantCaps {brain next : PRSBrain} {topology : PDNTopology} {subDomain : String}
    {tenant : TenantQuota} {tenantGpus : List GpuIndex} {tenantBudget : ℚ}
    {decision : BrainDecision}
    (call : brain.decide topology subDomain (subState domainName state tenant tenantGpus) =
      .ok (decision, next)) (gpu : GpuIndex) :
    gpu ∈ (renormalise tenantBudget decision.caps).keys ↔ gpu ∈ tenantGpus := by
  obtain ⟨subBudget, answer⟩ := PRSBrain.budget_of_decide call
  rw [keys_renormalise, (PRSBrain.decide_ok answer call).1, Tick.mem_keys_caps]
  exact Dict.mem_keys_ofKeys

/-- **One round of the walk.** -/
theorem Walked.step {processed : List TenantQuota} {pass next : QuotaPass} {tenant : TenantQuota}
    (walked : Walked domainName state processed pass)
    (ran : tenantRound built domainName budget state pass tenant = .ok next) :
    Walked domainName state (processed ++ [tenant]) next := by
  unfold tenantRound at ran
  by_cases elsewhere : tenant.domainName ≠ domainName
  · rw [if_pos elsewhere] at ran
    cases ran
    constructor <;> intro gpu <;> rw [ownedBy_append_singleton]
    · simp [walked.reserved, elsewhere]
    · simp [walked.capped, elsewhere]
  rw [if_neg elsewhere] at ran
  have here : tenant.domainName = domainName := not_not.mp elsewhere
  -- both lists are cut out of the tenant's own
  have present : ∀ gpu, gpu ∈ (tenant.gpuIndices.filter fun gpu => state.gpuDraws.contains gpu) ↔
      gpu ∈ tenant.gpuIndices ∧ gpu ∈ state.gpuDraws.keys := fun gpu => by
    rw [List.mem_filter, Dict.contains_iff]
  have active : ∀ gpu, gpu ∈ ((tenant.gpuIndices.filter fun gpu =>
      state.gpuDraws.contains gpu).filter fun gpu => state.gpuMaxCaps.contains gpu) ↔
      (gpu ∈ tenant.gpuIndices ∧ gpu ∈ state.gpuDraws.keys) ∧ gpu ∈ state.gpuMaxCaps.keys :=
    fun gpu => by rw [List.mem_filter, present, Dict.contains_iff]
  have reserved : ∀ gpu, gpu ∈ pass.assignedGpus ++ (tenant.gpuIndices.filter fun gpu =>
      state.gpuDraws.contains gpu) ↔
        OwnedBy domainName (processed ++ [tenant]) gpu ∧ gpu ∈ state.gpuDraws.keys := fun gpu => by
    rw [List.mem_append, walked.reserved, present, ownedBy_append_singleton]
    tauto
  by_cases none : ((tenant.gpuIndices.filter fun gpu => state.gpuDraws.contains gpu).filter
      fun gpu => state.gpuMaxCaps.contains gpu) = []
  · simp only [none, if_true, Except.ok.injEq] at ran
    subst ran
    refine ⟨reserved, fun gpu => ?_⟩
    have noGpu := active gpu
    rw [none] at noGpu
    have unshown := mt noGpu.mpr List.not_mem_nil
    rw [ownedBy_append_singleton]
    show gpu ∈ pass.allCaps.keys ↔ _
    rw [walked.capped]
    tauto
  · simp only [none, if_false] at ran
    split at ran
    · cases ran
    split at ran
    · cases ran
    · next decision brain call =>
      cases ran
      refine ⟨reserved, fun gpu => ?_⟩
      rw [Dict.update, Dict.mem_keys_setAll, ownedBy_append_singleton, walked.capped]
      show _ ∨ gpu ∈ (renormalise _ decision.caps).keys ↔ _
      rw [mem_keys_tenantCaps call, active]
      tauto

/-- The whole walk. -/
theorem Walked.walk {tenants processed : List TenantQuota} {pass last : QuotaPass}
    (walked : Walked domainName state processed pass)
    (ran : tenants.foldlM (tenantRound built domainName budget state) pass = .ok last) :
    Walked domainName state (processed ++ tenants) last := by
  induction tenants generalizing processed pass with
  | nil =>
    cases ran
    rw [List.append_nil]
    exact walked
  | cons tenant rest ih =>
    rw [List.foldlM_cons] at ran
    obtain ⟨next, first, later⟩ := ok_of_bind ran
    rw [List.append_cons]
    exact ih (walked.step first) later

/-- Once the GPUs of no tenant have their share, the GPUs with a cap are those shown, but for a tenant's
GPU without a maximum. -/
theorem Walked.mem_keys_shareRest {tenants : List TenantQuota} {pass : QuotaPass}
    (walked : Walked domainName state tenants pass) (budget : ℚ) (gpu : GpuIndex) :
    gpu ∈ (shareRest budget state pass).keys ↔ gpu ∈ state.gpuDraws.keys ∧
      ¬ (OwnedBy domainName tenants gpu ∧ gpu ∉ state.gpuMaxCaps.keys) := by
  have unassigned : ∀ other, other ∈ (state.gpuDraws.keys.filter fun gpu =>
      Decidable.decide (gpu ∉ pass.assignedGpus)) ↔
        other ∈ state.gpuDraws.keys ∧ ¬ OwnedBy domainName tenants other := fun other => by
    rw [List.mem_filter, decide_eq_true_eq, walked.reserved]
    tauto
  unfold shareRest
  simp only
  split
  · next none =>
    have owned := mt (unassigned gpu).mpr (none ▸ List.not_mem_nil)
    rw [walked.capped]
    tauto
  · rw [Dict.mem_keys_setAll, walked.capped, List.map_map]
    have listed : gpu ∈ List.map (Prod.fst ∘ fun gpu => (gpu, min (max 0 (budget -
          pass.usedBudget) / ((state.gpuDraws.keys.filter fun gpu =>
            Decidable.decide (gpu ∉ pass.assignedGpus)).length : ℕ))
          (state.gpuMaxCaps.getD gpu (max 0 (budget - pass.usedBudget) /
            ((state.gpuDraws.keys.filter fun gpu =>
              Decidable.decide (gpu ∉ pass.assignedGpus)).length : ℕ)))))
        (state.gpuDraws.keys.filter fun gpu => Decidable.decide (gpu ∉ pass.assignedGpus)) ↔
          gpu ∈ state.gpuDraws.keys ∧ ¬ OwnedBy domainName tenants gpu := by
      rw [← unassigned gpu]
      simp only [List.mem_map, Function.comp_apply, exists_eq_right]
    rw [listed]
    tauto

/-- **The GPUs a quota decision caps**: those shown, but for a tenant's GPU without a maximum. -/
theorem mem_keys_decide {self next : QuotaAwarePRSBrain} {topology : PDNTopology} {now : ℚ}
    {decision : BrainDecision}
    (call : self.decide topology domainName state now = .ok (decision, next)) (gpu : GpuIndex) :
    gpu ∈ decision.caps.keys ↔ gpu ∈ state.gpuDraws.keys ∧
      ¬ (OwnedBy domainName self.quota.tenants gpu ∧ gpu ∉ state.gpuMaxCaps.keys) := by
  obtain ⟨domain, _, rest⟩ := ok_of_bind call
  obtain ⟨pass, ran, returned⟩ := ok_of_bind rest
  cases returned
  exact ((Walked.start domainName state self.tenantBrains).walk ran).mem_keys_shareRest _ gpu

end QuotaAwarePRSBrain

/-! ### Parameters that PRS refuses -/

namespace RefusedQuotaBrain

open QuotaAwarePRSBrain

variable {refusal : PyError} {domainName : String} {budget : ℚ} {state : DomainState}

theorem mem_keys_decide {self next : RefusedQuotaBrain} {topology : PDNTopology} {now : ℚ}
    {decision : BrainDecision}
    (call : self.decide topology domainName state now = .ok (decision, next)) (gpu : GpuIndex) :
    gpu ∈ decision.caps.keys ↔ gpu ∈ state.gpuDraws.keys ∧
      ¬ (OwnedBy domainName self.quota.tenants gpu ∧ gpu ∉ state.gpuMaxCaps.keys) := by
  obtain ⟨domain, _, rest⟩ := ok_of_bind call
  obtain ⟨pass, ran, returned⟩ := ok_of_bind rest
  cases returned
  exact ((Walked.start domainName state .empty).walk ran).mem_keys_shareRest _ gpu

/-- A tenant needs a brain for its GPUs. -/
def NeedsBrain (domainName : String) (state : DomainState) (tenant : TenantQuota) : Prop :=
  tenant.domainName = domainName ∧ ∃ gpu ∈ tenant.gpuIndices,
    gpu ∈ state.gpuDraws.keys ∧ gpu ∈ state.gpuMaxCaps.keys

/-- **One round**: it raises where a tenant needs a brain, and else leaves it at that. -/
theorem tenantRound_refused {pass : QuotaPass} (none : pass.tenantBrains = .empty)
    (tenant : TenantQuota) :
    (NeedsBrain domainName state tenant →
      tenantRound (.error refusal) domainName budget state pass tenant = .error refusal) ∧
    (¬ NeedsBrain domainName state tenant → ∃ next,
      tenantRound (.error refusal) domainName budget state pass tenant = .ok next ∧
        next.tenantBrains = .empty) := by
  have active : ((tenant.gpuIndices.filter fun gpu => state.gpuDraws.contains gpu).filter
      fun gpu => state.gpuMaxCaps.contains gpu) = [] ↔
        ¬ ∃ gpu ∈ tenant.gpuIndices, gpu ∈ state.gpuDraws.keys ∧ gpu ∈ state.gpuMaxCaps.keys := by
    simp only [List.eq_nil_iff_forall_not_mem, List.mem_filter, Dict.contains_iff]
    push Not
    tauto
  unfold tenantRound
  by_cases elsewhere : tenant.domainName ≠ domainName
  · rw [if_pos elsewhere]
    exact ⟨fun needs => absurd needs.1 elsewhere, fun _ => ⟨pass, rfl, none⟩⟩
  rw [if_neg elsewhere]
  have here : tenant.domainName = domainName := not_not.mp elsewhere
  simp only
  by_cases idle : ((tenant.gpuIndices.filter fun gpu => state.gpuDraws.contains gpu).filter
      fun gpu => state.gpuMaxCaps.contains gpu) = []
  · rw [if_pos idle]
    exact ⟨fun needs => absurd needs.2 (active.mp idle), fun _ => ⟨_, rfl, none⟩⟩
  · rw [if_neg idle, none]
    exact ⟨fun _ => rfl, fun fine => absurd ⟨here, not_not.mp (mt active.mpr idle)⟩ fine⟩

/-- **The walk** raises where some tenant needs a brain, and goes through where none does. -/
theorem walk_refused {tenants : List TenantQuota} {pass : QuotaPass}
    (none : pass.tenantBrains = .empty) :
    ((∃ tenant ∈ tenants, NeedsBrain domainName state tenant) →
      tenants.foldlM (tenantRound (.error refusal) domainName budget state) pass = .error refusal) ∧
    ((∀ tenant ∈ tenants, ¬ NeedsBrain domainName state tenant) →
      ∃ last, tenants.foldlM (tenantRound (.error refusal) domainName budget state) pass = .ok last) := by
  induction tenants generalizing pass with
  | nil => exact ⟨fun ⟨_, inside, _⟩ => absurd inside List.not_mem_nil, fun _ => ⟨pass, rfl⟩⟩
  | cons tenant rest ih =>
    obtain ⟨raises, passes⟩ := @tenantRound_refused refusal domainName budget state pass none tenant
    rw [List.foldlM_cons]
    by_cases needs : NeedsBrain domainName state tenant
    · rw [raises needs]
      exact ⟨fun _ => rfl, fun all => absurd needs (all tenant List.mem_cons_self)⟩
    · obtain ⟨next, ran, still⟩ := passes needs
      rw [ran]
      refine ⟨fun ⟨other, inside, wants⟩ => (ih still).1 ⟨other, ?_, wants⟩, fun all =>
        (ih still).2 fun other inside => all other (List.mem_cons_of_mem _ inside)⟩
      rcases List.mem_cons.mp inside with rfl | later
      · exact absurd wants needs
      · exact later

section Decide

variable {topology : PDNTopology} {domain : PowerDomain}

theorem decide_of_idle (self : RefusedQuotaBrain) (present : topology.domain domainName = .ok domain)
    (idle : ∀ tenant ∈ self.quota.tenants, ¬ NeedsBrain domainName state tenant) (now : ℚ) :
    ∃ decision, self.decide topology domainName state now = .ok (decision, self) := by
  obtain ⟨last, walked⟩ := (@walk_refused self.refusal domainName domain.budgetW state
    self.quota.tenants { tenantBrains := .empty } rfl).2 idle
  exact ⟨_, bind_of_ok present (bind_of_ok walked rfl)⟩

theorem decide_of_needs (self : RefusedQuotaBrain) (present : topology.domain domainName = .ok domain)
    (needs : ∃ tenant ∈ self.quota.tenants, NeedsBrain domainName state tenant) (now : ℚ) :
    self.decide topology domainName state now = .error self.refusal := by
  have walked := (@walk_refused self.refusal domainName domain.budgetW state self.quota.tenants
    { tenantBrains := .empty } rfl).1 needs
  refine bind_of_ok present ?_
  simp only [walked]
  rfl

end Decide

end RefusedQuotaBrain

/-! ### Every brain -/

namespace AnyBrain

variable {self next : AnyBrain} {topology : PDNTopology} {domainName : String} {state : DomainState}
  {around : Surroundings} {decision : BrainDecision}

/-- The GPUs that are shown and get no cap: with the quota brain, a tenant's GPU without a maximum. -/
def LeavesOut (self : AnyBrain) (domainName : String) (state : DomainState) (gpu : GpuIndex) : Prop :=
  match self with
  | quotaPrs brain =>
    QuotaAwarePRSBrain.OwnedBy domainName brain.quota.tenants gpu ∧ gpu ∉ state.gpuMaxCaps.keys
  | refusedQuotaPrs brain =>
    QuotaAwarePRSBrain.OwnedBy domainName brain.quota.tenants gpu ∧ gpu ∉ state.gpuMaxCaps.keys
  | _ => False

theorem mem_keys_prs {brain after : PRSBrain}
    (call : brain.decide topology domainName state = .ok (decision, after)) (gpu : GpuIndex) :
    gpu ∈ decision.caps.keys ↔ gpu ∈ state.gpuDraws.keys := by
  obtain ⟨budget, answer⟩ := PRSBrain.budget_of_decide call
  rw [(PRSBrain.decide_ok answer call).1]
  exact Tick.mem_keys_caps

/-- What the fallback decides. -/
theorem mem_keys_fallBack {brain after : CVXPYBrain}
    (call : brain.fallBack topology domainName state = .ok (decision, after)) (gpu : GpuIndex) :
    gpu ∈ decision.caps.keys ↔ gpu ∈ state.gpuDraws.keys := by
  obtain ⟨⟨made, fallback⟩, inner, returned⟩ := ok_of_bind call
  cases returned
  exact mem_keys_prs inner gpu

/-- What the solver path decides, by a point or by its fallback. -/
theorem mem_keys_decideCvxpy {brain after : CVXPYBrain} {solve : Solver}
    (call : brain.decideCvxpy topology domainName state solve = (.ok decision, after))
    (gpu : GpuIndex) : gpu ∈ decision.caps.keys ↔ gpu ∈ state.gpuDraws.keys := by
  unfold CVXPYBrain.decideCvxpy at call
  split at call
  · cases call
  · simp only at call
    split at call
    · cases call
    · split at call
      · cases call
      · split at call
        · cases call
          exact Dict.mem_keys_ofKeys.trans LpTick.mem_gpus
        · split at call
          · cases call
          · next result fallback inner =>
            cases call
            exact mem_keys_prs inner gpu

theorem mem_keys_cvxpy {brain after : CVXPYBrain} {cp : Option Solver}
    (call : brain.decide topology domainName state cp = .ok (decision, after)) (gpu : GpuIndex) :
    gpu ∈ decision.caps.keys ↔ gpu ∈ state.gpuDraws.keys := by
  cases cp with
  | none => exact mem_keys_fallBack call gpu
  | some solve =>
    unfold CVXPYBrain.decide at call
    simp only at call
    split at call
    · next solved =>
      cases call
      exact mem_keys_decideCvxpy solved gpu
    · exact mem_keys_fallBack call gpu

theorem mem_keys_priority {brain after : PriorityTieredPRSBrain}
    (call : brain.decide topology domainName state = .ok (decision, after)) (gpu : GpuIndex) :
    gpu ∈ decision.caps.keys ↔ gpu ∈ state.gpuDraws.keys := by
  obtain ⟨⟨_, _⟩, inner, _⟩ := ok_of_bind call
  obtain ⟨budget, answer⟩ := PRSBrain.budget_of_decide inner
  rcases PriorityTieredPRSBrain.decide_cases answer call with ⟨_, caps⟩ | ⟨_, _, caps⟩
  · rw [caps]
    exact Tick.mem_keys_caps
  · have inside : brain.contended state (brain.prs.tick budget domainName state).caps ⊆
        (brain.prs.tick budget domainName state).caps.keys := fun _ => List.mem_of_mem_filter
    have arbitrated := @PriorityTieredPRSBrain.keys_arbitrate_perm brain budget state _ _ inside
    rw [caps]
    unfold PriorityTieredPRSBrain.scaleDown
    simp only
    split
    · rw [Dict.keys_mapVals]
      exact arbitrated.mem_iff.trans Tick.mem_keys_caps
    · exact arbitrated.mem_iff.trans Tick.mem_keys_caps

/-- **The GPUs a decision caps**: those the telemetry shows, but for the ones left out. -/
theorem mem_keys_decide (call : self.decide topology domainName state around = .ok (decision, next))
    (gpu : GpuIndex) : gpu ∈ decision.caps.keys ↔
      gpu ∈ state.gpuDraws.keys ∧ ¬ self.LeavesOut domainName state gpu := by
  cases self with
  | dpm brain =>
    obtain ⟨made, inner, returned⟩ := ok_of_bind call
    cases returned
    obtain ⟨budget, answer, _⟩ := ok_of_bind inner
    rw [DPMBrain.decide_eq answer, Except.ok.injEq] at inner
    subst inner
    simp only [LeavesOut, not_false_eq_true, and_true]
    split
    · rw [DPMBrain.underBudgetCaps, Dict.keys_mapVals]
    · unfold DPMBrain.overBudgetCaps
      split <;> simp only [Dict.keys_mapVals]
  | prs brain =>
    obtain ⟨⟨made, after⟩, inner, returned⟩ := ok_of_bind call
    cases returned
    simp only [LeavesOut, not_false_eq_true, and_true]
    exact mem_keys_prs inner gpu
  | cvxpy brain =>
    obtain ⟨⟨made, after⟩, inner, returned⟩ := ok_of_bind call
    cases returned
    simp only [LeavesOut, not_false_eq_true, and_true]
    exact mem_keys_cvxpy inner gpu
  | jobPrs brain =>
    obtain ⟨⟨made, after⟩, inner, returned⟩ := ok_of_bind call
    cases returned
    obtain ⟨_, prs, _⟩ := ok_of_bind inner
    obtain ⟨budget, answer⟩ := PRSBrain.budget_of_decide prs
    simp only [LeavesOut, not_false_eq_true, and_true]
    exact (Dict.mem_keys_of_get?_map (JobAwarePRSBrain.decide_ok answer inner).1).trans
      Tick.mem_keys_caps
  | quotaPrs brain =>
    obtain ⟨⟨made, after⟩, inner, returned⟩ := ok_of_bind call
    cases returned
    exact QuotaAwarePRSBrain.mem_keys_decide inner gpu
  | refusedQuotaPrs brain =>
    obtain ⟨⟨made, after⟩, inner, returned⟩ := ok_of_bind call
    cases returned
    exact RefusedQuotaBrain.mem_keys_decide inner gpu
  | priorityPrs brain =>
    obtain ⟨⟨made, after⟩, inner, returned⟩ := ok_of_bind call
    cases returned
    simp only [LeavesOut, not_false_eq_true, and_true]
    exact mem_keys_priority inner gpu
  | thermalPrs brain =>
    obtain ⟨⟨made, after⟩, inner, returned⟩ := ok_of_bind call
    cases returned
    obtain ⟨_, prs, _⟩ := ok_of_bind inner
    obtain ⟨budget, answer⟩ := PRSBrain.budget_of_decide prs
    simp only [LeavesOut, not_false_eq_true, and_true]
    exact (Dict.mem_keys_of_get?_map (ThermalAwarePRSBrain.decide_ok answer inner).1).trans
      Tick.mem_keys_caps

/-- Where every maximum is known, exactly the GPUs that are shown are capped. -/
theorem mem_keys_decide_of_known
    (call : self.decide topology domainName state around = .ok (decision, next))
    (known : ∀ gpu ∈ state.gpuDraws.keys, gpu ∈ state.gpuMaxCaps.keys) (gpu : GpuIndex) :
    gpu ∈ decision.caps.keys ↔ gpu ∈ state.gpuDraws.keys := by
  rw [mem_keys_decide call]
  refine and_iff_left_of_imp fun shown left => ?_
  cases self with
  | quotaPrs brain => exact left.2 (known gpu shown)
  | refusedQuotaPrs brain => exact left.2 (known gpu shown)
  | _ => exact left

/-! ### When a call goes through -/

/-- The sub-topologies a quota brain has cached know their domains. -/
def Sound : AnyBrain → Prop
  | quotaPrs brain => QuotaAwarePRSBrain.CacheOk brain.quota.domainName brain.tenantBrains
  | _ => True

/-- A brain that cannot serve a GPU: a quota brain with refused parameters, where a tenant owns it. -/
def RefusesGpu (self : AnyBrain) (domainName : String) (gpu : GpuIndex) : Prop :=
  match self with
  | refusedQuotaPrs brain => QuotaAwarePRSBrain.OwnedBy domainName brain.quota.tenants gpu
  | _ => False

/-- Some GPU that is shown with a maximum cannot be served. -/
def Refuses (self : AnyBrain) (domainName : String) (state : DomainState) : Prop :=
  ∃ gpu ∈ state.gpuDraws.keys, gpu ∈ state.gpuMaxCaps.keys ∧ self.RefusesGpu domainName gpu

/-- What a brain raises that refuses to serve. -/
def refusal : AnyBrain → Option PyError
  | refusedQuotaPrs brain => some brain.refusal
  | _ => none

theorem refuses_iff_needsBrain {brain : RefusedQuotaBrain} :
    (refusedQuotaPrs brain).Refuses domainName state ↔
      ∃ tenant ∈ brain.quota.tenants, RefusedQuotaBrain.NeedsBrain domainName state tenant := by
  constructor
  · rintro ⟨gpu, drawn, known, tenant, inside, here, owned⟩
    exact ⟨tenant, inside, here, gpu, owned, drawn, known⟩
  · rintro ⟨tenant, inside, here, gpu, owned, drawn, known⟩
    exact ⟨gpu, drawn, known, tenant, inside, here, owned⟩

/-- The solver path or its fallback decides. -/
theorem decide_isOk_cvxpy (brain : CVXPYBrain) (cp : Option Solver) {budget : ℚ}
    (answer : topology.domainBudgetW domainName = .ok budget) (state : DomainState) :
    ∃ decision next, brain.decide topology domainName state cp = .ok (decision, next) := by
  have falls : ∀ brain : CVXPYBrain, ∃ decision next,
      brain.fallBack topology domainName state = .ok (decision, next) := fun brain => by
    obtain ⟨decision, after, inner⟩ := brain.fallback.decide_isOk state answer
    exact ⟨decision, _, by rw [CVXPYBrain.fallBack, inner]; rfl⟩
  cases cp with
  | none => exact falls brain
  | some solve =>
    unfold CVXPYBrain.decide
    simp only
    split
    · exact ⟨_, _, rfl⟩
    · next after _ => exact falls after

/-- **A call goes through when the domain has a budget**, if no GPU is refused, and leaves the brain fit
for the next one. -/
theorem decide_isOk (sound : self.Sound) {domain : PowerDomain}
    (present : topology.domain domainName = .ok domain)
    (serves : ¬ self.Refuses domainName state) (around : Surroundings) : ∃ decision next,
      self.decide topology domainName state around = .ok (decision, next) ∧ next.Sound := by
  obtain ⟨budget, answer⟩ := PDNTopology.domainBudgetW_isOk present
  cases self with
  | dpm brain =>
    have decided := @DPMBrain.decide_eq brain topology domainName state budget answer
    exact ⟨_, .dpm brain, by rw [AnyBrain.decide, decided]; rfl, trivial⟩
  | prs brain =>
    obtain ⟨decision, after, inner⟩ := brain.decide_isOk state answer
    exact ⟨decision, .prs after, by simp only [AnyBrain.decide, inner]; rfl, trivial⟩
  | cvxpy brain =>
    obtain ⟨decision, after, inner⟩ := decide_isOk_cvxpy brain around.cp answer state
    exact ⟨decision, .cvxpy after, by simp only [AnyBrain.decide, inner]; rfl, trivial⟩
  | jobPrs brain =>
    obtain ⟨decision, after, inner⟩ := brain.decide_isOk state around.isGpuBusy answer
    exact ⟨decision, .jobPrs after, by simp only [AnyBrain.decide, inner]; rfl, trivial⟩
  | quotaPrs brain =>
    obtain ⟨decision, after, pass, inner, sameQuota, cacheOk, _⟩ :=
      brain.decide_spec state around.now sound present
    refine ⟨decision, .quotaPrs after, by simp only [AnyBrain.decide, inner]; rfl, ?_⟩
    rw [Sound, sameQuota]
    exact cacheOk
  | refusedQuotaPrs brain =>
    have idle : ∀ tenant ∈ brain.quota.tenants,
        ¬ RefusedQuotaBrain.NeedsBrain domainName state tenant := fun tenant inside needs =>
      serves (refuses_iff_needsBrain.mpr ⟨tenant, inside, needs⟩)
    obtain ⟨decision, inner⟩ := brain.decide_of_idle present idle around.now
    exact ⟨decision, .refusedQuotaPrs brain, by simp only [AnyBrain.decide, inner]; rfl, trivial⟩
  | priorityPrs brain =>
    obtain ⟨decision, after, inner⟩ := brain.decide_isOk state answer
    exact ⟨decision, .priorityPrs after, by simp only [AnyBrain.decide, inner]; rfl, trivial⟩
  | thermalPrs brain =>
    obtain ⟨decision, after, inner⟩ := brain.decide_isOk state answer
    exact ⟨decision, .thermalPrs after, by simp only [AnyBrain.decide, inner]; rfl, trivial⟩

/-- **A call raises the refusal** where a GPU is refused. -/
theorem decide_of_refuses {domain : PowerDomain} (present : topology.domain domainName = .ok domain)
    (refuses : self.Refuses domainName state) (around : Surroundings) : ∃ exc,
      self.refusal = some exc ∧ self.decide topology domainName state around = .error exc := by
  cases self with
  | refusedQuotaPrs brain =>
    have inner := brain.decide_of_needs present (refuses_iff_needsBrain.mp refuses) around.now
    exact ⟨brain.refusal, rfl, by simp only [AnyBrain.decide, inner]; rfl⟩
  | _ =>
    obtain ⟨_, _, _, never⟩ := refuses
    exact never.elim

/-- A call leaves what is refused. -/
theorem refusal_decide (call : self.decide topology domainName state around = .ok (decision, next)) :
    next.refusal = self.refusal ∧ ∀ name gpu, next.RefusesGpu name gpu ↔ self.RefusesGpu name gpu := by
  cases self with
  | refusedQuotaPrs brain =>
    obtain ⟨⟨made, after⟩, inner, returned⟩ := ok_of_bind call
    obtain ⟨_, _, rest⟩ := ok_of_bind inner
    obtain ⟨_, _, same⟩ := ok_of_bind rest
    cases same
    cases returned
    exact ⟨rfl, fun _ _ => .rfl⟩
  | _ =>
    obtain ⟨_, _, returned⟩ := ok_of_bind call
    cases returned
    exact ⟨rfl, fun _ _ => .rfl⟩

/-- A brain stays fit whether or not a call goes through. -/
theorem sound_decide (sound : self.Sound)
    (call : self.decide topology domainName state around = .ok (decision, next)) : next.Sound := by
  cases present : topology.domain domainName with
  | ok domain =>
    by_cases refuses : self.Refuses domainName state
    · obtain ⟨exc, _, raised⟩ := decide_of_refuses present refuses around
      cases call.symm.trans raised
    · obtain ⟨_, _, again, kept⟩ := decide_isOk sound present refuses around
      cases call.symm.trans again
      exact kept
  | error exc =>
    cases self with
    | quotaPrs brain =>
      obtain ⟨_, inner, _⟩ := ok_of_bind call
      obtain ⟨_, found, _⟩ := ok_of_bind inner
      cases present.symm.trans found
    | _ =>
      obtain ⟨_, _, returned⟩ := ok_of_bind call
      cases returned
      exact trivial

end AnyBrain

end Opendps.Brain
