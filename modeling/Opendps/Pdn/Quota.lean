/-
**Per-tenant power quotas.**

A `TenantQuota` carries the range check of its constructor as fields. `QuotaConfig.validate` is the
check every quota passes before a brain is built from it; `QuotaConfig.Valid` says what an accepted
quota guarantees (`valid_of_validate`).
-/

import Opendps.Lib.Repr
import Opendps.Pdn.Model
import Mathlib.Data.List.Pairwise
import Mathlib.Tactic.NormNum

namespace Opendps.Pdn

open Opendps.Lib

/-- Fraction of a domain budget allocated to a tenant. -/
structure TenantQuota where
  tenantId : String
  domainName : String
  gpuIndices : List GpuIndex
  maxWattsPct : ℚ
  pct_pos : 0 < maxWattsPct
  pct_le_one : maxWattsPct ≤ 1

/-- The per-tenant quotas of one domain. -/
structure QuotaConfig where
  domainName : String
  tenants : List TenantQuota

/-- The refusal of a percentage. -/
def pctRefused (maxWattsPct : PyFloat) : PyError :=
  .valueError ("max_watts_pct must be in (0, 1], got " ++ maxWattsPct.repr)

namespace QuotaConfig

/-! ### The check -/

/-- The refusal of tenants that name another domain. -/
def strayRefused (tenantIds : List String) (domainName : String) : PyError :=
  .valueError ("tenants " ++ reprList tenantIds ++ " have a domain_name != " ++ domainName)

def totalRefused (total : ℚ) (domainName : String) : PyError :=
  .valueError ("Total quota " ++ formatFixed1 (100 * total) ++ "% > 100% for domain " ++ domainName)

/-- The refusal of GPUs that were seen before. A set has no order; they are listed in ascending order. -/
def overlapRefused (seen gpuIndices : List GpuIndex) : PyError :=
  let overlap := sortedBy id (gpuIndices.filter fun gpu => decide (gpu ∈ seen)).dedup
  .valueError ("GPU indices " ++ reprSet (overlap.map toString) ++ " assigned to multiple tenants")

/-- The sum of all tenants' percentages. -/
def totalPct (config : QuotaConfig) : ℚ := (config.tenants.map TenantQuota.maxWattsPct).sum

/-- The overlap check: a tenant may not list a GPU an earlier tenant lists. -/
def checkOverlap : List GpuIndex → List TenantQuota → Except PyError Unit
  | _, [] => .ok ()
  | seen, tenant :: rest =>
    if tenant.gpuIndices.any fun gpu => decide (gpu ∈ seen) then
      .error (overlapRefused seen tenant.gpuIndices)
    else checkOverlap (seen ++ tenant.gpuIndices) rest

/-- The tenants that name another domain. -/
def stray (config : QuotaConfig) : List TenantQuota :=
  config.tenants.filter fun tenant => decide (tenant.domainName ≠ config.domainName)

def validate (config : QuotaConfig) : Except PyError Unit :=
  if config.stray ≠ [] then
    .error (strayRefused (config.stray.map fun tenant => reprText tenant.tenantId)
      (reprText config.domainName))
  else if 1 + 1 / 1000000 < config.totalPct then
    .error (totalRefused config.totalPct config.domainName)
  else checkOverlap [] config.tenants

def tenantBudgetW (tenant : TenantQuota) (domainBudgetW : ℚ) : ℚ :=
  tenant.maxWattsPct * domainBudgetW

/-- What an accepted quota guarantees. -/
structure Valid (config : QuotaConfig) : Prop where
  sameDomain : ∀ tenant ∈ config.tenants, tenant.domainName = config.domainName
  total : config.totalPct ≤ 1 + 1 / 1000000
  disjoint : config.tenants.Pairwise fun first second =>
    ∀ gpu ∈ first.gpuIndices, gpu ∉ second.gpuIndices

/-- Two different tenants of an accepted quota own different GPUs, even under one id. -/
theorem Valid.apart {config : QuotaConfig} (valid : config.Valid) {tenant other : TenantQuota}
    (member : tenant ∈ config.tenants) (otherMember : other ∈ config.tenants)
    (different : tenant ≠ other) : ∀ gpu ∈ tenant.gpuIndices, gpu ∉ other.gpuIndices := by
  have symmetric : Std.Symm fun first second : TenantQuota =>
      ∀ gpu ∈ first.gpuIndices, gpu ∉ second.gpuIndices :=
    ⟨fun _ _ disjoint gpu inSecond inFirst => disjoint gpu inFirst inSecond⟩
  exact valid.disjoint.forall member otherMember different

theorem disjoint_of_checkOverlap {seen : List GpuIndex} {tenants : List TenantQuota}
    (accepted : checkOverlap seen tenants = .ok ()) :
    (∀ tenant ∈ tenants, ∀ gpu ∈ seen, gpu ∉ tenant.gpuIndices) ∧
      tenants.Pairwise fun first second => ∀ gpu ∈ first.gpuIndices, gpu ∉ second.gpuIndices := by
  induction tenants generalizing seen with
  | nil => exact ⟨by simp, List.Pairwise.nil⟩
  | cons tenant rest ih =>
    unfold checkOverlap at accepted
    split at accepted
    · cases accepted
    · next apart =>
      obtain ⟨restSeen, restApart⟩ := ih accepted
      have here : ∀ gpu ∈ seen, gpu ∉ tenant.gpuIndices := by
        intro gpu inSeen inTenant
        exact apart (List.any_eq_true.mpr ⟨gpu, inTenant, decide_eq_true inSeen⟩)
      refine ⟨?_, List.pairwise_cons.mpr ⟨fun other member gpu inside =>
        restSeen other member gpu (List.mem_append_right _ inside), restApart⟩⟩
      intro other member gpu inSeen
      rcases List.mem_cons.mp member with rfl | inRest
      · exact here gpu inSeen
      · exact restSeen other inRest gpu (List.mem_append_left _ inSeen)

theorem valid_of_validate {config : QuotaConfig} (accepted : config.validate = .ok ()) :
    config.Valid := by
  unfold validate at accepted
  split at accepted
  · cases accepted
  · next noStray =>
    split at accepted
    · cases accepted
    · next within =>
      refine ⟨fun tenant member => ?_, not_lt.mp within, (disjoint_of_checkOverlap accepted).2⟩
      by_contra stray
      exact List.filter_eq_nil_iff.mp (not_not.mp noStray) tenant member (decide_eq_true stray)

end QuotaConfig

end Opendps.Pdn
