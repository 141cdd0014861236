/-
**No joule is charged twice.**

The showback report charges every tenant for the GPUs it lists. A quota is refused when two tenants
list one GPU, but the check compares sets, so a tenant may list a GPU twice and is then charged twice
for it. `showback_le_total_iff`: an accepted quota charges at most what was used, in every run, exactly
when the tenants the report is about list each GPU once.
-/

import Opendps.Controller.Metering
import Mathlib.Algebra.BigOperators.Ring.List
import Mathlib.Data.List.Duplicate

namespace Opendps.Controller

open Opendps.Lib Opendps.Pdn Opendps.Telemetry

/-- The GPUs the report charges under each tenant id; the last tenant of an id counts. -/
def chargedGpus (config : QuotaConfig) : Dict String (List GpuIndex) :=
  .ofList (config.tenants.map fun tenant => (tenant.tenantId, tenant.gpuIndices))

/-- No tenant that is charged lists a GPU twice. -/
def ListsGpusOnce (config : QuotaConfig) : Prop :=
  ∀ gpus ∈ (chargedGpus config).values, gpus.Nodup

/-- A list of tenants is charged as one tenant with all their GPUs. -/
theorem tenantEnergyWh_flatten (energy : EnergyAccountant) (lists : List (List GpuIndex)) :
    (lists.map energy.tenantEnergyWh).sum = energy.tenantEnergyWh lists.flatten := by
  induction lists with
  | nil => simp [EnergyAccountant.tenantEnergyWh]
  | cons gpus rest ih =>
    rw [List.map_cons, List.sum_cons, ih, List.flatten_cons, EnergyAccountant.tenantEnergyWh,
      EnergyAccountant.tenantEnergyWh, EnergyAccountant.tenantEnergyWh, List.map_append,
      List.sum_append, add_div]

/-- Under different ids stand the GPUs of different tenants, which an accepted quota keeps apart. -/
theorem chargedGpus_disjoint {config : QuotaConfig} (valid : config.Valid) :
    (chargedGpus config).values.Pairwise List.Disjoint := by
  have owner : ∀ item ∈ (chargedGpus config).items, ∃ tenant ∈ config.tenants,
      tenant.tenantId = item.1 ∧ tenant.gpuIndices = item.2 := by
    intro item inside
    rcases Dict.mem_of_get?_setAll (Dict.get?_eq_some_iff.mpr inside) with listed | absurdity
    · obtain ⟨tenant, member, same⟩ := List.mem_map.mp listed
      exact ⟨tenant, member, congrArg Prod.fst same, congrArg Prod.snd same⟩
    · cases absurdity
  refine List.pairwise_map.mpr ((List.pairwise_map.mp (chargedGpus config).nodup).imp_of_mem ?_)
  intro first second firstIn secondIn different gpu inFirst inSecond
  obtain ⟨tenant, member, idFirst, gpusFirst⟩ := owner first firstIn
  obtain ⟨other, otherMember, idSecond, gpusSecond⟩ := owner second secondIn
  have apart : tenant ≠ other := fun same => different (idFirst ▸ idSecond ▸ same ▸ rfl)
  exact valid.apart member otherMember apart gpu (gpusFirst ▸ inFirst) (gpusSecond ▸ inSecond)

namespace MeteredController

variable {self : MeteredController} {config : QuotaConfig}

/-- The report charges what is listed under each id. -/
theorem values_energyShowback (quota : self.quotaConfig = some config) :
    self.energyShowback.values =
      (chargedGpus config).values.map fun gpus => self.energy.tenantEnergyWh gpus / 1000 := by
  have mapped : self.energyShowback = (chargedGpus config).mapVals
      fun _ gpus => self.energy.tenantEnergyWh gpus / 1000 := by
    rw [chargedGpus, Dict.ofList, Dict.mapVals_setAll, energyShowback, quota, Dict.setAll,
      List.map_map, List.foldl_map]
    rfl
  rw [mapped, Dict.values_mapVals]

/-- All that is charged, in watt-hours. -/
theorem sum_energyShowback (quota : self.quotaConfig = some config) :
    self.energyShowback.values.sum =
      self.energy.tenantEnergyWh (chargedGpus config).values.flatten / 1000 := by
  rw [values_energyShowback quota, ← tenantEnergyWh_flatten]
  simp only [div_eq_mul_inv, List.sum_map_mul_right]

/-- After a run without negative draws no GPU has used less than nothing. -/
structure Metered (config : QuotaConfig) (state : MeteredController) : Prop where
  quota : state.quotaConfig = some config
  nonneg : ∀ value ∈ state.energy.energyJ.values, 0 ≤ value

theorem metered_run (quota : self.quotaConfig = some config) (noEnergy : self.energy = {})
    {ticks : List TickInputs} (nonneg : ∀ inputs ∈ ticks, inputs.DrawsNonneg) :
    Metered config (run tick self ticks) := by
  have start : Metered config self := ⟨quota, by
    rw [noEnergy]
    exact fun value listed => nomatch listed⟩
  refine @runs_invariant self (Metered config) (fun inputs state domainName domain draws before _ =>
    ⟨before.quota, EnergyAccountant.energyJ_addTick_nonneg before.nonneg fun gpu watts found => ?_⟩)
    start _ nonneg
  rw [Dict.get?_mapVals, Option.map_eq_some_iff] at found
  obtain ⟨stored, reported, same⟩ := found
  cases same
  exact draws_nonneg draws domainName domain gpu watts reported

/-- **At most what was used is charged**, where every charged tenant lists each GPU once. -/
theorem showback_le_total (valid : config.Valid) (once : ListsGpusOnce config)
    (metered : Metered config self) :
    self.energyShowback.values.sum ≤ self.energy.totalWh / 1000 := by
  have nodup : (chargedGpus config).values.flatten.Nodup :=
    List.nodup_flatten.mpr ⟨once, chargedGpus_disjoint valid⟩
  rw [sum_energyShowback metered.quota]
  exact div_le_div_of_nonneg_right (EnergyAccountant.tenantEnergyWh_le metered.nonneg nodup)
    (by norm_num)

/-! ### One GPU that alone uses energy -/

/-- The quota's domain with one GPU. -/
def soleDomain (domainName : String) (gpu : GpuIndex) : PowerDomain where
  name := domainName
  budgetW := 1000
  gpuIndices := [gpu]
  pduName := "pdu0"

def soleController (config : QuotaConfig) (gpu : GpuIndex) : MeteredController where
  topology :=
    { pdus := .ofList [("pdu0", { name := "pdu0", capacityW := 10000 })]
      domains := Dict.empty.set config.domainName (soleDomain config.domainName gpu) }
  managedDomains := [config.domainName]
  intervalS := 1
  quotaConfig := some config

/-- Every GPU that is read draws one watt. -/
def oneWattTick : TickInputs where
  reading _ _ := some 1
  stopsBefore _ := none
  stopsAfter _ := none

theorem drawsNonneg_oneWattTick : ∀ inputs ∈ [oneWattTick], inputs.DrawsNonneg := by
  intro inputs listed domainName gpu watts found
  rw [List.mem_singleton.mp listed] at found
  cases found
  exact zero_le_one

theorem disjointDomains_sole (config : QuotaConfig) (gpu : GpuIndex) :
    DisjointDomains (soleController config gpu).topology := by
  have only : ∀ name domain, (soleController config gpu).topology.domains.get? name = some domain →
      name = config.domainName := by
    intro name domain found
    have stored : (Dict.empty.set config.domainName (soleDomain config.domainName gpu)).get? name =
        some domain := found
    rw [Dict.get?_set] at stored
    split at stored
    · next same => exact same
    · cases stored
  intro firstName first secondName second presentFirst presentSecond different
  exact absurd ((only _ _ presentFirst).trans (only _ _ presentSecond).symm) different

theorem energyJ_sole (config : QuotaConfig) (gpu : GpuIndex) :
    (run tick (soleController config gpu) [oneWattTick]).energy.energyJ =
      Dict.empty.set gpu 1 := by
  have present : (soleController config gpu).topology.domains.get? config.domainName =
      some (soleDomain config.domainName gpu) := Dict.get?_set_self _ _ _
  have once : (soleController config gpu).runOnce oneWattTick =
      ((soleController config gpu).account config.domainName (Dict.empty.set gpu 1), none) := by
    rw [runOnce]
    have managed : (soleController config gpu).managedDomains = [config.domainName] := rfl
    rw [managed, meter, present]
    rfl
  have takesTime : ¬ (1 : ℚ) ≤ 0 := by norm_num
  rw [run_cons, run_nil, tick, once]
  simp [takesTime, account, soleController, EnergyAccountant.addTick, Ledger.postAll, Ledger.post,
    Dict.filterMapVals, Dict.mapVals, Dict.set, Dict.setItems, Dict.getD]

/-- A tenant is charged one watt-second for every time it lists the GPU. -/
theorem tenantEnergyWh_sole (config : QuotaConfig) (gpu : GpuIndex) (gpuIndices : List GpuIndex) :
    (run tick (soleController config gpu) [oneWattTick]).energy.tenantEnergyWh gpuIndices =
      (gpuIndices.count gpu : ℕ) / 3600 := by
  have counted : ∀ listed : List GpuIndex,
      (listed.map fun other => (Dict.empty.set gpu (1 : ℚ)).getD other 0).sum =
        (listed.count gpu : ℕ) := by
    intro listed
    induction listed with
    | nil => simp
    | cons other rest ih =>
      rw [List.map_cons, List.sum_cons, ih, List.count_cons, Dict.getD, Dict.get?_set]
      by_cases same : other = gpu
      · simp [same, add_comm]
      · simp [same]
  rw [EnergyAccountant.tenantEnergyWh, energyJ_sole, counted]

/-- **Energy is charged at most once, exactly when each charged tenant lists each GPU once.** For every
accepted quota: in every run of ticks without negative draws, of a controller with this quota and
disjoint domains, the report adds up to at most the total energy, if and only if no charged tenant
lists a GPU twice. -/
theorem showback_le_total_iff {config : QuotaConfig} (accepted : config.validate = .ok ()) :
    (∀ (self : MeteredController) (ticks : List TickInputs), self.quotaConfig = some config →
      self.energy = {} → DisjointDomains self.topology → (∀ inputs ∈ ticks, inputs.DrawsNonneg) →
      (run tick self ticks).energyShowback.values.sum ≤
        (run tick self ticks).energy.totalWh / 1000) ↔ ListsGpusOnce config := by
  constructor
  · intro bounded
    by_contra twice
    have repeated : ¬ (chargedGpus config).values.flatten.Nodup := fun nodup =>
      twice (List.nodup_flatten.mp nodup).1
    obtain ⟨gpu, duplicate⟩ := List.exists_duplicate_iff_not_nodup.mpr repeated
    have count : 2 ≤ (chargedGpus config).values.flatten.count gpu :=
      List.duplicate_iff_two_le_count.mp duplicate
    have within := bounded (soleController config gpu) [oneWattTick] rfl rfl
      (disjointDomains_sole config gpu) drawsNonneg_oneWattTick
    have quota : (run tick (soleController config gpu) [oneWattTick]).quotaConfig = some config :=
      (metered_run rfl rfl drawsNonneg_oneWattTick).quota
    have one : (Dict.empty.set gpu (1 : ℚ)).values.sum = 1 := by
      simp [Dict.values, Dict.set, Dict.setItems]
    rw [sum_energyShowback quota, tenantEnergyWh_sole, EnergyAccountant.totalWh, energyJ_sole,
      one] at within
    have charged : (2 : ℚ) ≤ ((chargedGpus config).values.flatten.count gpu : ℕ) := by
      exact_mod_cast count
    linarith
  · intro once self ticks quota noEnergy _ nonneg
    exact showback_le_total (QuotaConfig.valid_of_validate accepted) once
      (metered_run quota noEnergy nonneg)

/-! ### A tenant that lists its GPU twice -/

def doubledSpec : QuotaSpec where
  domainName := some "d0"
  tenants := some
    [{ tenantId := some "tenant-a", gpuIndices := some [0, 0], maxWattsPct := some (1 / 2) },
     { tenantId := some "tenant-b", gpuIndices := some [1], maxWattsPct := some (1 / 2) }]

def doubledQuota : QuotaConfig where
  domainName := "d0"
  tenants := [halfQuota "tenant-a" [0, 0], halfQuota "tenant-b" [1]]

theorem fromDict_doubledSpec : QuotaConfig.fromDict doubledSpec = .ok doubledQuota := by
  have tenant : ∀ tenantId gpuIndices, TenantQuota.init tenantId "d0" gpuIndices (1 / 2) =
      .ok (halfQuota tenantId gpuIndices) := by
    intro tenantId gpuIndices
    rw [TenantQuota.init, dif_pos one_half_pos, dif_pos one_half_lt_one.le]
    rfl
  have accepted : doubledQuota.validate = .ok () := ok_of_toOption (by decide +kernel)
  simp only [QuotaConfig.fromDict, doubledSpec, required, malformed, bind, Except.bind, pure,
    Except.pure, Option.getD_some, List.mapM_cons, List.mapM_nil, TenantQuota.ofSpec, Option.getD_none,
    tenant]
  have same : (⟨"d0", [halfQuota "tenant-a" [0, 0], halfQuota "tenant-b" [1]]⟩ : QuotaConfig) =
      doubledQuota := rfl
  rw [same, accepted]

/-- Two GPUs draw 600 W for five seconds; the quota is accepted, and the report charges half as much
again as was used. -/
theorem showback_charges_twice :
    QuotaConfig.fromDict doubledSpec = .ok doubledQuota ∧ doubledQuota.validate = .ok () ∧
      validateQuotaAgainstTopology doubledQuota twoDomains = .ok () ∧
      DisjointDomains twoDomains ∧ steadyTick.DrawsNonneg ∧
      ∃ self : MeteredController, self.topology = twoDomains ∧
        self.quotaConfig = some doubledQuota ∧ self.energy = {} ∧
        (run tick self [steadyTick]).energy.totalWh / 1000 = 1 / 600 ∧
        (run tick self [steadyTick]).energyShowback.values.sum = 1 / 400 := by
  refine ⟨fromDict_doubledSpec, ok_of_toOption (by decide +kernel),
    ok_of_toOption (by decide +kernel), disjointDomains_twoDomains, ?_,
    { topology := twoDomains, managedDomains := ["d0"], intervalS := 5
      quotaConfig := some doubledQuota }, rfl, rfl, rfl, by decide +kernel, by decide +kernel⟩
  intro domainName gpu watts found
  cases found
  norm_num

theorem showback_le_total_iff_doubled :
    (∀ (self : MeteredController) (ticks : List TickInputs), self.quotaConfig = some doubledQuota →
      self.energy = {} → DisjointDomains self.topology → (∀ inputs ∈ ticks, inputs.DrawsNonneg) →
      (run tick self ticks).energyShowback.values.sum ≤
        (run tick self ticks).energy.totalWh / 1000) ↔ ListsGpusOnce doubledQuota :=
  showback_le_total_iff (ok_of_toOption (by decide +kernel))

end MeteredController

end Opendps.Controller
