/-
**Metering: energy per tenant, exported and reported.**

A tick of the controller integrates the draws of each managed domain and, in the same pass, adds to
the exported counter of every tenant of that domain what its GPUs used. The showback report adds up the
cumulative energy of a tenant's GPUs when it is asked for. `counter_eq_showback` is that the two agree
after every run.

The counters are a ledger under (domain, tenant); what a tick posts to a tenant's counters is what it
adds to the energy of the tenant's GPUs (`exportedKwh_account`, `showbackKwh_account`), because no other
domain has any of these GPUs. The rest of a tick matters in where it can stop: telemetry, adoption and
the brain may raise before a domain is accounted for, the actuator after it.
-/

import Opendps.Telemetry.Energy
import Opendps.Lib.Run
import Opendps.Pdn.Loading
import Mathlib.Tactic.Ring

namespace Opendps.Controller

open Opendps.Lib Opendps.Pdn Opendps.Telemetry

/-! ### The model -/

/-- Cross-check a quota against the topology. -/
def validateQuotaAgainstTopology (quota : QuotaConfig) (topology : PDNTopology) :
    Except PyError Unit :=
  match topology.domains.get? quota.domainName with
  | none => .error (.valueError ("quota domain " ++ reprText quota.domainName ++
      " not in topology domains " ++ reprList ((sortedBy id topology.domains.keys).map reprText)))
  | some domain =>
    match quota.tenants.find? fun tenant =>
        tenant.gpuIndices.any fun gpu => decide (gpu ∉ domain.gpuIndices) with
    | some tenant =>
      let stray := (tenant.gpuIndices.filter fun gpu => decide (gpu ∉ domain.gpuIndices)).dedup
      .error (.valueError ("tenant " ++ reprText tenant.tenantId ++ " references GPUs " ++
        reprList ((sortedBy id stray).map toString) ++ " not in domain " ++ reprText quota.domainName))
    | none => .ok ()

/-- The counters `opendps_tenant_energy_kwh_total`, by domain and tenant. -/
abbrev TenantEnergy := Dict (String × String) ℚ

/-- Increment a tenant's counter; a counter is only ever increased. -/
def addTenantEnergyKwh (counters : TenantEnergy) (domain tenant : String) (deltaKwh : ℚ) :
    TenantEnergy :=
  if 0 < deltaKwh then Ledger.post counters (domain, tenant) deltaKwh else counters

/-- What one tick meets: the draw it reads for a GPU of a domain, if the telemetry has it, and what
raises for a domain before its draws are accounted for and after. -/
structure TickInputs where
  reading : String → GpuIndex → Option ℚ
  stopsBefore : String → Option PyError
  stopsAfter : String → Option PyError

/-- No draw that is read is negative. -/
def TickInputs.DrawsNonneg (inputs : TickInputs) : Prop :=
  ∀ domainName gpu watts, inputs.reading domainName gpu = some watts → 0 ≤ watts

/-- No two domains have a GPU in common. -/
def DisjointDomains (topology : PDNTopology) : Prop :=
  ∀ firstName first secondName second, topology.domains.get? firstName = some first →
    topology.domains.get? secondName = some second → firstName ≠ secondName →
    ∀ gpu ∈ first.gpuIndices, gpu ∉ second.gpuIndices

/-- A controller, as far as it meters. -/
structure MeteredController where
  topology : PDNTopology
  managedDomains : List String
  intervalS : ℚ
  quotaConfig : Option QuotaConfig
  energy : EnergyAccountant := {}
  tenantEnergy : TenantEnergy := .empty

namespace MeteredController

/-- The draws of a domain's GPUs that the telemetry has. -/
def gpuDraws (domain : PowerDomain) (reading : GpuIndex → Option ℚ) : Dict GpuIndex ℚ :=
  domain.gpuIndices.foldl (fun draws idx =>
    match reading idx with
    | some watts => draws.set idx watts
    | none => draws) .empty

/-- The joules of a tenant's GPUs, in kilowatt-hours. -/
def deltaKwh (addedJ : Dict GpuIndex ℚ) (tenant : TenantQuota) : ℚ :=
  (tenant.gpuIndices.map fun gpu => addedJ.getD gpu 0).sum / 3600000

/-- Integrate the draws of one domain and attribute them to its tenants. -/
def account (self : MeteredController) (domainName : String) (draws : Dict GpuIndex ℚ) :
    MeteredController :=
  let (addedJ, energy) := self.energy.addTick (draws.mapVals fun _ watts => some watts) self.intervalS
  let tenants := (self.quotaConfig.map QuotaConfig.tenants).getD []
  { self with
    energy := energy
    tenantEnergy := tenants.foldl (fun counters tenant =>
      if tenant.domainName ≠ domainName then counters
      else addTenantEnergyKwh counters domainName tenant.tenantId (deltaKwh addedJ tenant))
      self.tenantEnergy }

/-- The pass of a tick along its domains. An exception ends it and leaves what was accounted for. -/
def meter (self : MeteredController) (inputs : TickInputs) :
    List String → MeteredController × Option PyError
  | [] => (self, none)
  | domainName :: rest =>
    match self.topology.domains.get? domainName with
    | none => (self, some (.keyError domainName))
    | some domain =>
      match inputs.stopsBefore domainName with
      | some exc => (self, some exc)
      | none =>
        let next := self.account domainName (gpuDraws domain (inputs.reading domainName))
        match inputs.stopsAfter domainName with
        | some exc => (next, some exc)
        | none => next.meter inputs rest

/-- One control tick. -/
def runOnce (self : MeteredController) (inputs : TickInputs) : MeteredController × Option PyError :=
  self.meter inputs self.managedDomains

/-- The loop of `run` goes on after a tick that raised. -/
def tick (self : MeteredController) (inputs : TickInputs) : MeteredController :=
  (self.runOnce inputs).1

/-- Per-tenant cumulative energy in kilowatt-hours. -/
def energyShowback (self : MeteredController) : Dict String ℚ :=
  ((self.quotaConfig.map QuotaConfig.tenants).getD []).foldl (fun report tenant =>
    report.set tenant.tenantId (self.energy.tenantEnergyWh tenant.gpuIndices / 1000)) .empty

/-- Everything that was exported for a tenant, under any domain. -/
def exportedKwh (self : MeteredController) (tenantId : String) : ℚ :=
  Ledger.total (fun label => decide (label.2 = tenantId)) self.tenantEnergy

/-! ### What is read -/

/-- A domain's draws are the readings of its GPUs. -/
theorem get?_gpuDraws (domain : PowerDomain) (reading : GpuIndex → Option ℚ) (gpu : GpuIndex) :
    (gpuDraws domain reading).get? gpu = if gpu ∈ domain.gpuIndices then reading gpu else none := by
  have along : ∀ (indices : List GpuIndex) (draws : Dict GpuIndex ℚ),
      (indices.foldl (fun (draws : Dict GpuIndex ℚ) idx =>
        match reading idx with
        | some watts => draws.set idx watts
        | none => draws) draws).get? gpu =
      if gpu ∈ indices then (reading gpu).or (draws.get? gpu) else draws.get? gpu := by
    intro indices
    induction indices with
    | nil => exact fun _ => rfl
    | cons idx rest ih =>
      intro draws
      rw [List.foldl_cons, ih]
      by_cases here : gpu = idx
      · subst here
        cases found : reading gpu <;> simp
      · cases found : reading idx <;> simp [here]
  rw [gpuDraws, along domain.gpuIndices .empty]
  simp

/-! ### One domain -/

section Account

variable {self : MeteredController} {config : QuotaConfig} {domainName : String}
  {draws : Dict GpuIndex ℚ}

/-- The joules a domain's pass adds. -/
def addedJ (self : MeteredController) (draws : Dict GpuIndex ℚ) : Dict GpuIndex ℚ :=
  (self.energy.addTick (draws.mapVals fun _ watts => some watts) self.intervalS).1

theorem addedJ_nonneg (nonneg : ∀ gpu watts, draws.get? gpu = some watts → 0 ≤ watts) :
    ∀ value ∈ (self.addedJ draws).values, 0 ≤ value := by
  refine EnergyAccountant.addTick_nonneg fun gpu watts found => ?_
  rw [Dict.get?_mapVals, Option.map_eq_some_iff] at found
  obtain ⟨stored, reported, same⟩ := found
  cases same
  exact nonneg gpu watts reported

theorem deltaKwh_nonneg (nonneg : ∀ gpu watts, draws.get? gpu = some watts → 0 ≤ watts)
    (tenant : TenantQuota) : 0 ≤ deltaKwh (self.addedJ draws) tenant := by
  refine div_nonneg (List.sum_nonneg fun value listed => ?_) (by norm_num)
  obtain ⟨gpu, _, rfl⟩ := List.mem_map.mp listed
  exact Ledger.getD_nonneg (addedJ_nonneg nonneg) gpu

/-- What a tenant's GPUs used since the start, in kilowatt-hours. -/
def usedKwh (self : MeteredController) (tenant : TenantQuota) : ℚ :=
  self.energy.tenantEnergyWh tenant.gpuIndices / 1000

theorem usedKwh_account (self : MeteredController) (domainName : String)
    (draws : Dict GpuIndex ℚ) (tenant : TenantQuota) :
    (self.account domainName draws).usedKwh tenant =
      self.usedKwh tenant + deltaKwh (self.addedJ draws) tenant := by
  have grows := self.energy.tenantEnergyWh_addTick (draws.mapVals fun _ watts => some watts)
    self.intervalS tenant.gpuIndices
  unfold usedKwh
  rw [deltaKwh, account, addedJ]
  simp only [grows]
  ring

/-- An increment that is not negative counts in full. -/
theorem total_addTenantEnergyKwh (test : String × String → Bool) (counters : TenantEnergy)
    (domain tenant : String) {delta : ℚ} (nonneg : 0 ≤ delta) :
    Ledger.total test (addTenantEnergyKwh counters domain tenant delta) =
      Ledger.total test counters + if test (domain, tenant) then delta else 0 := by
  unfold addTenantEnergyKwh
  split
  · exact Ledger.total_post test counters (domain, tenant) delta
  · next zero =>
    have none : delta = 0 := le_antisymm (not_lt.mp zero) nonneg
    rw [none, ite_self, add_zero]

/-- **What a pass exports for a tenant id**: the increments of the tenants of the domain under it. -/
theorem exportedKwh_account (quota : self.quotaConfig = some config)
    (nonneg : ∀ gpu watts, draws.get? gpu = some watts → 0 ≤ watts) (tenantId : String) :
    (self.account domainName draws).exportedKwh tenantId = self.exportedKwh tenantId +
      ((config.tenants.filter fun tenant => decide
        (tenant.domainName = domainName ∧ tenant.tenantId = tenantId)).map
          (deltaKwh (self.addedJ draws))).sum := by
  have along : ∀ (tenants : List TenantQuota) (counters : TenantEnergy),
      Ledger.total (fun label => decide (label.2 = tenantId))
        (tenants.foldl (fun counters tenant =>
          if tenant.domainName ≠ domainName then counters
          else addTenantEnergyKwh counters domainName tenant.tenantId
            (deltaKwh (self.addedJ draws) tenant)) counters) =
      Ledger.total (fun label => decide (label.2 = tenantId)) counters +
        ((tenants.filter fun tenant => decide
          (tenant.domainName = domainName ∧ tenant.tenantId = tenantId)).map
            (deltaKwh (self.addedJ draws))).sum := by
    intro tenants
    induction tenants with
    | nil => simp
    | cons tenant rest ih =>
      intro counters
      rw [List.foldl_cons, ih]
      by_cases home : tenant.domainName = domainName
      · rw [if_neg (not_not.mpr home), total_addTenantEnergyKwh _ _ _ _ (deltaKwh_nonneg nonneg tenant)]
        by_cases same : tenant.tenantId = tenantId
        · simp [home, same, add_assoc]
        · simp [same]
      · simp [home]
  have whole := along config.tenants self.tenantEnergy
  rw [exportedKwh, account, quota]
  exact whole

end Account

/-! ### One tick and all ticks -/

section Runs

variable {self : MeteredController} {inputs : TickInputs}

theorem draws_nonneg (nonneg : inputs.DrawsNonneg) (domainName : String) (domain : PowerDomain) :
    ∀ gpu watts, (gpuDraws domain (inputs.reading domainName)).get? gpu = some watts →
      0 ≤ watts := by
  intro gpu watts found
  rw [get?_gpuDraws] at found
  split at found
  · exact nonneg domainName gpu watts found
  · cases found

/-- What every accounted domain keeps, a tick keeps, wherever it stops. -/
theorem meter_invariant {inv : MeteredController → Prop}
    (keeps : ∀ state domainName domain, inv state →
      state.topology.domains.get? domainName = some domain →
      inv (state.account domainName (gpuDraws domain (inputs.reading domainName))))
    (domainNames : List String) (start : inv self) : inv (self.meter inputs domainNames).1 := by
  induction domainNames generalizing self with
  | nil => exact start
  | cons domainName rest ih =>
    unfold meter
    cases present : self.topology.domains.get? domainName with
    | none => exact start
    | some domain =>
      cases inputs.stopsBefore domainName with
      | some exc => exact start
      | none =>
        have accounted := keeps self domainName domain start present
        cases inputs.stopsAfter domainName with
        | some exc => exact accounted
        | none => exact ih accounted

/-- What every tick without negative draws keeps, a run of such ticks keeps. -/
theorem runs_invariant {inv : MeteredController → Prop}
    (keeps : ∀ (tick : TickInputs) state domainName domain, tick.DrawsNonneg → inv state →
      state.topology.domains.get? domainName = some domain →
      inv (state.account domainName (gpuDraws domain (tick.reading domainName))))
    (start : inv self) {ticks : List TickInputs} (nonneg : ∀ tick ∈ ticks, tick.DrawsNonneg) :
    inv (run tick self ticks) := by
  refine run_invariant (fun past state => (∀ inputs ∈ past, inputs.DrawsNonneg) → inv state)
    (fun _ => start) (fun past inputs state before all => ?_) ticks nonneg
  have past := before fun other inside => all other (List.mem_append_left _ inside)
  have now : inputs.DrawsNonneg := all inputs (List.mem_append_right _ (List.mem_singleton_self _))
  exact meter_invariant (fun state domainName domain => keeps inputs state domainName domain now) _
    past

end Runs

/-! ### The counters and the report -/

section Agree

variable {self : MeteredController} {config : QuotaConfig} {tenant : TenantQuota}

/-- A tenant with an id of its own is alone under it. -/
theorem filter_tenantId {tenants : List TenantQuota} (ids : (tenants.map TenantQuota.tenantId).Nodup)
    (member : tenant ∈ tenants) (domainName : String) :
    (tenants.filter fun other => decide
      (other.domainName = domainName ∧ other.tenantId = tenant.tenantId)) =
        if tenant.domainName = domainName then [tenant] else [] := by
  induction tenants with
  | nil => cases member
  | cons first rest ih =>
    rw [List.map_cons, List.nodup_cons] at ids
    rcases List.mem_cons.mp member with rfl | inside
    · have none : (rest.filter fun other => decide
          (other.domainName = domainName ∧ other.tenantId = tenant.tenantId)) = [] := by
        refine List.filter_eq_nil_iff.mpr fun other listed same => ids.1 ?_
        exact List.mem_map.mpr ⟨other, listed, (of_decide_eq_true same).2⟩
      rw [List.filter_cons, none]
      by_cases home : tenant.domainName = domainName <;> simp [home]
    · have different : first.tenantId ≠ tenant.tenantId := fun same =>
        ids.1 (same ▸ List.mem_map_of_mem inside)
      rw [List.filter_cons_of_neg (by simp [different]), ih ids.2 inside]

/-- Every tenant's GPUs are among those of the quota's domain. -/
theorem exists_home_of_validate
    (fits : validateQuotaAgainstTopology config self.topology = .ok ()) :
    ∃ domain, self.topology.domains.get? config.domainName = some domain ∧
      ∀ tenant ∈ config.tenants, ∀ gpu ∈ tenant.gpuIndices, gpu ∈ domain.gpuIndices := by
  unfold validateQuotaAgainstTopology at fits
  split at fits
  · cases fits
  · next domain present =>
    split at fits
    · cases fits
    · next noStray =>
      refine ⟨domain, present, fun tenant member gpu listed => ?_⟩
      have inside := List.find?_eq_none.mp noStray tenant member
      by_contra stray
      exact inside (List.any_eq_true.mpr ⟨gpu, listed, decide_eq_true stray⟩)

/-- The exported counters of every tenant are what its GPUs used; the rest is set up once. -/
structure Agrees (config : QuotaConfig) (topology : PDNTopology) (state : MeteredController) :
    Prop where
  quota : state.quotaConfig = some config
  sameTopology : state.topology = topology
  agree : ∀ tenant ∈ config.tenants, state.exportedKwh tenant.tenantId = state.usedKwh tenant

/-- The GPUs of a tenant add nothing in the pass of another domain. -/
theorem deltaKwh_eq_zero {topology : PDNTopology} (apart : DisjointDomains topology)
    {home domain : PowerDomain} {homeName domainName : String} {reading : GpuIndex → Option ℚ}
    (presentHome : topology.domains.get? homeName = some home)
    (present : topology.domains.get? domainName = some domain) (different : homeName ≠ domainName)
    (inside : ∀ gpu ∈ tenant.gpuIndices, gpu ∈ home.gpuIndices) :
    deltaKwh (self.addedJ (gpuDraws domain reading)) tenant = 0 := by
  have nothing : ∀ gpu ∈ tenant.gpuIndices,
      (self.addedJ (gpuDraws domain reading)).getD gpu 0 = 0 := by
    intro gpu listed
    have absent := apart homeName home domainName domain presentHome present different gpu
      (inside gpu listed)
    refine EnergyAccountant.addTick_of_absent ?_
    rw [Dict.get?_mapVals, get?_gpuDraws, if_neg absent]
    rfl
  rw [deltaKwh, List.map_congr_left nothing]
  simp

/-- **One domain's pass keeps counters and energy in step.** -/
theorem Agrees.account {topology : PDNTopology} (agrees : Agrees config topology self)
    (valid : config.Valid) (ids : (config.tenants.map TenantQuota.tenantId).Nodup)
    (apart : DisjointDomains topology) {home domain : PowerDomain} {domainName : String}
    {reading : GpuIndex → Option ℚ}
    (presentHome : topology.domains.get? config.domainName = some home)
    (inside : ∀ tenant ∈ config.tenants, ∀ gpu ∈ tenant.gpuIndices, gpu ∈ home.gpuIndices)
    (present : topology.domains.get? domainName = some domain)
    (nonneg : ∀ gpu watts, (gpuDraws domain reading).get? gpu = some watts → 0 ≤ watts) :
    Agrees config topology (self.account domainName (gpuDraws domain reading)) where
  quota := agrees.quota
  sameTopology := agrees.sameTopology
  agree tenant member := by
    rw [exportedKwh_account agrees.quota nonneg, usedKwh_account, agrees.agree tenant member,
      filter_tenantId ids member]
    by_cases home : tenant.domainName = domainName
    · rw [if_pos home, List.map_singleton, List.sum_singleton]
    · have different : config.domainName ≠ domainName := fun same =>
        home ((valid.sameDomain tenant member).trans same)
      rw [if_neg home, deltaKwh_eq_zero apart presentHome present different (inside tenant member)]
      rfl

/-- The report has what the GPUs of each tenant used. -/
theorem get?_energyShowback (quota : self.quotaConfig = some config)
    (ids : (config.tenants.map TenantQuota.tenantId).Nodup) (member : tenant ∈ config.tenants) :
    self.energyShowback.get? tenant.tenantId = some (self.usedKwh tenant) := by
  have loop : self.energyShowback = Dict.storeEach TenantQuota.tenantId
      (fun tenant _ => self.usedKwh tenant) config.tenants .empty := by
    rw [energyShowback, quota]
    rfl
  rw [loop]
  exact Dict.get?_storeEach_of_mem _ _ ids .empty member

/-- **The exported counter and the showback report agree.** For a valid quota that fits a topology of
disjoint domains, with any managed domains and any interval, after every run of ticks without negative
draws and from counters that start at zero, what was exported for a tenant is what the report says. -/
theorem counter_eq_showback (quota : self.quotaConfig = some config) (noEnergy : self.energy = {})
    (noCounters : self.tenantEnergy = .empty) (valid : config.validate = .ok ())
    (fits : validateQuotaAgainstTopology config self.topology = .ok ())
    (ids : (config.tenants.map TenantQuota.tenantId).Nodup)
    (apart : DisjointDomains self.topology) {ticks : List TickInputs}
    (nonneg : ∀ inputs ∈ ticks, inputs.DrawsNonneg) :
    ∀ tenant ∈ config.tenants, (run tick self ticks).energyShowback.get? tenant.tenantId =
      some ((run tick self ticks).exportedKwh tenant.tenantId) := by
  obtain ⟨home, presentHome, inside⟩ := exists_home_of_validate fits
  have start : Agrees config self.topology self := by
    refine ⟨quota, rfl, fun tenant _ => ?_⟩
    have nothing : (tenant.gpuIndices.map fun gpu =>
        (EnergyAccountant.energyJ {}).getD gpu 0).sum = 0 := by
      simp [Dict.getD]
    rw [exportedKwh, noCounters, Ledger.total_empty, usedKwh, noEnergy,
      EnergyAccountant.tenantEnergyWh, nothing, zero_div, zero_div]
  have agrees := @runs_invariant self (Agrees config self.topology)
    (fun tick state domainName domain tickNonneg before present =>
      before.account (QuotaConfig.valid_of_validate valid) ids apart presentHome inside
        (before.sameTopology ▸ present) (draws_nonneg tickNonneg domainName domain)) start _ nonneg
  intro tenant member
  rw [get?_energyShowback agrees.quota ids member, agrees.agree tenant member]

end Agree

/-! ### Two domains, two tenants of one of them -/

theorem half_inRange : (0 : ℚ) < 1 / 2 ∧ (1 / 2 : ℚ) ≤ 1 := ⟨one_half_pos, one_half_lt_one.le⟩

/-- A tenant of the first domain with half of its budget. -/
def halfQuota (tenantId : String) (gpuIndices : List GpuIndex) : TenantQuota :=
  ⟨tenantId, "d0", gpuIndices, 1 / 2, half_inRange.1, half_inRange.2⟩

def sharedQuota : QuotaConfig where
  domainName := "d0"
  tenants := [halfQuota "tenant-a" [0], halfQuota "tenant-b" [1]]

def twoDomains : PDNTopology where
  pdus := .ofList [("pdu0", { name := "pdu0", capacityW := 10000 })]
  domains := .ofList
    [("d0", { name := "d0", budgetW := 1000, gpuIndices := [0, 1], pduName := "pdu0" }),
     ("d1", { name := "d1", budgetW := 1000, gpuIndices := [2], pduName := "pdu0" })]

theorem disjointDomains_twoDomains : DisjointDomains twoDomains := by
  have table : ∀ first ∈ twoDomains.domains.items, ∀ second ∈ twoDomains.domains.items,
      first.1 ≠ second.1 → ∀ gpu ∈ first.2.gpuIndices, gpu ∉ second.2.gpuIndices := by
    decide +kernel
  intro firstName first secondName second presentFirst presentSecond different
  exact table _ (Dict.get?_eq_some_iff.mp presentFirst) _ (Dict.get?_eq_some_iff.mp presentSecond)
    different

/-- Both domains are metered every five seconds. -/
def sharedController : MeteredController where
  topology := twoDomains
  managedDomains := ["d0", "d1"]
  intervalS := 5
  quotaConfig := some sharedQuota

/-- Every GPU draws 600 W. -/
def steadyTick : TickInputs where
  reading _ _ := some 600
  stopsBefore _ := none
  stopsAfter _ := none

/-- Then GPU 1 is missing and the second domain's push fails. -/
def partialTick : TickInputs where
  reading _ gpu := if gpu = 1 then none else some 600
  stopsBefore _ := none
  stopsAfter domainName := if domainName = "d1" then some (.keyError "2") else none

/-- The second tenant, who is served last. -/
theorem counter_eq_showback_shared :
    (run tick sharedController [steadyTick, partialTick]).energyShowback.get? "tenant-b" =
      some ((run tick sharedController [steadyTick, partialTick]).exportedKwh "tenant-b") := by
  refine counter_eq_showback rfl rfl rfl (ok_of_toOption (by decide +kernel))
    (ok_of_toOption (by decide +kernel)) (by decide +kernel) disjointDomains_twoDomains ?_
    (halfQuota "tenant-b" [1]) (List.mem_cons_of_mem _ List.mem_cons_self)
  intro inputs listed domainName gpu watts found
  have cases : inputs = steadyTick ∨ inputs = partialTick := by simpa using listed
  rcases cases with rfl | rfl
  · cases found
    norm_num
  · have stored : (if gpu = 1 then none else some (600 : ℚ)) = some watts := found
    split at stored
    · cases stored
    · cases stored
      norm_num

end MeteredController

end Opendps.Controller
