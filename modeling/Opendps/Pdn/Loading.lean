/-
**Loading a topology and a quota from their configuration.**

Both `from_dict` functions read a parsed document in which keys may be missing; the specs below have
one field for each key, already of the type the conversions of the source give it.

A topology that was loaded files every domain under its name, knows the rack of every domain that
names one, and has no adopted budget (`Loaded`, `loaded_of_fromDict`). A quota that was loaded has
passed its own check (`QuotaConfig.valid_of_fromDict`).
-/

import Opendps.Lib.Builtins
import Opendps.Pdn.Allocation
import Opendps.Pdn.Quota

namespace Opendps.Pdn

open Opendps.Lib

/-- `spec[key]`. -/
def required {α : Type} (key : String) : Option α → Except PyError α
  | some value => .ok value
  | none => .error (.keyError key)

/-- A field of a document. -/
theorem item_ofFields {fields : List (String × Option Json)} (nodup : (fields.map Prod.fst).Nodup)
    {key : String} {value : Option Json} (member : (key, value) ∈ fields) :
    (Json.ofFields fields).item key = required key value := by
  have found : (Json.ofFields fields).get? key = value := Json.get?_ofFields nodup member
  rw [Json.ofFields, Json.object, Json.get?] at found
  rw [Json.ofFields, Json.object, Json.item, found]
  cases value <;> rfl

/-! ### Topologies -/

structure PDUSpec where
  capacityW : Option ℚ
  derating : Option ℚ := none

structure RackSpec where
  budgetW : Option ℚ

structure DomainSpec where
  budgetW : Option ℚ
  gpuIndices : Option (List GpuIndex)
  pduName : Option String
  priority : Option ℤ := none
  nodeOverheadW : Option ℚ := none
  rackName : Option String := none

structure TopologyConfig where
  pdus : Option (Dict String PDUSpec)
  racks : Option (Dict String RackSpec) := none
  domains : Option (Dict String DomainSpec)

/-- Build one value for each named spec. -/
def buildAll {α β : Type} (build : String → α → Except PyError β) (specs : Dict String α) :
    Except PyError (Dict String β) :=
  specs.items.foldlM (fun (table : Dict String β) item => do
    let value ← build item.1 item.2
    pure (table.set item.1 value)) .empty

def PDU.ofSpec (name : String) (spec : PDUSpec) : Except PyError PDU := do
  let capacityW ← required "capacity_w" spec.capacityW
  pure { name := name, capacityW := capacityW, derating := spec.derating.getD (9 / 10) }

def Rack.ofSpec (name : String) (spec : RackSpec) : Except PyError Rack := do
  let budgetW ← required "budget_w" spec.budgetW
  pure { name := name, budgetW := budgetW }

def PowerDomain.ofSpec (name : String) (spec : DomainSpec) : Except PyError PowerDomain := do
  let budgetW ← required "budget_w" spec.budgetW
  let gpuIndices ← required "gpu_indices" spec.gpuIndices
  let pduName ← required "pdu_name" spec.pduName
  pure { name := name, budgetW := budgetW, gpuIndices := gpuIndices, pduName := pduName
         priority := spec.priority.getD 0, nodeOverheadW := spec.nodeOverheadW.getD 0
         rackName := spec.rackName }

/-- The refusal of a rack; the name of the rack is written. -/
def rackRefused (domainName rackName : String) : PyError :=
  .valueError ("domain " ++ reprText domainName ++ " references unknown rack " ++ rackName)

/-- A domain that names a rack the topology does not have. -/
def unknownRack (racks : Dict String Rack) (domain : PowerDomain) : Option PyError :=
  match domain.rackName with
  | none => none
  | some rackName =>
    if racks.contains rackName then none
    else some (rackRefused domain.name (reprText rackName))

/-- Build a topology from a configuration. -/
def PDNTopology.fromDict (config : TopologyConfig) : Except PyError PDNTopology := do
  let pdus ← buildAll PDU.ofSpec (← required "pdus" config.pdus)
  let racks ← buildAll Rack.ofSpec (config.racks.getD .empty)
  let domains ← buildAll PowerDomain.ofSpec (← required "domains" config.domains)
  match domains.values.findSome? (unknownRack racks) with
  | some exc => .error exc
  | none => pure { pdus := pdus, domains := domains, racks := racks }

/-- What a loaded topology guarantees. -/
structure PDNTopology.Loaded (topology : PDNTopology) : Prop where
  wellNamed : topology.WellNamed
  rackKnown : ∀ domain ∈ topology.domains.values, ∀ rackName, domain.rackName = some rackName →
    ∃ rack, topology.racks.get? rackName = some rack
  nothingAdopted : topology.adoptedBudgetW = .empty

/-- Whatever holds of every value that is built holds of every entry of the table. -/
theorem forall_of_buildAll {α β : Type} {build : String → α → Except PyError β}
    {holds : String → β → Prop}
    (builds : ∀ name spec value, build name spec = .ok value → holds name value)
    {specs : Dict String α} {table : Dict String β} (built : buildAll build specs = .ok table) :
    ∀ name value, table.get? name = some value → holds name value := by
  -- along the fold, for any table to start from
  have along : ∀ (items : List (String × α)) (start : Dict String β),
      (∀ name value, start.get? name = some value → holds name value) →
      items.foldlM (fun (table : Dict String β) item => do
        let value ← build item.1 item.2
        pure (table.set item.1 value)) start = .ok table →
      ∀ name value, table.get? name = some value → holds name value := by
    intro items
    induction items with
    | nil =>
      intro start before ends
      cases ends
      exact before
    | cons item rest ih =>
      intro start before ends
      rw [List.foldlM_cons] at ends
      cases here : build item.1 item.2 with
      | error exc =>
        rw [here] at ends
        cases ends
      | ok value =>
        rw [here] at ends
        refine ih (start.set item.1 value) (fun name stored found => ?_) ends
        rw [Dict.get?_set] at found
        split at found
        · next same =>
          cases found
          exact same ▸ builds item.1 item.2 value here
        · exact before name stored found
  exact along specs.items .empty (fun name value found => nomatch found) built

theorem PowerDomain.name_of_ofSpec {name : String} {spec : DomainSpec} {domain : PowerDomain}
    (built : PowerDomain.ofSpec name spec = .ok domain) : domain.name = name := by
  obtain ⟨budgetW, gpuIndices, pduName, priority, nodeOverheadW, rackName⟩ := spec
  cases budgetW <;> cases gpuIndices <;> cases pduName <;> cases built
  rfl

theorem PDNTopology.loaded_of_fromDict {config : TopologyConfig} {topology : PDNTopology}
    (loads : PDNTopology.fromDict config = .ok topology) : topology.Loaded := by
  obtain ⟨_, _, loads⟩ := ok_of_bind loads
  obtain ⟨pdus, _, loads⟩ := ok_of_bind loads
  obtain ⟨racks, _, loads⟩ := ok_of_bind loads
  obtain ⟨_, _, loads⟩ := ok_of_bind loads
  obtain ⟨domains, domainsBuilt, loads⟩ := ok_of_bind loads
  have named := @forall_of_buildAll _ _ PowerDomain.ofSpec (fun name domain => domain.name = name)
    (fun _ _ _ => PowerDomain.name_of_ofSpec) _ _ domainsBuilt
  split at loads
  · cases loads
  · next known =>
    cases loads
    refine ⟨named, fun domain member rackName names => ?_, rfl⟩
    have checked := List.findSome?_eq_none_iff.mp known domain member
    simp only [unknownRack, names] at checked
    split at checked
    · next contained => exact Option.isSome_iff_exists.mp contained
    · cases checked

/-! ### Quotas -/

structure TenantSpec where
  tenantId : Option String
  domainName : Option String := none
  gpuIndices : Option (List GpuIndex)
  maxWattsPct : Option ℚ

structure QuotaSpec where
  domainName : Option String
  tenants : Option (List TenantSpec) := none

/-- The constructor of a tenant's quota. -/
def TenantQuota.init (tenantId domainName : String) (gpuIndices : List GpuIndex)
    (maxWattsPct : ℚ) : Except PyError TenantQuota :=
  if positive : 0 < maxWattsPct then
    if atMost : maxWattsPct ≤ 1 then
      .ok ⟨tenantId, domainName, gpuIndices, maxWattsPct, positive, atMost⟩
    else .error (pctRefused (.finite maxWattsPct))
  else .error (pctRefused (.finite maxWattsPct))

def TenantQuota.ofSpec (domainName : String) (spec : TenantSpec) : Except PyError TenantQuota := do
  let tenantId ← required "tenant_id" spec.tenantId
  let gpuIndices ← required "gpu_indices" spec.gpuIndices
  let maxWattsPct ← required "max_watts_pct" spec.maxWattsPct
  TenantQuota.init tenantId (spec.domainName.getD domainName) gpuIndices maxWattsPct

/-- `except (KeyError, TypeError)`: what is missing is reported as a malformed document. -/
def malformed {α : Type} : Except PyError α → Except PyError α
  | .error (.keyError key) => .error (.valueError ("malformed quota config: " ++ reprText key))
  | .error (.typeError message) => .error (.valueError ("malformed quota config: " ++ message))
  | outcome => outcome

/-- Build and validate a quota. -/
def QuotaConfig.fromDict (data : QuotaSpec) : Except PyError QuotaConfig := do
  let config ← malformed do
    let domainName ← required "domain_name" data.domainName
    let tenants ← (data.tenants.getD []).mapM (TenantQuota.ofSpec domainName)
    pure { domainName := domainName, tenants := tenants : QuotaConfig }
  config.validate
  pure config

/-- A loaded quota has passed its check. -/
theorem QuotaConfig.valid_of_fromDict {data : QuotaSpec} {config : QuotaConfig}
    (loads : QuotaConfig.fromDict data = .ok config) : config.Valid := by
  obtain ⟨loaded, _, loads⟩ := ok_of_bind loads
  obtain ⟨_, validated, same⟩ := ok_of_bind loads
  cases same
  exact valid_of_validate validated

end Opendps.Pdn
