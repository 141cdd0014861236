/-
**What a loaded topology can answer.**

The queries of `PDNTopology` on a topology that was loaded from any document. A query raises when a
name leads nowhere or a denominator is zero; the loader looks up the rack a domain names, and neither
its PDU nor its budget. So the rack and the effective budget of a domain are always there
(`domainBudgetW_isOk`), its PDU, the check of its caps and the oversubscription ratio exactly when the
document grounds them (`fullyUsable_iff`). On topologies with finite numbers the queries are those of
`PDNTopology` (`domainBudgetW_ofTopology`, `validateAllocation_ofTopology`).
-/

import Opendps.Lib.FloatArithmetic
import Opendps.Pdn.TopologyDocument

namespace Opendps.Pdn

open Opendps.Lib

/-- `table[key]`, for a key from a document. -/
def subscript {β : Type} (table : Dict String β) : Json → Except PyError β
  | .str key =>
    match table.get? key with
    | some found => .ok found
    | none => .error (.keyError key)
  | .arr elements => .error (Json.arr elements).unhashable
  | .obj items => .error (Json.obj items).unhashable
  | key => .error (.keyError key.repr)

/-- `table.get(key)`, for a key from a document. -/
def getKey {β : Type} (table : Dict String β) : Json → Except PyError (Option β)
  | .str key => .ok (table.get? key)
  | .arr elements => .error (Json.arr elements).unhashable
  | .obj items => .error (Json.obj items).unhashable
  | _ => .ok none

theorem subscript_isOk_iff {β : Type} {table : Dict String β} {key : Json} :
    (∃ found, subscript table key = .ok found) ↔ ∃ name, key = .str name ∧ name ∈ table.keys := by
  cases key with
  | str name =>
    rw [subscript]
    cases found : table.get? name with
    | some value =>
      have known : name ∈ table.keys := Dict.mem_keys_iff.mpr ⟨value, found⟩
      exact ⟨fun _ => ⟨name, rfl, known⟩, fun _ => ⟨value, rfl⟩⟩
    | none =>
      have unknown : name ∉ table.keys := Dict.get?_eq_none_iff.mp found
      constructor
      · rintro ⟨_, ⟨⟩⟩
      · rintro ⟨_, ⟨⟩, known⟩
        exact absurd known unknown
  | _ => simp [subscript]

namespace LoadedTopology

/-! ### The queries -/

/-- `self.domains[domain_name]`. -/
def domain (topology : LoadedTopology) (domainName : String) : Except PyError LoadedDomain :=
  subscript topology.domains (.str domainName)

def domainsOnPdu (topology : LoadedTopology) (pduName : Json) : List LoadedDomain :=
  topology.domains.values.filter fun domain => domain.pduName.eq pduName

def domainsOnRack (topology : LoadedTopology) (rackName : Json) : List LoadedDomain :=
  topology.domains.values.filter fun domain => domain.rackName.eq rackName

def pduForDomain (topology : LoadedTopology) (domainName : String) : Except PyError LoadedPDU := do
  let domain ← topology.domain domainName
  subscript topology.pdus domain.pduName

/-- The rack of a domain; a name that counts as false means no rack. -/
def rackForDomain (topology : LoadedTopology) (domainName : String) :
    Except PyError (Option LoadedRack) := do
  let domain ← topology.domain domainName
  if domain.rackName.isTruthy then getKey topology.racks domain.rackName else pure none

/-- The static budget of a domain, scaled down to its proportional share of a rack whose budget is
positive and below the sum of its domains' budgets. -/
def rackScaledBudgetW (topology : LoadedTopology) (domain : LoadedDomain) :
    Option LoadedRack → Except PyError PyFloat
  | none => .ok domain.budgetW
  | some rack =>
    let total := PyFloat.sum ((topology.domainsOnRack domain.rackName).map LoadedDomain.budgetW)
    if total.gt rack.budgetW && rack.budgetW.gt (.finite 0) then
      (domain.budgetW.mul rack.budgetW).div total
    else .ok domain.budgetW

/-- The budget the brains allocate GPU caps against. -/
def domainBudgetW (topology : LoadedTopology) (domainName : String) : Except PyError PyFloat := do
  let domain ← topology.domain domainName
  match topology.adoptedBudgetW.get? domainName with
  | some adopted => pure (adopted.sub domain.nodeOverheadW).atLeastZero
  | none =>
    let rack ← topology.rackForDomain domainName
    let budget ← topology.rackScaledBudgetW domain rack
    pure (budget.sub domain.nodeOverheadW).atLeastZero

/-- The draw a check assumes of a group. -/
def assumedDrawW (group : List LoadedDomain) (domainName : String) (domain : LoadedDomain)
    (proposedTotal : PyFloat) : PyFloat :=
  PyFloat.sum (group.map fun other => if other.name = domainName then
    proposedTotal.add domain.nodeOverheadW else other.budgetW)

/-- Whether the caps proposed for a domain are accepted. -/
def validateAllocation (topology : LoadedTopology) (domainName : String)
    (proposedCaps : Dict GpuIndex PyFloat) : Except PyError Bool := do
  let domain ← topology.domain domainName
  let proposedTotal := PyFloat.sum proposedCaps.values
  let budget ← topology.domainBudgetW domainName
  if proposedTotal.gt budget then pure false
  else
    let pdu ← subscript topology.pdus domain.pduName
    let pduTotal := assumedDrawW (topology.domainsOnPdu domain.pduName) domainName domain proposedTotal
    if pduTotal.gt (pdu.capacityW.mul pdu.derating) then pure false
    else
      let rack ← topology.rackForDomain domainName
      match rack with
      | none => pure true
      | some rack =>
        let rackTotal :=
          assumedDrawW (topology.domainsOnRack domain.rackName) domainName domain proposedTotal
        pure !rackTotal.gt rack.budgetW

def oversubscriptionRatio (topology : LoadedTopology) (domainName : String)
    (proposedCaps : Dict GpuIndex PyFloat) : Except PyError PyFloat := do
  let domain ← topology.domain domainName
  (PyFloat.sum proposedCaps.values).div domain.budgetW

/-- Every query about a domain returns a value. -/
structure Answers (topology : LoadedTopology) (domainName : String)
    (proposedCaps : Dict GpuIndex PyFloat) : Prop where
  domainBudgetW : ∃ budget, topology.domainBudgetW domainName = .ok budget
  pduForDomain : ∃ pdu, topology.pduForDomain domainName = .ok pdu
  rackForDomain : ∃ rack, topology.rackForDomain domainName = .ok rack
  validateAllocation : ∃ accepted, topology.validateAllocation domainName proposedCaps = .ok accepted
  oversubscriptionRatio : ∃ ratio, topology.oversubscriptionRatio domainName proposedCaps = .ok ratio

/-- Every query about every domain returns a value, whatever caps are proposed. -/
def FullyUsable (topology : LoadedTopology) : Prop :=
  ∀ domainName ∈ topology.domains.keys, ∀ proposedCaps, topology.Answers domainName proposedCaps

/-! ### What always has an answer -/

/-- No rack, or one that the topology has. -/
def RackResolves (topology : LoadedTopology) (domain : LoadedDomain) : Prop :=
  domain.rackName = .null ∨
    ∃ rackName, domain.rackName = .str rackName ∧ topology.racks.contains rackName = true

section Queries

variable {topology : LoadedTopology} {domainName : String} {found : LoadedDomain}

theorem rackForDomain_isOk (present : topology.domain domainName = .ok found)
    (resolves : topology.RackResolves found) :
    ∃ rack, topology.rackForDomain domainName = .ok rack := by
  unfold rackForDomain
  rw [present]
  show ∃ rack, (if found.rackName.isTruthy then getKey topology.racks found.rackName
    else pure none) = .ok rack
  rcases resolves with absent | ⟨rackName, named, _⟩
  · rw [absent]
    exact ⟨none, rfl⟩
  · rw [named]
    split
    · exact ⟨topology.racks.get? rackName, rfl⟩
    · exact ⟨none, rfl⟩

/-- The denominator of a rack's share is above the rack's positive budget. -/
theorem rackScaledBudgetW_isOk (topology : LoadedTopology) (domain : LoadedDomain)
    (rack : Option LoadedRack) :
    ∃ budget, topology.rackScaledBudgetW domain rack = .ok budget := by
  cases rack with
  | none => exact ⟨domain.budgetW, rfl⟩
  | some rack =>
    unfold rackScaledBudgetW
    simp only
    split
    · next short =>
      rw [Bool.and_eq_true] at short
      exact PyFloat.div_isOk_of_gt short.1 short.2 _
    · exact ⟨domain.budgetW, rfl⟩

theorem domainBudgetW_isOk (present : topology.domain domainName = .ok found)
    (resolves : topology.RackResolves found) :
    ∃ budget, topology.domainBudgetW domainName = .ok budget := by
  obtain ⟨rack, onRack⟩ := rackForDomain_isOk present resolves
  obtain ⟨budget, scaled⟩ := rackScaledBudgetW_isOk topology found rack
  cases adopted : topology.adoptedBudgetW.get? domainName with
  | some value =>
    refine ⟨(value.sub found.nodeOverheadW).atLeastZero, bind_of_ok present ?_⟩
    simp only [adopted]
    rfl
  | none =>
    refine ⟨(budget.sub found.nodeOverheadW).atLeastZero, bind_of_ok present ?_⟩
    simp only [adopted]
    exact bind_of_ok onRack (bind_of_ok scaled rfl)

theorem not_gt_domainBudgetW {budget : PyFloat}
    (answer : topology.domainBudgetW domainName = .ok budget) :
    (PyFloat.finite 0).gt budget = false := by
  obtain ⟨domain, _, answer⟩ := ok_of_bind answer
  split at answer
  · cases answer
    exact PyFloat.not_gt_atLeastZero _
  · obtain ⟨_, _, answer⟩ := ok_of_bind answer
    obtain ⟨_, _, answer⟩ := ok_of_bind answer
    cases answer
    exact PyFloat.not_gt_atLeastZero _

/-! ### What depends on the PDU and on the budget -/

theorem pduForDomain_isOk_iff (present : topology.domain domainName = .ok found) :
    (∃ pdu, topology.pduForDomain domainName = .ok pdu) ↔
      ∃ pduName, found.pduName = .str pduName ∧ pduName ∈ topology.pdus.keys := by
  rw [← subscript_isOk_iff, pduForDomain, present]
  rfl

/-- The check looks the PDU up for every proposal within the budget. -/
theorem validateAllocation_isOk (present : topology.domain domainName = .ok found)
    (resolves : topology.RackResolves found)
    (grounded : ∃ pduName, found.pduName = .str pduName ∧ pduName ∈ topology.pdus.keys)
    (proposedCaps : Dict GpuIndex PyFloat) :
    ∃ accepted, topology.validateAllocation domainName proposedCaps = .ok accepted := by
  obtain ⟨budget, budgetIs⟩ := domainBudgetW_isOk present resolves
  obtain ⟨rack, onRack⟩ := rackForDomain_isOk present resolves
  obtain ⟨pdu, pduIs⟩ := subscript_isOk_iff.mpr grounded
  simp only [validateAllocation, present, budgetIs, pduIs, onRack, bind, Except.bind]
  split
  · exact ⟨false, rfl⟩
  split
  · exact ⟨false, rfl⟩
  · cases rack <;> exact ⟨_, rfl⟩

/-- The empty proposal is within every budget. -/
theorem validateAllocation_empty (present : topology.domain domainName = .ok found)
    (resolves : topology.RackResolves found) {exc : PyError}
    (dangling : subscript topology.pdus found.pduName = .error exc) :
    topology.validateAllocation domainName .empty = .error exc := by
  obtain ⟨budget, budgetIs⟩ := domainBudgetW_isOk present resolves
  have within : (PyFloat.sum (Dict.empty : Dict GpuIndex PyFloat).values).gt budget = false :=
    not_gt_domainBudgetW budgetIs
  simp only [validateAllocation, present, budgetIs, dangling, within, bind, Except.bind]
  rfl

/-- Every proposal is checked exactly when there is a PDU to check it against. -/
theorem validateAllocation_isOk_iff (present : topology.domain domainName = .ok found)
    (resolves : topology.RackResolves found) :
    (∀ proposedCaps, ∃ accepted, topology.validateAllocation domainName proposedCaps = .ok accepted) ↔
      ∃ pduName, found.pduName = .str pduName ∧ pduName ∈ topology.pdus.keys := by
  refine ⟨fun checks => subscript_isOk_iff.mp ?_, validateAllocation_isOk present resolves⟩
  obtain ⟨accepted, checked⟩ := checks .empty
  cases looked : subscript topology.pdus found.pduName with
  | ok pdu => exact ⟨pdu, rfl⟩
  | error exc =>
    rw [validateAllocation_empty present resolves looked] at checked
    cases checked

theorem oversubscriptionRatio_isOk_iff (present : topology.domain domainName = .ok found)
    (proposedCaps : Dict GpuIndex PyFloat) :
    (∃ ratio, topology.oversubscriptionRatio domainName proposedCaps = .ok ratio) ↔
      found.budgetW ≠ .finite 0 := by
  rw [← @PyFloat.div_isOk_iff (PyFloat.sum proposedCaps.values), oversubscriptionRatio, present]
  rfl

end Queries

/-! ### Documents that ground their domains -/

/-- One of the tables of a document; empty where there is none. -/
def table (config : Json) (key : String) : Dict String Json :=
  match config.get? key with
  | some (.obj entries) => .ofList entries
  | _ => .empty

/-- A domain of a document names a PDU of it, and a budget other than zero. -/
def GroundedDomain (config spec : Json) : Prop :=
  (∃ pduName, spec.get? "pdu_name" = some (.str pduName) ∧ pduName ∈ (table config "pdus").keys) ∧
    ∀ budget, spec.get? "budget_w" = some budget → budget.floatOf ≠ .ok (.finite 0)

/-- Every domain of a document is grounded. -/
def Grounded (config : Json) : Prop :=
  ∀ domainName spec, (table config "domains").get? domainName = some spec → GroundedDomain config spec

theorem table_of_itemsOf {config found : Json} {key : String} {entries : List (String × Json)}
    (hasTable : config.item key = .ok found) (listed : found.itemsOf = .ok entries) :
    table config key = .ofList entries := by
  unfold table
  rw [Json.item_eq_ok_iff.mp hasTable]
  cases found with
  | obj items =>
    cases listed
    rfl
  | _ => cases listed

/-- The entries of a loaded table are built from the entries of the document. -/
theorem matches_of_loadAll {β : Type} {build : String → Json → Except PyError β}
    {entries : List (String × Json)} {built : Dict String β}
    (loaded : loadAll build entries = .ok built) :
    Dict.Matches (fun name spec value => build name spec = .ok value) (.ofList entries) built := by
  -- along the loop, for any two tables to start from
  have along : ∀ (entries : List (String × Json)) (specs : Dict String Json) (start : Dict String β),
      Dict.Matches (fun name spec value => build name spec = .ok value) specs start →
      entries.foldlM (fun (table : Dict String β) entry => do
        let value ← build entry.1 entry.2
        pure (table.set entry.1 value)) start = .ok built →
      Dict.Matches (fun name spec value => build name spec = .ok value) (specs.setAll entries) built := by
    intro entries
    induction entries with
    | nil =>
      intro specs start before ends
      cases ends
      exact before
    | cons entry rest ih =>
      intro specs start before ends
      rw [List.foldlM_cons] at ends
      obtain ⟨next, stored, ends⟩ := ok_of_bind ends
      obtain ⟨value, own, same⟩ := ok_of_bind stored
      cases same
      exact ih (specs.set entry.1 entry.2) (start.set entry.1 value) (before.set own) ends
  exact along entries .empty .empty Dict.matches_empty loaded

theorem rackResolves_of_unknownRack {racks : Dict String LoadedRack} {domain : LoadedDomain}
    (known : unknownRack racks domain = none) {topology : LoadedTopology}
    (same : topology.racks = racks) : topology.RackResolves domain := by
  unfold unknownRack at known
  split at known
  · next absent => exact .inl absent
  · next rackName named =>
    split at known
    · next contained => exact .inr ⟨rackName, named, same ▸ contained⟩
    · cases known
  all_goals cases known

/-- How a loaded topology comes from its document. -/
structure ComesFrom (config : Json) (topology : LoadedTopology) : Prop where
  pdus : Dict.Matches (fun name spec pdu => LoadedPDU.ofEntry name spec = .ok pdu)
    (table config "pdus") topology.pdus
  domains : Dict.Matches (fun name spec domain => LoadedDomain.ofEntry name spec = .ok domain)
    (table config "domains") topology.domains
  racks : ∀ domain ∈ topology.domains.values, topology.RackResolves domain

theorem comesFrom_of_fromDict {config : Json} {topology : LoadedTopology}
    (loads : fromDict config = .ok topology) : ComesFrom config topology := by
  obtain ⟨pduTable, hasPdus, loads⟩ := ok_of_bind loads
  obtain ⟨pduEntries, pdusListed, loads⟩ := ok_of_bind loads
  obtain ⟨pdus, pdusBuilt, loads⟩ := ok_of_bind loads
  obtain ⟨_, _, loads⟩ := ok_of_bind loads
  obtain ⟨_, _, loads⟩ := ok_of_bind loads
  obtain ⟨racks, _, loads⟩ := ok_of_bind loads
  obtain ⟨domainTable, hasDomains, loads⟩ := ok_of_bind loads
  obtain ⟨domainEntries, domainsListed, loads⟩ := ok_of_bind loads
  obtain ⟨domains, domainsBuilt, loads⟩ := ok_of_bind loads
  split at loads
  · cases loads
  · next known =>
    cases loads
    exact {
      pdus := table_of_itemsOf hasPdus pdusListed ▸ matches_of_loadAll pdusBuilt
      domains := table_of_itemsOf hasDomains domainsListed ▸ matches_of_loadAll domainsBuilt
      racks := fun domain member =>
        rackResolves_of_unknownRack (List.findSome?_eq_none_iff.mp known domain member) rfl }

/-- The loader keeps the name of the PDU, and converts the budget. -/
theorem fields_of_ofEntry {name : String} {spec : Json} {domain : LoadedDomain}
    (built : LoadedDomain.ofEntry name spec = .ok domain) :
    spec.get? "pdu_name" = some domain.pduName ∧
      ∃ budget, spec.get? "budget_w" = some budget ∧ budget.floatOf = .ok domain.budgetW := by
  obtain ⟨budget, hasBudget, built⟩ := ok_of_bind built
  obtain ⟨budgetW, converted, built⟩ := ok_of_bind built
  obtain ⟨_, _, built⟩ := ok_of_bind built
  obtain ⟨_, _, built⟩ := ok_of_bind built
  obtain ⟨pduName, hasPdu, built⟩ := ok_of_bind built
  obtain ⟨_, _, built⟩ := ok_of_bind built
  obtain ⟨_, _, built⟩ := ok_of_bind built
  obtain ⟨_, _, built⟩ := ok_of_bind built
  obtain ⟨_, _, built⟩ := ok_of_bind built
  obtain ⟨_, _, built⟩ := ok_of_bind built
  cases built
  exact ⟨Json.item_eq_ok_iff.mp hasPdu, budget, Json.item_eq_ok_iff.mp hasBudget, converted⟩

/-- A domain of a document is grounded exactly when the one built from it leads somewhere. -/
theorem groundedDomain_iff {config spec : Json} {topology : LoadedTopology} {name : String}
    {domain : LoadedDomain} (comesFrom : ComesFrom config topology)
    (built : LoadedDomain.ofEntry name spec = .ok domain) :
    GroundedDomain config spec ↔
      (∃ pduName, domain.pduName = .str pduName ∧ pduName ∈ topology.pdus.keys) ∧
        domain.budgetW ≠ .finite 0 := by
  obtain ⟨hasPdu, budget, hasBudget, converted⟩ := fields_of_ofEntry built
  unfold GroundedDomain
  rw [hasPdu, hasBudget]
  constructor
  · rintro ⟨⟨pduName, named, known⟩, nonzero⟩
    refine ⟨⟨pduName, Option.some.inj named, comesFrom.pdus.mem_keys_iff.mp known⟩, fun zero => ?_⟩
    exact nonzero budget rfl (zero ▸ converted)
  · rintro ⟨⟨pduName, named, known⟩, nonzero⟩
    refine ⟨⟨pduName, congrArg some named, comesFrom.pdus.mem_keys_iff.mpr known⟩, ?_⟩
    rintro _ ⟨⟩ zero
    exact nonzero (Except.ok.inj (converted.symm.trans zero))

/-- What a domain of a loaded topology answers. -/
theorem answers_iff {topology : LoadedTopology} {domainName : String} {found : LoadedDomain}
    (present : topology.domain domainName = .ok found) (resolves : topology.RackResolves found) :
    (∀ proposedCaps, topology.Answers domainName proposedCaps) ↔
      (∃ pduName, found.pduName = .str pduName ∧ pduName ∈ topology.pdus.keys) ∧
        found.budgetW ≠ .finite 0 := by
  constructor
  · intro answers
    have answers := answers .empty
    exact ⟨(pduForDomain_isOk_iff present).mp answers.pduForDomain,
      (oversubscriptionRatio_isOk_iff present .empty).mp answers.oversubscriptionRatio⟩
  · rintro ⟨grounded, nonzero⟩ proposedCaps
    exact {
      domainBudgetW := domainBudgetW_isOk present resolves
      pduForDomain := (pduForDomain_isOk_iff present).mpr grounded
      rackForDomain := rackForDomain_isOk present resolves
      validateAllocation := (validateAllocation_isOk_iff present resolves).mpr grounded proposedCaps
      oversubscriptionRatio := (oversubscriptionRatio_isOk_iff present proposedCaps).mpr nonzero }

/-- **A loaded topology answers every query about every domain** exactly when the document names, for
every domain, a PDU that it has and a budget other than zero. -/
theorem fullyUsable_iff {config : Json} {topology : LoadedTopology}
    (loads : fromDict config = .ok topology) : topology.FullyUsable ↔ Grounded config := by
  have comesFrom := comesFrom_of_fromDict loads
  -- the domain that an entry becomes
  have each : ∀ domainName spec domain, topology.domains.get? domainName = some domain →
      LoadedDomain.ofEntry domainName spec = .ok domain →
      ((∀ proposedCaps, topology.Answers domainName proposedCaps) ↔ GroundedDomain config spec) := by
    intro domainName spec domain stored built
    have present : topology.domain domainName = .ok domain := by
      rw [LoadedTopology.domain, subscript, stored]
    have member : domain ∈ topology.domains.values :=
      List.mem_map_of_mem (Dict.get?_eq_some_iff.mp stored)
    rw [groundedDomain_iff comesFrom built]
    exact answers_iff present (comesFrom.racks domain member)
  constructor
  · intro usable domainName spec listed
    obtain ⟨domain, stored, built⟩ := comesFrom.domains.exists_right listed
    exact (each domainName spec domain stored built).mp
      (usable domainName (Dict.mem_keys_iff.mpr ⟨domain, stored⟩))
  · intro grounded domainName known
    obtain ⟨domain, stored⟩ := Dict.mem_keys_iff.mp known
    obtain ⟨spec, listed, built⟩ := comesFrom.domains.exists_left stored
    exact (each domainName spec domain stored built).mpr (grounded domainName spec listed)

/-- A document with one domain, on a PDU of 1000 W if there is one of that name. -/
def oneDomain (pduName : String) (budgetW : ℚ) : Json :=
  .obj [("pdus", .obj [("p1", .obj [("capacity_w", watts 1000)])]),
    ("domains", .obj [("rack-a", .obj [("budget_w", watts budgetW), ("gpu_indices", .arr [.int 0]),
      ("pdu_name", .str pduName)])])]

theorem fullyUsable_oneDomain : ∃ topology, fromDict (oneDomain "p1" 500) = .ok topology ∧
    (topology.FullyUsable ↔ Grounded (oneDomain "p1" 500)) :=
  ⟨_, rfl, fullyUsable_iff rfl⟩

/-- A document is loaded although its domain names a PDU that it does not have, or a budget of zero. -/
theorem not_fullyUsable_of_loaded :
    (∃ topology, fromDict (oneDomain "p9" 500) = .ok topology ∧
      topology.pduForDomain "rack-a" = .error (.keyError "p9") ∧
      topology.validateAllocation "rack-a" .empty = .error (.keyError "p9")) ∧
    (∃ topology, fromDict (oneDomain "p1" 0) = .ok topology ∧
      topology.oversubscriptionRatio "rack-a" .empty = .error .zeroDivisionError) ∧
    ¬ ∀ config topology, fromDict config = .ok topology → topology.FullyUsable := by
  refine ⟨⟨_, rfl, rfl, validateAllocation_empty rfl (.inl rfl) rfl⟩, ⟨_, rfl, rfl⟩, fun always => ?_⟩
  have usable := always (oneDomain "p9" 500) _ rfl "rack-a" (by decide) .empty
  obtain ⟨pdu, found⟩ := usable.pduForDomain
  cases found

/-! ### Topologies with finite numbers -/

section Finite

variable (topology : PDNTopology)

theorem domain_ofTopology (domainName : String) :
    (ofTopology topology).domain domainName = (topology.domain domainName).map ofDomain := by
  rw [LoadedTopology.domain, PDNTopology.domain, subscript, ofTopology, Dict.get?_mapVals]
  cases topology.domains.get? domainName <;> rfl

theorem subscript_ofTopology (pduName : String) :
    subscript (ofTopology topology).pdus (.str pduName) = (topology.pdu pduName).map ofPdu := by
  rw [PDNTopology.pdu, subscript, ofTopology, Dict.get?_mapVals]
  cases topology.pdus.get? pduName <;> rfl

theorem rackNameOf_eq (first second : Option String) :
    (rackNameOf first).eq (rackNameOf second) = decide (first = second) := by
  cases first with
  | none => cases second <;> simp [rackNameOf, Json.eq, Json.isNan, Json.same, Json.number?]
  | some first =>
    rw [Bool.eq_iff_iff, rackNameOf, Json.eq_str_iff, decide_eq_true_eq]
    cases second <;> simp [rackNameOf, eq_comm]

theorem domainsOnRack_ofTopology (rackName : Option String) :
    (ofTopology topology).domainsOnRack (rackNameOf rackName) =
      (topology.domainsOnRack rackName).map ofDomain := by
  have sameRack : (fun domain : PowerDomain => (ofDomain domain).rackName.eq (rackNameOf rackName)) =
      fun domain => decide (domain.rackName = rackName) := by
    funext domain
    exact rackNameOf_eq domain.rackName rackName
  rw [domainsOnRack, PDNTopology.domainsOnRack, ofTopology, Dict.values_mapVals, List.filter_map]
  exact congrArg (fun test => (topology.domains.values.filter test).map ofDomain) sameRack

theorem domainsOnPdu_ofTopology (pduName : String) :
    (ofTopology topology).domainsOnPdu (.str pduName) =
      (topology.domainsOnPdu pduName).map ofDomain := by
  have samePdu : (fun domain : PowerDomain => (ofDomain domain).pduName.eq (.str pduName)) =
      fun domain => decide (domain.pduName = pduName) := by
    funext domain
    rw [Bool.eq_iff_iff, decide_eq_true_eq]
    exact Json.eq_str_iff.trans (by rw [Json.str.injEq, eq_comm])
  rw [domainsOnPdu, PDNTopology.domainsOnPdu, ofTopology, Dict.values_mapVals, List.filter_map]
  exact congrArg (fun test => (topology.domains.values.filter test).map ofDomain) samePdu

theorem rackForDomain_ofTopology {domainName : String} {found : PowerDomain}
    (present : topology.domain domainName = .ok found) :
    (ofTopology topology).rackForDomain domainName = .ok ((topology.rackOf found).map ofRack) := by
  refine bind_of_ok ((domain_ofTopology topology domainName).trans (congrArg _ present)) ?_
  unfold PDNTopology.rackOf
  show (if (rackNameOf found.rackName).isTruthy then
    getKey (ofTopology topology).racks (rackNameOf found.rackName) else pure none) = _
  cases found.rackName with
  | none => rfl
  | some rackName =>
    by_cases empty : rackName = ""
    · subst empty
      rfl
    · have truthy : (rackNameOf (some rackName)).isTruthy = true := bne_iff_ne.mpr empty
      simp only [truthy, if_true, empty, if_false]
      exact congrArg Except.ok (Dict.get?_mapVals (fun _ => ofRack) topology.racks rackName)

/-- The denominator is not zero, so the float division is the one of the rationals. -/
theorem rackScaledBudgetW_ofTopology (domain : PowerDomain) :
    (ofTopology topology).rackScaledBudgetW (ofDomain domain) ((topology.rackOf domain).map ofRack) =
      .ok (.finite (topology.rackScaledBudgetW domain)) := by
  unfold rackScaledBudgetW PDNTopology.rackScaledBudgetW
  cases topology.rackOf domain with
  | none => rfl
  | some rack =>
    have total : PyFloat.sum (((ofTopology topology).domainsOnRack (rackNameOf domain.rackName)).map
        LoadedDomain.budgetW) =
          .finite ((topology.domainsOnRack domain.rackName).map PowerDomain.budgetW).sum := by
      rw [domainsOnRack_ofTopology, List.map_map, ← PyFloat.sum_finite, List.map_map]
      rfl
    simp only [Option.map_some, ofRack, ofDomain, total, PyFloat.gt_finite, PyFloat.mul_finite,
      Bool.and_eq_true, decide_eq_true_eq]
    by_cases short : rack.budgetW <
        ((topology.domainsOnRack domain.rackName).map PowerDomain.budgetW).sum ∧ 0 < rack.budgetW
    · rw [if_pos short, if_pos short]
      exact PyFloat.div_finite _ (short.2.trans short.1).ne'
    · rw [if_neg short, if_neg short]

/-- **The effective budget is the one of the topology.** -/
theorem domainBudgetW_ofTopology (domainName : String) :
    (ofTopology topology).domainBudgetW domainName =
      (topology.domainBudgetW domainName).map .finite := by
  unfold domainBudgetW PDNTopology.domainBudgetW
  rw [domain_ofTopology]
  cases present : topology.domain domainName with
  | error exc => rfl
  | ok found =>
    have adoptedIs : (ofTopology topology).adoptedBudgetW.get? domainName =
        (topology.adoptedBudgetW.get? domainName).map .finite :=
      Dict.get?_mapVals (fun _ => PyFloat.finite) topology.adoptedBudgetW domainName
    simp only [Except.map, bind, Except.bind, adoptedIs, rackForDomain_ofTopology topology present,
      rackScaledBudgetW_ofTopology]
    cases topology.adoptedBudgetW.get? domainName with
    | some adopted =>
      simp only [Option.map_some, ofDomain, PyFloat.sub_finite, PyFloat.atLeastZero_finite]
      rfl
    | none =>
      simp only [Option.map_none, ofDomain, PyFloat.sub_finite, PyFloat.atLeastZero_finite]
      rfl

theorem assumedDrawW_ofTopology (group : List PowerDomain) (domainName : String)
    (domain : PowerDomain) (proposedTotal : ℚ) :
    assumedDrawW (group.map ofDomain) domainName (ofDomain domain) (.finite proposedTotal) =
      .finite (PDNTopology.assumedDrawW group domainName domain proposedTotal) := by
  rw [assumedDrawW, PDNTopology.assumedDrawW, ← PyFloat.sum_finite, List.map_map, List.map_map]
  refine congrArg PyFloat.sum (List.map_congr_left fun other _ => ?_)
  by_cases same : other.name = domainName <;> simp [ofDomain, same]

/-- **A check of finite caps is the one of the topology.** -/
theorem validateAllocation_ofTopology (domainName : String) (proposedCaps : Dict GpuIndex ℚ) :
    (ofTopology topology).validateAllocation domainName (proposedCaps.mapVals fun _ => .finite) =
      topology.validateAllocation domainName proposedCaps := by
  unfold validateAllocation PDNTopology.validateAllocation
  rw [domain_ofTopology, domainBudgetW_ofTopology, Dict.values_mapVals, PyFloat.sum_finite]
  cases present : topology.domain domainName with
  | error exc => rfl
  | ok found =>
    simp only [Except.map, bind, Except.bind, rackForDomain_ofTopology topology present]
    cases topology.domainBudgetW domainName with
    | error exc => rfl
    | ok budget =>
      simp only [PyFloat.gt_finite, decide_eq_true_eq]
      by_cases exceeds : budget < proposedCaps.values.sum
      · simp only [exceeds, if_true]
      · have pduIs : subscript (ofTopology topology).pdus (ofDomain found).pduName =
            (topology.pdu found.pduName).map ofPdu := subscript_ofTopology topology found.pduName
        have onPdu : (ofTopology topology).domainsOnPdu (ofDomain found).pduName =
            (topology.domainsOnPdu found.pduName).map ofDomain :=
          domainsOnPdu_ofTopology topology found.pduName
        have onRack : (ofTopology topology).domainsOnRack (ofDomain found).rackName =
            (topology.domainsOnRack found.rackName).map ofDomain :=
          domainsOnRack_ofTopology topology found.rackName
        simp only [exceeds, if_false, pduIs, onPdu, onRack, assumedDrawW_ofTopology]
        cases topology.pdu found.pduName with
        | error exc => rfl
        | ok pdu =>
          simp only [Except.map, ofPdu, PyFloat.mul_finite, PyFloat.gt_finite, decide_eq_true_eq]
          by_cases full : pdu.capacityW * pdu.derating < PDNTopology.assumedDrawW
              (topology.domainsOnPdu found.pduName) domainName found proposedCaps.values.sum
          · simp only [full, if_true, PDU.effectiveCapacityW]
          · simp only [full, if_false, PDU.effectiveCapacityW]
            cases topology.rackOf found with
            | none => rfl
            | some rack =>
              simp only [Option.map_some, ofRack, PyFloat.gt_finite, ← decide_not, not_lt]

end Finite

end LoadedTopology

end Opendps.Pdn
