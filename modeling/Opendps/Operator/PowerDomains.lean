/-
**From a PowerDomain to the budget it is run with.**

The operator checks a PowerDomain and writes a topology for it: the domain alone on a PDU of 1.2 times
its budget. `fromDict_buildTopology` says what the agent and the controller load from it, and
`powerdomain_handoff` what they then work with: the domain's budget less its overhead, and never below
zero. The PDU leaves room for it unless the overhead alone is more than the derated PDU carries.

Nothing looks at the overhead. A negative one raises the budget above that of the PowerDomain, and one
that is too large leaves not even an idle node room on its PDU (`overhead_breaks_handoff`).
-/

import Opendps.Pdn.TopologyDocument
import Mathlib.Tactic.Linarith
import Mathlib.Tactic.NormNum

namespace Opendps.Operator

open Opendps.Lib Opendps.Pdn

/-- The `spec` of a PowerDomain. -/
structure PowerDomainSpec where
  gpuIndices : Option (List GpuIndex) := none
  budgetWatts : Option ℚ := none
  nodeOverheadWatts : Option ℚ := none

/-- The handler does not try again. -/
structure PermanentError where
  message : String

namespace PowerDomainSpec

def indices (spec : PowerDomainSpec) : List GpuIndex := spec.gpuIndices.getD []

def budgetW (spec : PowerDomainSpec) : ℚ := spec.budgetWatts.getD 1000

def overheadW (spec : PowerDomainSpec) : ℚ := spec.nodeOverheadWatts.getD 0

end PowerDomainSpec

/-! ### The operator's side -/

/-- The entry of the PDU. -/
def pduEntry (budgetW : ℚ) : Json :=
  .object [("name", .str "pdu0"), ("capacity_w", .float (.finite (budgetW * (6 / 5))))]

/-- The entry of the domain. -/
def domainEntry (domainName : String) (gpuIndices : List GpuIndex) (budgetW overheadW : ℚ) : Json :=
  .object [("name", .str domainName), ("pdu_name", .str "pdu0"),
    ("gpu_indices", .arr (gpuIndices.map .int)), ("budget_w", .float (.finite budgetW)),
    ("node_overhead_w", .float (.finite overheadW))]

def buildTopology (domainName : String) (gpuIndices : List GpuIndex) (budgetW overheadW : ℚ) :
    Json :=
  .object [("pdus", .object [("pdu0", pduEntry budgetW)]),
    ("domains", .object [(domainName, domainEntry domainName gpuIndices budgetW overheadW)])]

/-- Reconcile a PowerDomain: the topology that is written to its ConfigMap. -/
def onPowerdomainChange (name : String) (spec : PowerDomainSpec) : Except PermanentError Json :=
  if spec.indices.isEmpty then .error ⟨"gpuIndices must be non-empty"⟩
  else if spec.budgetW ≤ 0 then .error ⟨"budgetWatts must be positive"⟩
  else .ok (buildTopology name spec.indices spec.budgetW spec.overheadW)

/-- The PowerDomains that are accepted, and what is written for them. -/
theorem onPowerdomainChange_eq_ok_iff {name : String} {spec : PowerDomainSpec} {written : Json} :
    onPowerdomainChange name spec = .ok written ↔ spec.indices ≠ [] ∧ 0 < spec.budgetW ∧
      written = buildTopology name spec.indices spec.budgetW spec.overheadW := by
  simp only [onPowerdomainChange, List.isEmpty_iff]
  by_cases noIndices : spec.indices = []
  · rw [if_pos noIndices]
    exact ⟨nofun, fun holds => absurd noIndices holds.1⟩
  · by_cases positive : 0 < spec.budgetW
    · rw [if_neg noIndices, if_neg (not_le.mpr positive), Except.ok.injEq]
      exact ⟨fun same => ⟨noIndices, positive, same.symm⟩, fun holds => holds.2.2.symm⟩
    · rw [if_neg noIndices, if_pos (not_lt.mp positive)]
      exact ⟨nofun, fun holds => absurd holds.2.1 positive⟩

/-! ### What is loaded from it -/

section Loaded

variable (name : String) (gpuIndices : List GpuIndex) (budgetW overheadW : ℚ)

/-- The domain that is loaded. -/
def soleDomain : PowerDomain where
  name := name
  budgetW := budgetW
  gpuIndices := gpuIndices
  pduName := "pdu0"
  nodeOverheadW := overheadW

/-- The PDU the operator makes up. -/
def madeUpPdu : PDU where
  name := "pdu0"
  capacityW := budgetW * (6 / 5)

/-- One domain alone on its PDU. -/
def soleTopology : PDNTopology where
  pdus := Dict.empty.set "pdu0" (madeUpPdu budgetW)
  domains := Dict.empty.set name (soleDomain name gpuIndices budgetW overheadW)

theorem ofEntry_pduEntry :
    LoadedPDU.ofEntry "pdu0" (pduEntry budgetW) = .ok (LoadedTopology.ofPdu (madeUpPdu budgetW)) := by
  have capacity : (pduEntry budgetW).item "capacity_w" =
      .ok (.float (.finite (budgetW * (6 / 5)))) := Json.item_object (by simp) (by simp)
  have derating : (pduEntry budgetW).getOr "derating" (.float (.finite (9 / 10))) =
      .ok (.float (.finite (9 / 10))) := Json.getOr_object_of_not_mem (by simp) _
  rw [LoadedPDU.ofEntry, capacity, derating]
  rfl

theorem ofEntry_domainEntry :
    LoadedDomain.ofEntry name (domainEntry name gpuIndices budgetW overheadW) =
      .ok (LoadedTopology.ofDomain (soleDomain name gpuIndices budgetW overheadW)) := by
  have budget : (domainEntry name gpuIndices budgetW overheadW).item "budget_w" =
      .ok (.float (.finite budgetW)) := Json.item_object (by simp) (by simp)
  have indices : (domainEntry name gpuIndices budgetW overheadW).item "gpu_indices" =
      .ok (.arr (gpuIndices.map .int)) := Json.item_object (by simp) (by simp)
  have pdu : (domainEntry name gpuIndices budgetW overheadW).item "pdu_name" =
      .ok (.str "pdu0") := Json.item_object (by simp) (by simp)
  have priority : (domainEntry name gpuIndices budgetW overheadW).getOr "priority" (.int 0) =
      .ok (.int 0) := Json.getOr_object_of_not_mem (by simp) _
  have overhead : (domainEntry name gpuIndices budgetW overheadW).getOr "node_overhead_w"
      (.float (.finite 0)) = .ok (.float (.finite overheadW)) :=
    Json.getOr_object (by simp) (by simp) _
  have rack : (domainEntry name gpuIndices budgetW overheadW).getOr "rack_name" .null =
      .ok .null := Json.getOr_object_of_not_mem (by simp) _
  rw [LoadedDomain.ofEntry, budget, indices, pdu, priority, overhead, rack]
  rfl

/-- **What is written can be loaded**, as a topology of one domain alone on its PDU. -/
theorem fromDict_buildTopology :
    LoadedTopology.fromDict (buildTopology name gpuIndices budgetW overheadW) =
      .ok (LoadedTopology.ofTopology (soleTopology name gpuIndices budgetW overheadW)) := by
  have pdus : (buildTopology name gpuIndices budgetW overheadW).item "pdus" =
      .ok (.object [("pdu0", pduEntry budgetW)]) := Json.item_object (by simp) (by simp)
  have domains : (buildTopology name gpuIndices budgetW overheadW).item "domains" =
      .ok (.object [(name, domainEntry name gpuIndices budgetW overheadW)]) :=
    Json.item_object (by simp) (by simp)
  have racks : (buildTopology name gpuIndices budgetW overheadW).getOr "racks" (.obj []) =
      .ok (.obj []) := Json.getOr_object_of_not_mem (by simp) _
  have onePdu : loadAll LoadedPDU.ofEntry [("pdu0", pduEntry budgetW)] =
      .ok (Dict.empty.set "pdu0" (LoadedTopology.ofPdu (madeUpPdu budgetW))) := by
    rw [loadAll, List.foldlM_cons, ofEntry_pduEntry]
    rfl
  have oneDomain : loadAll LoadedDomain.ofEntry
      [(name, domainEntry name gpuIndices budgetW overheadW)] =
      .ok (Dict.empty.set name
        (LoadedTopology.ofDomain (soleDomain name gpuIndices budgetW overheadW))) := by
    rw [loadAll, List.foldlM_cons, ofEntry_domainEntry]
    rfl
  refine bind_of_ok pdus (bind_of_ok rfl (bind_of_ok onePdu ?_))
  refine bind_of_ok racks (bind_of_ok rfl (bind_of_ok rfl ?_))
  exact bind_of_ok domains (bind_of_ok rfl (bind_of_ok oneDomain rfl))

/-! ### What the controller works with -/

theorem wellNamed_soleTopology : (soleTopology name gpuIndices budgetW overheadW).WellNamed := by
  intro domainName domain found
  rw [soleTopology, Dict.get?_set] at found
  split at found
  · next same =>
    cases found
    exact same.symm
  · cases found

theorem domains_soleTopology : (soleTopology name gpuIndices budgetW overheadW).domains.values =
    [soleDomain name gpuIndices budgetW overheadW] := rfl

/-- The budget less the overhead, and never below zero. -/
theorem domainBudgetW_soleTopology :
    (soleTopology name gpuIndices budgetW overheadW).domainBudgetW name =
      .ok (max 0 (budgetW - overheadW)) := by
  have present : (soleTopology name gpuIndices budgetW overheadW).domains.get? name =
      some (soleDomain name gpuIndices budgetW overheadW) := Dict.get?_set_self _ _ _
  exact @PDNTopology.domainBudgetW_eq _ (soleDomain name gpuIndices budgetW overheadW) present

/-- The largest total the domain accepts: nobody else is on its PDU, and it is on no rack. -/
theorem ceilingW_soleTopology :
    (soleTopology name gpuIndices budgetW overheadW).ceilingW
        (soleDomain name gpuIndices budgetW overheadW) =
      some (min (max 0 (budgetW - overheadW)) (27 / 25 * budgetW - overheadW)) := by
  have pdu : (soleTopology name gpuIndices budgetW overheadW).pdus.get? "pdu0" =
      some (madeUpPdu budgetW) := Dict.get?_set_self _ _ _
  have alone : (soleTopology name gpuIndices budgetW overheadW).domainsOnPdu "pdu0" =
      [soleDomain name gpuIndices budgetW overheadW] := by
    rw [PDNTopology.domainsOnPdu, domains_soleTopology]
    exact List.filter_eq_self.mpr fun domain member => by
      rw [List.mem_singleton.mp member]
      exact decide_eq_true rfl
  have noPeers : PDNTopology.peersW [soleDomain name gpuIndices budgetW overheadW]
      (soleDomain name gpuIndices budgetW overheadW) = 0 := by
    rw [PDNTopology.peersW, List.filter_cons_of_neg (by simp), List.filter_nil]
    rfl
  have left : PDNTopology.leftW (madeUpPdu budgetW).effectiveCapacityW
      [soleDomain name gpuIndices budgetW overheadW]
      (soleDomain name gpuIndices budgetW overheadW) = 27 / 25 * budgetW - overheadW := by
    rw [PDNTopology.leftW, noPeers]
    show budgetW * (6 / 5) * (9 / 10) - 0 - overheadW = _
    ring
  calc (soleTopology name gpuIndices budgetW overheadW).ceilingW
        (soleDomain name gpuIndices budgetW overheadW)
      = some (min (max 0 (budgetW - overheadW)) (PDNTopology.leftW
          (madeUpPdu budgetW).effectiveCapacityW
          ((soleTopology name gpuIndices budgetW overheadW).domainsOnPdu "pdu0")
          (soleDomain name gpuIndices budgetW overheadW))) := by
        unfold PDNTopology.ceilingW
        rw [show (soleDomain name gpuIndices budgetW overheadW).pduName = "pdu0" from rfl, pdu]
        rfl
    _ = some (min (max 0 (budgetW - overheadW)) (27 / 25 * budgetW - overheadW)) := by
        rw [alone, left]

end Loaded

/-- A total that is not negative is at most the ceiling when it is within the budget, and the overhead
within what the PDU carries. -/
theorem le_ceiling_iff {budgetW overheadW total : ℚ} (positive : 0 < budgetW) (nonneg : 0 ≤ total) :
    total ≤ min (max 0 (budgetW - overheadW)) (27 / 25 * budgetW - overheadW) ↔
      total ≤ max 0 (budgetW - overheadW) ∧ overheadW ≤ 27 / 25 * budgetW := by
  rw [le_min_iff]
  refine and_congr_right fun within => ⟨fun left => by linarith, fun carried => ?_⟩
  rcases le_max_iff.mp within with idle | fits
  · linarith
  · linarith

/-- **The handoff.** For every PowerDomain that is accepted the topology loads; the domain's budget is
not negative, and at most that of the PowerDomain exactly when the overhead is not negative; and a
proposal is accepted exactly when it is within that budget and the overhead within what the PDU
carries. -/
theorem powerdomain_handoff {name : String} {spec : PowerDomainSpec} {written : Json}
    (accepted : onPowerdomainChange name spec = .ok written) :
    ∃ topology budget, LoadedTopology.fromDict written = .ok (LoadedTopology.ofTopology topology) ∧
      topology.domainBudgetW name = .ok budget ∧ 0 ≤ budget ∧
      (budget ≤ spec.budgetW ↔ 0 ≤ spec.overheadW) ∧
      ∀ proposedCaps : Dict GpuIndex ℚ, (∀ cap ∈ proposedCaps.values, 0 ≤ cap) →
        (topology.validateAllocation name proposedCaps = .ok true ↔
          proposedCaps.values.sum ≤ budget ∧ spec.overheadW ≤ 27 / 25 * spec.budgetW) := by
  obtain ⟨_, positive, rfl⟩ := onPowerdomainChange_eq_ok_iff.mp accepted
  refine ⟨_, _, fromDict_buildTopology _ _ _ _, domainBudgetW_soleTopology _ _ _ _, le_max_left _ _,
    ?_, fun proposedCaps nonneg => ?_⟩
  · rw [max_le_iff, sub_le_self_iff]
    exact and_iff_right positive.le
  · have decides := PDNTopology.validateAllocation_iff
      (wellNamed_soleTopology name spec.indices spec.budgetW spec.overheadW)
      (List.mem_singleton_self _) proposedCaps
    rw [ceilingW_soleTopology] at decides
    rw [← le_ceiling_iff positive (List.sum_nonneg nonneg)]
    refine decides.trans ⟨?_, fun within => ⟨_, rfl, within⟩⟩
    rintro ⟨_, ⟨⟩, within⟩
    exact within

/-- One GPU and 100 W, with some overhead. -/
def hundredWatts (overheadWatts : ℚ) : PowerDomainSpec where
  gpuIndices := some [0]
  budgetWatts := some 100
  nodeOverheadWatts := some overheadWatts

theorem powerdomain_handoff_hundredWatts :
    ∃ topology budget,
      LoadedTopology.fromDict (buildTopology "demo" [0] 100 20) =
        .ok (LoadedTopology.ofTopology topology) ∧
      topology.domainBudgetW "demo" = .ok budget ∧ 0 ≤ budget ∧
      (budget ≤ (hundredWatts 20).budgetW ↔ 0 ≤ (hundredWatts 20).overheadW) ∧
      ∀ proposedCaps : Dict GpuIndex ℚ, (∀ cap ∈ proposedCaps.values, 0 ≤ cap) →
        (topology.validateAllocation "demo" proposedCaps = .ok true ↔
          proposedCaps.values.sum ≤ budget ∧
            (hundredWatts 20).overheadW ≤ 27 / 25 * (hundredWatts 20).budgetW) :=
  @powerdomain_handoff "demo" (hundredWatts 20) _ (onPowerdomainChange_eq_ok_iff.mpr
    ⟨List.cons_ne_nil _ _, by norm_num [hundredWatts, PowerDomainSpec.budgetW], rfl⟩)

/-- With an overhead of -10 W a domain of 100 W has a budget of 110 W. With one of 109 W it has none, and
a proposal of 0 W is refused. -/
theorem overhead_breaks_handoff :
    onPowerdomainChange "demo" (hundredWatts (-10)) = .ok (buildTopology "demo" [0] 100 (-10)) ∧
      LoadedTopology.fromDict (buildTopology "demo" [0] 100 (-10)) =
        .ok (LoadedTopology.ofTopology (soleTopology "demo" [0] 100 (-10))) ∧
      (soleTopology "demo" [0] 100 (-10)).domainBudgetW "demo" = .ok 110 ∧
      onPowerdomainChange "demo" (hundredWatts 109) = .ok (buildTopology "demo" [0] 100 109) ∧
      LoadedTopology.fromDict (buildTopology "demo" [0] 100 109) =
        .ok (LoadedTopology.ofTopology (soleTopology "demo" [0] 100 109)) ∧
      (soleTopology "demo" [0] 100 109).domainBudgetW "demo" = .ok 0 ∧
      (soleTopology "demo" [0] 100 109).validateAllocation "demo" (Dict.empty.set 0 0) =
        .ok false := by
  have accepted : ∀ overheadWatts, onPowerdomainChange "demo" (hundredWatts overheadWatts) =
      .ok (buildTopology "demo" [0] 100 overheadWatts) := fun overheadWatts =>
    onPowerdomainChange_eq_ok_iff.mpr ⟨List.cons_ne_nil _ _,
      by norm_num [hundredWatts, PowerDomainSpec.budgetW], rfl⟩
  refine ⟨accepted _, fromDict_buildTopology _ _ _ _, ?_, accepted _,
    fromDict_buildTopology _ _ _ _, ?_, by decide +kernel⟩
  · rw [domainBudgetW_soleTopology]
    norm_num
  · rw [domainBudgetW_soleTopology]
    norm_num

end Opendps.Operator
