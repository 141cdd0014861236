/-
**The rack cascade.**

Every domain of a rack works out its own share of the rack's budget, from the sum of the static
budgets of all of them, and takes its own overhead off. `sum_rackScaledBudgetW` adds the shares up: the
smaller of the static total and the rack's budget. What a domain hands its brain, with its overhead,
is its share unless the overhead is above it, so the rack's bound carries over to the budgets
(`rack_cascade`).

`AgreesOff` relates two topologies that differ in one rack and its domains only; no domain off that
rack can tell them apart (`domainBudgetW_of_agreesOff`).
-/

import Opendps.Lib.Shares
import Opendps.Pdn.Loading

namespace Opendps.Pdn

open Opendps.Lib

namespace PDNTopology

/-- The static budgets of the domains of a rack. -/
def rackTotalW (topology : PDNTopology) (rackName : String) : ℚ :=
  ((topology.domainsOnRack (some rackName)).map PowerDomain.budgetW).sum

/-- A domain's part of a rack's budget, in proportion to its static budget. -/
def rackShareW (topology : PDNTopology) (rackName : String) (rack : Rack) (domain : PowerDomain) :
    ℚ :=
  domain.budgetW * rack.budgetW / topology.rackTotalW rackName

section Shares

variable {topology : PDNTopology} {rackName : String} {rack : Rack} {domain : PowerDomain}

theorem rackName_of_mem (member : domain ∈ topology.domainsOnRack (some rackName)) :
    domain.rackName = some rackName :=
  of_decide_eq_true (List.mem_filter.mp member).2

/-- A domain of a rack with a positive budget gets its share where the rack is short, and its static
budget where it is not. -/
theorem rackScaledBudgetW_eq (named : rackName ≠ "")
    (found : topology.racks.get? rackName = some rack) (positive : 0 < rack.budgetW)
    (member : domain ∈ topology.domainsOnRack (some rackName)) :
    topology.rackScaledBudgetW domain =
      if rack.budgetW < topology.rackTotalW rackName then
        topology.rackShareW rackName rack domain
      else domain.budgetW := by
  have onRack := rackName_of_mem member
  have rackIs : topology.rackOf domain = some rack := by
    rw [rackOf, onRack]
    exact (if_neg named).trans found
  rw [rackScaledBudgetW, rackIs, rackShareW, rackTotalW, onRack]
  simp only [positive, and_true]

/-- The shares of all domains of a rack add up to what there is. -/
theorem sum_rackScaledBudgetW (named : rackName ≠ "")
    (found : topology.racks.get? rackName = some rack) (positive : 0 < rack.budgetW) :
    ((topology.domainsOnRack (some rackName)).map topology.rackScaledBudgetW).sum =
      min (topology.rackTotalW rackName) rack.budgetW := by
  rw [List.map_congr_left fun domain member =>
    @rackScaledBudgetW_eq topology rackName rack domain named found positive member]
  by_cases short : rack.budgetW < topology.rackTotalW rackName
  · have total : ((topology.domainsOnRack (some rackName)).map PowerDomain.budgetW).sum ≠ 0 :=
      (positive.trans short).ne'
    have scaled := sum_scaled total rack.budgetW
    rw [List.map_map] at scaled
    simp only [short, if_true, min_eq_right short.le]
    rw [← scaled]
    refine congrArg List.sum (List.map_congr_left fun domain _ => ?_)
    rw [rackShareW, rackTotalW, mul_div_assoc]
    rfl
  · simp only [short, if_false, min_eq_left (not_lt.mp short)]
    rfl

theorem rackScaledBudgetW_nonneg
    (nonneg : ∀ domain ∈ topology.domains.values, 0 ≤ domain.budgetW) (named : rackName ≠ "")
    (found : topology.racks.get? rackName = some rack) (positive : 0 < rack.budgetW)
    (member : domain ∈ topology.domainsOnRack (some rackName)) :
    0 ≤ topology.rackScaledBudgetW domain := by
  have budget := nonneg domain (List.mem_of_mem_filter member)
  rw [rackScaledBudgetW_eq named found positive member]
  split
  · next short =>
    rw [rackShareW]
    exact div_nonneg (mul_nonneg budget positive.le) (positive.trans short).le
  · exact budget

/-- Without adopted budgets every domain of a topology is asked for its scaled budget. -/
theorem mapM_domainBudgetW (loaded : topology.Loaded) {group : List PowerDomain}
    (members : ∀ domain ∈ group, domain ∈ topology.domains.values) :
    group.mapM (fun domain => topology.domainBudgetW domain.name) =
      .ok (group.map fun domain =>
        max 0 (topology.rackScaledBudgetW domain - domain.nodeOverheadW)) := by
  refine mapM_eq_ok fun domain member => ?_
  rw [domainBudgetW_eq (present_of_mem loaded.wellNamed (members domain member)), budgetOfW,
    loaded.nothingAdopted]
  rfl

end Shares

/-! ### Off the rack -/

/-- Two topologies that differ at most in one rack, in the domains on it, and in what those have
adopted. -/
structure AgreesOff (rackName : String) (first second : PDNTopology) : Prop where
  racks : ∀ other, other ≠ rackName → first.racks.get? other = second.racks.get? other
  domains : first.domains.items.filter (fun item => decide (item.2.rackName ≠ some rackName)) =
    second.domains.items.filter fun item => decide (item.2.rackName ≠ some rackName)
  adopted : ∀ domainName domain, first.domains.get? domainName = some domain →
    domain.rackName ≠ some rackName →
    first.adoptedBudgetW.get? domainName = second.adoptedBudgetW.get? domainName

/-- The domains of another rack, or of none, are among those off a rack. -/
theorem domainsOnRack_eq (topology : PDNTopology) {rackName : String} {other : Option String}
    (different : other ≠ some rackName) :
    topology.domainsOnRack other =
      ((topology.domains.items.filter fun item => decide (item.2.rackName ≠ some rackName)).map
        Prod.snd).filter fun domain => decide (domain.rackName = other) := by
  rw [domainsOnRack, Dict.values, List.filter_map, List.filter_map, List.filter_filter]
  refine congrArg (List.map Prod.snd) (List.filter_congr fun item _ => ?_)
  by_cases onOther : item.2.rackName = other
  · simp [onOther, different]
  · simp [onOther]

/-- **A domain off a rack is not affected by it**, nor by the domains on it. -/
theorem domainBudgetW_of_agreesOff {rackName domainName : String} {first second : PDNTopology}
    (agree : first.AgreesOff rackName second) {domain : PowerDomain}
    (present : first.domains.get? domainName = some domain)
    (off : domain.rackName ≠ some rackName) :
    first.domainBudgetW domainName = second.domainBudgetW domainName := by
  have listed : (domainName, domain) ∈ second.domains.items.filter
      fun item => decide (item.2.rackName ≠ some rackName) := by
    rw [← agree.domains]
    exact List.mem_filter.mpr ⟨Dict.get?_eq_some_iff.mp present, decide_eq_true off⟩
  have presentToo : second.domains.get? domainName = some domain :=
    Dict.get?_eq_some_iff.mpr (List.mem_of_mem_filter listed)
  have sameRack : first.rackOf domain = second.rackOf domain := by
    unfold rackOf
    cases names : domain.rackName with
    | none => rfl
    | some other =>
      have different : other ≠ rackName := fun same => off (same ▸ names)
      exact congrArg (fun found => if other = "" then none else found) (agree.racks other different)
  have samePeers : first.domainsOnRack domain.rackName = second.domainsOnRack domain.rackName := by
    rw [first.domainsOnRack_eq off, second.domainsOnRack_eq off, agree.domains]
  have sameBudget : first.rackScaledBudgetW domain = second.rackScaledBudgetW domain := by
    unfold rackScaledBudgetW
    rw [sameRack, samePeers]
  unfold domainBudgetW PDNTopology.domain
  rw [present, presentToo]
  simp only [bind, Except.bind, agree.adopted domainName domain present off, sameBudget]

/-! ### The cascade -/

/-- **The rack cascade.** In a loaded topology with budgets and overheads that are not negative, the
budgets of the domains of a rack add up to at most the rack's budget; where the rack is short and no
overhead is above its domain's share, they add up to exactly that together with the overheads; and
whatever becomes of the rack and its domains, no domain off it gets another budget. -/
theorem rack_cascade {config : TopologyConfig} {topology : PDNTopology}
    (loads : PDNTopology.fromDict config = .ok topology)
    (nonneg : ∀ domain ∈ topology.domains.values, 0 ≤ domain.budgetW ∧ 0 ≤ domain.nodeOverheadW)
    {rackName : String} {rack : Rack} (named : rackName ≠ "")
    (found : topology.racks.get? rackName = some rack) (positive : 0 < rack.budgetW) :
    (∃ budgets, (topology.domainsOnRack (some rackName)).mapM
          (fun domain => topology.domainBudgetW domain.name) = .ok budgets ∧
        budgets.sum ≤ rack.budgetW ∧
        (rack.budgetW < topology.rackTotalW rackName →
          (∀ domain ∈ topology.domainsOnRack (some rackName),
            domain.nodeOverheadW ≤ topology.rackShareW rackName rack domain) →
          budgets.sum + ((topology.domainsOnRack (some rackName)).map
            PowerDomain.nodeOverheadW).sum = rack.budgetW)) ∧
      ∀ other : PDNTopology, topology.AgreesOff rackName other →
        ∀ domainName domain, topology.domains.get? domainName = some domain →
          domain.rackName ≠ some rackName →
          topology.domainBudgetW domainName = other.domainBudgetW domainName := by
  have loaded := loaded_of_fromDict loads
  have members : ∀ domain ∈ topology.domainsOnRack (some rackName),
      domain ∈ topology.domains.values := fun domain member => List.mem_of_mem_filter member
  have shares := sum_rackScaledBudgetW named found positive
  refine ⟨⟨_, mapM_domainBudgetW loaded members, ?_, fun short covered => ?_⟩,
    fun other agree domainName domain present off => domainBudgetW_of_agreesOff agree present off⟩
  · -- taking the overhead off, down to zero, leaves at most the share
    have atMost : ∀ domain ∈ topology.domainsOnRack (some rackName),
        max 0 (topology.rackScaledBudgetW domain - domain.nodeOverheadW) ≤
          topology.rackScaledBudgetW domain := fun domain member =>
      max_le (rackScaledBudgetW_nonneg (fun other inside => (nonneg other inside).1) named found
        positive member) (sub_le_self _ (nonneg domain (members domain member)).2)
    calc ((topology.domainsOnRack (some rackName)).map fun domain =>
          max 0 (topology.rackScaledBudgetW domain - domain.nodeOverheadW)).sum
        ≤ ((topology.domainsOnRack (some rackName)).map topology.rackScaledBudgetW).sum :=
          List.sum_le_sum atMost
      _ = min (topology.rackTotalW rackName) rack.budgetW := shares
      _ ≤ rack.budgetW := min_le_right _ _
  · rw [← List.sum_map_add]
    have whole : ∀ domain ∈ topology.domainsOnRack (some rackName),
        max 0 (topology.rackScaledBudgetW domain - domain.nodeOverheadW) + domain.nodeOverheadW =
          topology.rackScaledBudgetW domain := by
      intro domain member
      have share : topology.rackScaledBudgetW domain =
          topology.rackShareW rackName rack domain := by
        rw [rackScaledBudgetW_eq named found positive member, if_pos short]
      rw [max_eq_right (sub_nonneg.mpr (share ▸ covered domain member)), sub_add_cancel]
    rw [List.map_congr_left whole, shares, min_eq_right short.le]

/-! ### Two domains on a short rack -/

/-- Two domains of 5000 W with an overhead of 500 W each on a rack of 6000 W, and one domain off it. -/
def shortRackConfig : TopologyConfig where
  pdus := some (.ofList [("pdu0", { capacityW := some 100000, derating := some 1 })])
  racks := some (.ofList [("r0", { budgetW := some 6000 })])
  domains := some (.ofList
    [("a", { budgetW := some 5000, gpuIndices := some [0, 1], pduName := some "pdu0"
             nodeOverheadW := some 500, rackName := some "r0" }),
     ("b", { budgetW := some 5000, gpuIndices := some [2, 3], pduName := some "pdu0"
             nodeOverheadW := some 500, rackName := some "r0" }),
     ("c", { budgetW := some 4000, gpuIndices := some [4], pduName := some "pdu0" })])

def shortRack : PDNTopology :=
  (PDNTopology.fromDict shortRackConfig).toOption.getD { pdus := .empty, domains := .empty }

theorem fromDict_shortRackConfig : PDNTopology.fromDict shortRackConfig = .ok shortRack := by
  have loads : (PDNTopology.fromDict shortRackConfig).toOption.isSome = true := by decide +kernel
  obtain ⟨topology, found⟩ := Option.isSome_iff_exists.mp loads
  refine ok_of_toOption ?_
  rw [shortRack, found, Option.getD_some]

/-- The two budgets of 2500 W and the overheads of 500 W are the 6000 W of the rack. -/
theorem rack_cascade_short_rack :
    ∃ budgets, (shortRack.domainsOnRack (some "r0")).mapM
        (fun domain => shortRack.domainBudgetW domain.name) = .ok budgets ∧
      budgets.sum ≤ 6000 ∧
      budgets.sum + ((shortRack.domainsOnRack (some "r0")).map
        PowerDomain.nodeOverheadW).sum = 6000 := by
  have budget : (shortRack.racks.get? "r0").map Rack.budgetW = some 6000 := by decide +kernel
  obtain ⟨rack, found, is6000⟩ := Option.map_eq_some_iff.mp budget
  have short : rack.budgetW < shortRack.rackTotalW "r0" := by
    rw [is6000]
    decide +kernel
  have covered : ∀ domain ∈ shortRack.domainsOnRack (some "r0"),
      domain.nodeOverheadW ≤ shortRack.rackShareW "r0" rack domain := by
    simp only [rackShareW, is6000]
    decide +kernel
  obtain ⟨⟨budgets, answers, within, exact⟩, _⟩ := rack_cascade fromDict_shortRackConfig
    (by decide +kernel) (by decide) found (is6000 ▸ by norm_num)
  exact ⟨budgets, answers, is6000 ▸ within, (exact short covered).trans is6000⟩

end PDNTopology

end Opendps.Pdn
