/-
**Validating an allocation.**

`validateAllocation` checks the caps proposed for one domain: against its own budget, and against its
PDU and its rack, where every peer domain is taken at its static budget. So a domain accepts exactly
the totals up to its `ceilingW` (`validateAllocation_iff`).

Each call checks one domain and assumes the rest; the joint guarantee is about all calls together.
For a group of domains under a common limit, `jointlySound_iff` says when every assignment that each
domain accepts stays within the limit: when the ceilings, with the overheads, add up to no more. It is
so when no ceiling is above the static budget (`jointlySound_of_le_budget`), which an adopted budget
can break.
-/

import Opendps.Pdn.Model
import Mathlib.Algebra.Order.BigOperators.Group.List
import Mathlib.Tactic.Linarith

namespace Opendps.Pdn

open Opendps.Lib

def PDU.effectiveCapacityW (pdu : PDU) : ℚ := pdu.capacityW * pdu.derating

namespace PDNTopology

def domainsOnPdu (topology : PDNTopology) (pduName : String) : List PowerDomain :=
  topology.domains.values.filter fun domain => decide (domain.pduName = pduName)

/-- `self.pdus[pdu_name]`. -/
def pdu (topology : PDNTopology) (pduName : String) : Except PyError PDU :=
  match topology.pdus.get? pduName with
  | some found => .ok found
  | none => .error (.keyError pduName)

/-- The draw a check assumes of a group: the proposal and the overhead for the domain itself, the
static budget for every other. -/
def assumedDrawW (group : List PowerDomain) (domainName : String) (domain : PowerDomain)
    (proposedTotal : ℚ) : ℚ :=
  (group.map fun other => if other.name = domainName then proposedTotal + domain.nodeOverheadW
    else other.budgetW).sum

/-- Whether the caps proposed for a domain are accepted. -/
def validateAllocation (topology : PDNTopology) (domainName : String)
    (proposedCaps : Dict GpuIndex ℚ) : Except PyError Bool := do
  let domain ← topology.domain domainName
  let proposedTotal := proposedCaps.values.sum
  let budget ← topology.domainBudgetW domainName
  if budget < proposedTotal then pure false
  else
    let pdu ← topology.pdu domain.pduName
    if pdu.effectiveCapacityW < assumedDrawW (topology.domainsOnPdu domain.pduName) domainName domain
        proposedTotal then pure false
    else match topology.rackOf domain with
      | none => pure true
      | some rack =>
        pure (decide (assumedDrawW (topology.domainsOnRack domain.rackName) domainName domain
          proposedTotal ≤ rack.budgetW))

/-- Every domain is filed under its name. -/
def WellNamed (topology : PDNTopology) : Prop :=
  ∀ domainName domain, topology.domains.get? domainName = some domain → domain.name = domainName

/-! ### What one call accepts -/

/-- The static budgets of the other domains of a group. -/
def peersW (group : List PowerDomain) (domain : PowerDomain) : ℚ :=
  ((group.filter fun other => decide (other.name ≠ domain.name)).map PowerDomain.budgetW).sum

/-- The budget of a domain that the topology has. -/
def budgetOfW (topology : PDNTopology) (domain : PowerDomain) : ℚ :=
  max 0 ((topology.adoptedBudgetW.get? domain.name).getD (topology.rackScaledBudgetW domain) -
    domain.nodeOverheadW)

/-- What a limit on a group leaves a domain when its peers draw their static budgets. -/
def leftW (limitW : ℚ) (group : List PowerDomain) (domain : PowerDomain) : ℚ :=
  limitW - peersW group domain - domain.nodeOverheadW

/-- The largest total a domain accepts, if its PDU exists. -/
def ceilingW (topology : PDNTopology) (domain : PowerDomain) : Option ℚ :=
  (topology.pdus.get? domain.pduName).map fun pdu =>
    let ceiling := min (topology.budgetOfW domain)
      (leftW pdu.effectiveCapacityW (topology.domainsOnPdu domain.pduName) domain)
    match topology.rackOf domain with
    | none => ceiling
    | some rack => min ceiling (leftW rack.budgetW (topology.domainsOnRack domain.rackName) domain)

section Accepts

variable {topology : PDNTopology} {domain : PowerDomain}

theorem assumedDrawW_eq {group : List PowerDomain} (member : domain ∈ group)
    (distinct : (group.map PowerDomain.name).Nodup) (proposedTotal : ℚ) :
    assumedDrawW group domain.name domain proposedTotal =
      proposedTotal + domain.nodeOverheadW + peersW group domain := by
  unfold assumedDrawW peersW
  induction group with
  | nil => cases member
  | cons first rest ih =>
    rw [List.map_cons, List.nodup_cons] at distinct
    rw [List.map_cons, List.sum_cons]
    rcases List.mem_cons.mp member with rfl | inside
    · -- no later domain has the name
      have others : ∀ other ∈ rest, other.name ≠ domain.name := fun other present same =>
        distinct.1 (same ▸ List.mem_map_of_mem present)
      have kept : rest.filter (fun other => decide (other.name ≠ domain.name)) = rest :=
        List.filter_eq_self.mpr fun other present => decide_eq_true (others other present)
      have budgets : (rest.map fun other => if other.name = domain.name then
          proposedTotal + domain.nodeOverheadW else other.budgetW) =
            rest.map PowerDomain.budgetW :=
        List.map_congr_left fun other present => if_neg (others other present)
      rw [if_pos rfl, List.filter_cons_of_neg (by simp), kept, budgets]
    · have different : first.name ≠ domain.name := fun same =>
        distinct.1 (same ▸ List.mem_map_of_mem inside)
      rw [if_neg different, ih inside distinct.2, List.filter_cons_of_pos (by simp [different]),
        List.map_cons, List.sum_cons]
      ring

theorem domainBudgetW_eq (present : topology.domains.get? domain.name = some domain) :
    topology.domainBudgetW domain.name = .ok (topology.budgetOfW domain) := by
  have found : topology.domain domain.name = .ok domain := by
    rw [PDNTopology.domain, present]
  unfold domainBudgetW budgetOfW
  rw [found]
  cases topology.adoptedBudgetW.get? domain.name <;> rfl

theorem names_nodup (wellNamed : topology.WellNamed) :
    (topology.domains.values.map PowerDomain.name).Nodup := by
  have names : topology.domains.values.map PowerDomain.name = topology.domains.keys := by
    rw [Dict.values, Dict.keys, List.map_map]
    exact List.map_congr_left fun item member =>
      wellNamed item.1 item.2 (Dict.get?_eq_some_iff.mpr member)
  rw [names]
  exact topology.domains.keys_nodup

theorem present_of_mem (wellNamed : topology.WellNamed) (member : domain ∈ topology.domains.values) :
    topology.domains.get? domain.name = some domain := by
  obtain ⟨item, listed, rfl⟩ := List.mem_map.mp member
  have found := Dict.get?_eq_some_iff.mpr listed
  rwa [wellNamed item.1 item.2 found]

/-- **What one call accepts**: the totals up to the ceiling. -/
theorem validateAllocation_iff (wellNamed : topology.WellNamed)
    (member : domain ∈ topology.domains.values) (proposedCaps : Dict GpuIndex ℚ) :
    topology.validateAllocation domain.name proposedCaps = .ok true ↔
      ∃ ceiling, topology.ceilingW domain = some ceiling ∧ proposedCaps.values.sum ≤ ceiling := by
  have present := present_of_mem wellNamed member
  have found : topology.domain domain.name = .ok domain := by
    rw [PDNTopology.domain, present]
  have distinct := names_nodup wellNamed
  have onPdu := @assumedDrawW_eq domain (topology.domainsOnPdu domain.pduName)
    (List.mem_filter.mpr ⟨member, decide_eq_true rfl⟩)
    (distinct.sublist (List.filter_sublist.map _)) proposedCaps.values.sum
  have onRack := @assumedDrawW_eq domain (topology.domainsOnRack domain.rackName)
    (List.mem_filter.mpr ⟨member, decide_eq_true rfl⟩)
    (distinct.sublist (List.filter_sublist.map _)) proposedCaps.values.sum
  -- a limit is kept exactly when the total is at most what it leaves
  have leaves : ∀ limit group, proposedCaps.values.sum + domain.nodeOverheadW +
      peersW group domain ≤ limit ↔ proposedCaps.values.sum ≤ leftW limit group domain := by
    intro limit group
    rw [leftW, le_sub_iff_add_le, le_sub_iff_add_le]
  simp only [validateAllocation, ceilingW, found, domainBudgetW_eq present, PDNTopology.pdu, onPdu,
    onRack, bind, Except.bind, pure, Except.pure]
  cases topology.pdus.get? domain.pduName with
  | none =>
    by_cases exceeds : topology.budgetOfW domain < proposedCaps.values.sum <;> simp [exceeds]
  | some pdu =>
    have atPdu := leaves pdu.effectiveCapacityW (topology.domainsOnPdu domain.pduName)
    by_cases exceeds : topology.budgetOfW domain < proposedCaps.values.sum
    · cases topology.rackOf domain <;> simp [exceeds]
    · by_cases full : pdu.effectiveCapacityW < proposedCaps.values.sum + domain.nodeOverheadW +
          peersW (topology.domainsOnPdu domain.pduName) domain
      · have left := mt atPdu.mpr (not_le.mpr full)
        cases topology.rackOf domain <;> simp [exceeds, full, left]
      · have left := atPdu.mp (not_lt.mp full)
        cases topology.rackOf domain with
        | none => simp [exceeds, full, left, not_lt.mp exceeds]
        | some rack =>
          have atRack := leaves rack.budgetW (topology.domainsOnRack domain.rackName)
          simp [exceeds, full, left, not_lt.mp exceeds, atRack]

end Accepts

/-! ### All calls together -/

/-- Whatever caps are proposed for all domains of a group, if each domain accepts its own, they stay
within the limit together with the overheads. -/
def JointlySound (topology : PDNTopology) (group : List PowerDomain) (limitW : ℚ) : Prop :=
  ∀ caps : String → Dict GpuIndex ℚ,
    (∀ domain ∈ group, ∀ cap ∈ (caps domain.name).values, 0 ≤ cap) →
    (∀ domain ∈ group, topology.validateAllocation domain.name (caps domain.name) = .ok true) →
    (group.map fun domain => (caps domain.name).values.sum + domain.nodeOverheadW).sum ≤ limitW

/-- The ceilings of a group, with the overheads, stay within the limit, unless some domain accepts
nothing at all. -/
def HasRoom (topology : PDNTopology) (group : List PowerDomain) (limitW : ℚ) : Prop :=
  (∃ domain ∈ group, ∀ ceiling, topology.ceilingW domain = some ceiling → ceiling < 0) ∨
    (group.map fun domain => (topology.ceilingW domain).getD 0 + domain.nodeOverheadW).sum ≤ limitW

section Joint

variable {topology : PDNTopology} {group : List PowerDomain} {limitW : ℚ}

/-- The caps that take every domain to its ceiling, on one GPU. -/
def fullCaps (topology : PDNTopology) (domainName : String) : Dict GpuIndex ℚ :=
  match topology.domains.get? domainName with
  | some domain => ⟨[(0, (topology.ceilingW domain).getD 0)], List.nodup_singleton _⟩
  | none => .empty

theorem values_fullCaps (wellNamed : topology.WellNamed) {domain : PowerDomain}
    (member : domain ∈ topology.domains.values) :
    (topology.fullCaps domain.name).values = [(topology.ceilingW domain).getD 0] := by
  rw [fullCaps, present_of_mem wellNamed member]
  rfl

/-- **When all calls together are sound**: when the ceilings add up to no more than the limit. -/
theorem jointlySound_iff (wellNamed : topology.WellNamed)
    (members : ∀ domain ∈ group, domain ∈ topology.domains.values) :
    topology.JointlySound group limitW ↔ topology.HasRoom group limitW := by
  constructor
  · intro sound
    by_cases stuck : ∃ domain ∈ group,
        ∀ ceiling, topology.ceilingW domain = some ceiling → ceiling < 0
    · exact .inl stuck
    · push Not at stuck
      have full := sound topology.fullCaps (fun domain inside cap listed => ?_)
        fun domain inside => ?_
      · refine .inr (le_of_eq_of_le (congrArg List.sum ?_) full)
        refine List.map_congr_left fun domain inside => ?_
        rw [values_fullCaps wellNamed (members domain inside), List.sum_singleton]
      · obtain ⟨ceiling, some, nonneg⟩ := stuck domain inside
        rw [values_fullCaps wellNamed (members domain inside), List.mem_singleton, some] at listed
        rw [listed]
        exact nonneg
      · obtain ⟨ceiling, some, _⟩ := stuck domain inside
        refine (validateAllocation_iff wellNamed (members domain inside) _).mpr ⟨ceiling, some, ?_⟩
        rw [values_fullCaps wellNamed (members domain inside), List.sum_singleton, some]
        exact le_rfl
  · intro room caps nonneg accepted
    have within : ∀ domain ∈ group, ∃ ceiling, topology.ceilingW domain = some ceiling ∧
        (caps domain.name).values.sum ≤ ceiling := fun domain inside =>
      (validateAllocation_iff wellNamed (members domain inside) _).mp (accepted domain inside)
    rcases room with ⟨domain, inside, stuck⟩ | room
    · obtain ⟨ceiling, some, atMost⟩ := within domain inside
      have zero := List.sum_nonneg (nonneg domain inside)
      exact absurd (zero.trans atMost) (not_le.mpr (stuck ceiling some))
    · refine le_trans (List.sum_le_sum fun domain inside => ?_) room
      obtain ⟨ceiling, some, atMost⟩ := within domain inside
      rw [some]
      exact add_le_add atMost le_rfl

/-- Where no domain accepts more than its static budget, one check of the limit is enough for all. -/
theorem hasRoom_of_le_budget (nonneg : 0 ≤ limitW) (distinct : (group.map PowerDomain.name).Nodup)
    (static : ∀ domain ∈ group, ∀ ceiling, topology.ceilingW domain = some ceiling →
      ceiling + domain.nodeOverheadW ≤ domain.budgetW)
    (checked : ∀ domain ∈ group, ∀ ceiling, topology.ceilingW domain = some ceiling →
      ceiling ≤ leftW limitW group domain) : topology.HasRoom group limitW := by
  by_cases missing : ∃ domain ∈ group, topology.ceilingW domain = none
  · obtain ⟨domain, inside, none⟩ := missing
    refine .inl ⟨domain, inside, fun ceiling some => ?_⟩
    rw [none] at some
    cases some
  · push Not at missing
    refine .inr ?_
    cases group with
    | nil => exact nonneg
    | cons domain rest =>
      obtain ⟨ceiling, some⟩ := Option.ne_none_iff_exists'.mp
        (missing domain List.mem_cons_self)
      rw [List.map_cons, List.nodup_cons] at distinct
      have peers : peersW (domain :: rest) domain = (rest.map PowerDomain.budgetW).sum := by
        have kept : rest.filter (fun other => decide (other.name ≠ domain.name)) = rest :=
          List.filter_eq_self.mpr fun other inside => decide_eq_true fun same =>
            distinct.1 (same ▸ List.mem_map_of_mem inside)
        rw [peersW, List.filter_cons_of_neg (by simp), kept]
      have own := checked domain List.mem_cons_self ceiling some
      have others : (rest.map fun other =>
          (topology.ceilingW other).getD 0 + other.nodeOverheadW).sum ≤
            (rest.map PowerDomain.budgetW).sum := by
        refine List.sum_le_sum fun other inside => ?_
        have listed := List.mem_cons_of_mem domain inside
        obtain ⟨limit, found⟩ := Option.ne_none_iff_exists'.mp (missing other listed)
        rw [found]
        exact static other listed limit found
      rw [leftW, peers] at own
      rw [List.map_cons, List.sum_cons, some, Option.getD_some]
      linarith

end Joint

/-! ### PDUs and racks -/

section Sound

variable {topology : PDNTopology}

/-- **Validation is sound for all domains of a PDU, and of a rack**, exactly when their ceilings add up
to no more than its capacity, and its budget. -/
theorem validateAllocation_sound_iff (wellNamed : topology.WellNamed) :
    ((∀ pduName pdu, topology.pdus.get? pduName = some pdu →
        topology.JointlySound (topology.domainsOnPdu pduName) pdu.effectiveCapacityW) ∧
      ∀ rackName rack, topology.racks.get? rackName = some rack →
        topology.JointlySound (topology.domainsOnRack (some rackName)) rack.budgetW) ↔
    ((∀ pduName pdu, topology.pdus.get? pduName = some pdu →
        topology.HasRoom (topology.domainsOnPdu pduName) pdu.effectiveCapacityW) ∧
      ∀ rackName rack, topology.racks.get? rackName = some rack →
        topology.HasRoom (topology.domainsOnRack (some rackName)) rack.budgetW) := by
  refine and_congr (forall₃_congr fun pduName pdu _ => jointlySound_iff wellNamed ?_)
    (forall₃_congr fun rackName rack _ => jointlySound_iff wellNamed ?_)
  · exact fun domain inside => List.mem_of_mem_filter inside
  · exact fun domain inside => List.mem_of_mem_filter inside

/-- A ceiling is at most the budget and what the PDU leaves. -/
theorem ceilingW_le {domain : PowerDomain} {ceiling : ℚ}
    (some : topology.ceilingW domain = some ceiling) :
    ceiling ≤ topology.budgetOfW domain ∧
      (∀ pdu, topology.pdus.get? domain.pduName = .some pdu → ceiling ≤
        leftW pdu.effectiveCapacityW (topology.domainsOnPdu domain.pduName) domain) ∧
      ∀ rack, topology.rackOf domain = .some rack →
        ceiling ≤ leftW rack.budgetW (topology.domainsOnRack domain.rackName) domain := by
  obtain ⟨pdu, found, rfl⟩ := Option.map_eq_some_iff.mp some
  cases inRack : topology.rackOf domain with
  | none =>
    refine ⟨min_le_left _ _, fun other same => ?_, nofun⟩
    rw [found, Option.some.injEq] at same
    subst same
    exact min_le_right _ _
  | some rack =>
    refine ⟨(min_le_left _ _).trans (min_le_left _ _), fun other same => ?_, fun other same => ?_⟩
    · rw [found, Option.some.injEq] at same
      subst same
      exact (min_le_left _ _).trans (min_le_right _ _)
    · rw [Option.some.injEq] at same
      subst same
      exact min_le_right _ _

/-- **Without an adopted budget above the static one validation is sound**, for every PDU and every
rack with a name. -/
theorem validateAllocation_sound_of_static (wellNamed : topology.WellNamed)
    (static : ∀ domain ∈ topology.domains.values,
      topology.budgetOfW domain + domain.nodeOverheadW ≤ domain.budgetW) :
    (∀ pduName pdu, topology.pdus.get? pduName = some pdu → 0 ≤ pdu.effectiveCapacityW →
        topology.JointlySound (topology.domainsOnPdu pduName) pdu.effectiveCapacityW) ∧
      ∀ rackName rack, topology.racks.get? rackName = some rack → rackName ≠ "" →
        0 ≤ rack.budgetW →
        topology.JointlySound (topology.domainsOnRack (some rackName)) rack.budgetW := by
  have atMost : ∀ domain ∈ topology.domains.values, ∀ ceiling,
      topology.ceilingW domain = some ceiling → ceiling + domain.nodeOverheadW ≤ domain.budgetW :=
    fun domain member ceiling some =>
      (add_le_add (ceilingW_le some).1 le_rfl).trans (static domain member)
  constructor
  · intro pduName pdu found nonneg
    have members : ∀ domain ∈ topology.domainsOnPdu pduName, domain ∈ topology.domains.values :=
      fun domain inside => List.mem_of_mem_filter inside
    refine (jointlySound_iff wellNamed members).mpr (hasRoom_of_le_budget nonneg
      ((names_nodup wellNamed).sublist (List.filter_sublist.map _))
      (fun domain inside => atMost domain (members domain inside)) fun domain inside ceiling some => ?_)
    have onPdu : domain.pduName = pduName := of_decide_eq_true (List.mem_filter.mp inside).2
    have left := (ceilingW_le some).2.1 pdu (onPdu.symm ▸ found)
    rwa [onPdu] at left
  · intro rackName rack found named nonneg
    have members : ∀ domain ∈ topology.domainsOnRack (some rackName),
        domain ∈ topology.domains.values := fun domain inside => List.mem_of_mem_filter inside
    refine (jointlySound_iff wellNamed members).mpr (hasRoom_of_le_budget nonneg
      ((names_nodup wellNamed).sublist (List.filter_sublist.map _))
      (fun domain inside => atMost domain (members domain inside)) fun domain inside ceiling some => ?_)
    have onRack : domain.rackName = .some rackName := of_decide_eq_true (List.mem_filter.mp inside).2
    have rackIs : topology.rackOf domain = .some rack := by
      rw [rackOf, onRack]
      exact (if_neg named).trans found
    have left := (ceilingW_le some).2.2 rack rackIs
    rwa [onRack] at left

end Sound

/-! ### Two domains that adopt more than their static budgets -/

def sharedDomain (name : String) : PowerDomain where
  name := name
  budgetW := 100
  gpuIndices := [0]
  pduName := "pdu0"

/-- Two domains of 100 W on a PDU of 250 W, each with 150 W handed down. -/
def sharedPdu : PDNTopology :=
  (({ pdus := ⟨[("pdu0", { name := "pdu0", capacityW := 250, derating := 1 })],
        List.nodup_singleton _⟩
      domains := ⟨[("a", sharedDomain "a"), ("b", sharedDomain "b")], by decide⟩ } :
    PDNTopology).adoptBudget "a" 150).adoptBudget "b" 150

theorem sharedPdu_wellNamed : sharedPdu.WellNamed := by
  intro domainName domain found
  have listed : (domainName, domain) ∈ [("a", sharedDomain "a"), ("b", sharedDomain "b")] :=
    Dict.get?_eq_some_iff.mp found
  simp only [List.mem_cons, Prod.mk.injEq, List.not_mem_nil, or_false] at listed
  rcases listed with ⟨rfl, rfl⟩ | ⟨rfl, rfl⟩ <;> rfl

/-- **Two accepted proposals overload a PDU.** Each domain proposes 150 W and counts the other at 100
W; together they draw 300 W of 250 W. -/
theorem validateAllocation_overloads_pdu :
    sharedPdu.WellNamed ∧
      (∀ domain ∈ sharedPdu.domains.values,
        0 ≤ domain.budgetW ∧ 0 ≤ domain.nodeOverheadW ∧ domain.nodeOverheadW ≤ domain.budgetW) ∧
      ¬ sharedPdu.JointlySound (sharedPdu.domainsOnPdu "pdu0") 250 := by
  refine ⟨sharedPdu_wellNamed, by decide +kernel, fun sound => ?_⟩
  have total := sound (fun _ => ⟨[(0, 150)], List.nodup_singleton _⟩) (by decide +kernel) ?_
  · revert total
    decide +kernel
  · intro domain inside
    have listed : domain ∈ [sharedDomain "a", sharedDomain "b"] := inside
    simp only [List.mem_cons, List.not_mem_nil, or_false] at listed
    rcases listed with rfl | rfl <;> exact ok_of_toOption (by decide +kernel)

theorem validateAllocation_sound_iff_shared :
    ((∀ pduName pdu, sharedPdu.pdus.get? pduName = some pdu →
        sharedPdu.JointlySound (sharedPdu.domainsOnPdu pduName) pdu.effectiveCapacityW) ∧
      ∀ rackName rack, sharedPdu.racks.get? rackName = some rack →
        sharedPdu.JointlySound (sharedPdu.domainsOnRack (some rackName)) rack.budgetW) ↔
    ((∀ pduName pdu, sharedPdu.pdus.get? pduName = some pdu →
        sharedPdu.HasRoom (sharedPdu.domainsOnPdu pduName) pdu.effectiveCapacityW) ∧
      ∀ rackName rack, sharedPdu.racks.get? rackName = some rack →
        sharedPdu.HasRoom (sharedPdu.domainsOnRack (some rackName)) rack.budgetW) :=
  validateAllocation_sound_iff sharedPdu_wellNamed

end PDNTopology

end Opendps.Pdn
