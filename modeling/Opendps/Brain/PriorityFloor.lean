/-
**When no GPU is starved below the floor.**

The priority brain reserves `min_cap_w` for every contended GPU, after the caps the PRS brain asks for
on the others, and promises that no GPU ends below it. The PRS brain has a floor of its own and may ask
for more than the budget leaves, and then the final scaling takes every cap below the floor, although
the floors alone would fit.

`priority_floor_iff` says exactly when the promise is kept, in the terms of what the wrapped brain finds
(`PrsInputs`). For a positive floor and budget this is when the uncontended GPUs need at least the floor
and leave room for that of every contended one (`keepsFloor_iff`).
-/

import Opendps.Brain.PriorityShares

namespace Opendps.Brain

open Opendps.Lib Opendps.Pdn

namespace PriorityTieredPRSBrain

/-- What the caps the PRS brain asks for must be like for every final cap to reach the floor. -/
def KeepsFloor (self : PriorityTieredPRSBrain) (budget : ℚ) (state : DomainState)
    (caps : Dict GpuIndex ℚ) : Prop :=
  let contended := self.contended state caps
  if budget = 0 then ∀ gpu ∈ caps.keys, self.minCapW ≤ caps.getD gpu 0
  else if self.HasRoom budget contended caps then
    (∀ gpu ∈ caps.keys, gpu ∉ contended → self.minCapW ≤ caps.getD gpu 0) ∧
      ∀ gpu ∈ contended, 0 ≤ self.surplus budget contended caps * self.drawWeight state gpu /
        orOne (self.totalWeight state contended)
  else
    self.minCapW ≤ 0 ∧ ∀ gpu ∈ caps.keys, gpu ∉ contended →
      self.minCapW * (reservedIdle contended caps + self.minCapW * (contended.length : ℕ)) ≤
        caps.getD gpu 0 * budget

/-- Every GPU has a hardware maximum that leaves room for the floor. -/
def MaximaReachFloor (self : PriorityTieredPRSBrain) (state : DomainState) : Prop :=
  ∀ gpu ∈ state.gpuDraws.keys, ∃ hwMax, state.gpuMaxCaps.get? gpu = some hwMax ∧
    self.minCapW ≤ hwMax

section Floor

variable {self : PriorityTieredPRSBrain} {budget : ℚ} {state : DomainState}
  {caps : Dict GpuIndex ℚ} {gpu : GpuIndex}

/-- With a floor and a budget, and draws that are not negative, two conditions are left. -/
theorem keepsFloor_iff (draws : DrawsNonneg state) (powered : 0 < budget)
    (floor : 0 < self.minCapW) :
    self.KeepsFloor budget state caps ↔
      self.HasRoom budget (self.contended state caps) caps ∧
        ∀ gpu ∈ caps.keys, gpu ∉ self.contended state caps → self.minCapW ≤ caps.getD gpu 0 := by
  have sharesNonneg : ∀ gpu ∈ self.contended state caps,
      0 ≤ self.surplus budget (self.contended state caps) caps * self.drawWeight state gpu /
        orOne (self.totalWeight state (self.contended state caps)) := by
    intro gpu _
    refine div_nonneg (mul_nonneg (self.surplus_nonneg _ _ _) (self.drawWeight_nonneg draws gpu)) ?_
    exact (orOne_pos (self.totalWeight_nonneg draws _)).le
  simp only [KeepsFloor, powered.ne', if_false]
  split
  · next room => exact ⟨fun kept => ⟨room, kept.1⟩, fun kept => ⟨kept.2, sharesNonneg⟩⟩
  · next full => exact ⟨fun kept => absurd floor (not_lt.mpr kept.1), fun kept => absurd kept.1 full⟩

theorem get?_scaleDown_arbitrate_of_mem (present : gpu ∈ caps.keys) : (scaleDown budget
      (self.arbitrate budget state (self.contended state caps) caps)).get? gpu =
    some (self.finalCap budget state caps gpu) := by
  have kept : gpu ∈ (self.arbitrate budget state (self.contended state caps) caps).keys := by
    rw [arbitrate_eq_storeEach, Dict.mem_keys_storeEach]
    exact .inl present
  obtain ⟨value, stored⟩ := Dict.mem_keys_iff.mp kept
  have decided := get?_scaleDown budget
    (self.arbitrate budget state (self.contended state caps) caps) gpu
  rw [stored, Option.map_some] at decided
  rw [decided, get?_scaleDown_arbitrate decided]

theorem mem_keys_of_scaleDown_arbitrate (kept : gpu ∈ (scaleDown budget
      (self.arbitrate budget state (self.contended state caps) caps)).keys) : gpu ∈ caps.keys := by
  obtain ⟨cap, found⟩ := Dict.mem_keys_iff.mp kept
  rw [get?_scaleDown, Option.map_eq_some_iff] at found
  obtain ⟨value, stored, _⟩ := found
  have listed := Dict.mem_keys_iff.mpr ⟨value, stored⟩
  rw [arbitrate_eq_storeEach, Dict.mem_keys_storeEach, List.map_id] at listed
  exact listed.elim id fun member => List.mem_of_mem_filter member

/-- The contended cap of a GPU whose maximum leaves room for the floor. -/
theorem floor_le_contendedCap_iff {contended : List GpuIndex} {hwMax : ℚ}
    (maximum : state.gpuMaxCaps.get? gpu = some hwMax) (reach : self.minCapW ≤ hwMax) :
    self.minCapW ≤ self.contendedCap budget state contended caps gpu ↔
      0 ≤ self.surplus budget contended caps * self.drawWeight state gpu /
        orOne (self.totalWeight state contended) := by
  rw [contendedCap, Dict.getD_of_some maximum, le_min_iff, le_add_iff_nonneg_right]
  exact and_iff_left reach

/-- Without room every contended GPU stands at the floor before the scaling. -/
theorem contendedCap_of_no_room {hwMax : ℚ}
    (full : ¬ self.HasRoom budget (self.contended state caps) caps)
    (maximum : state.gpuMaxCaps.get? gpu = some hwMax) (reach : self.minCapW ≤ hwMax) :
    self.contendedCap budget state (self.contended state caps) caps gpu = self.minCapW := by
  rw [contendedCap_of_no_surplus (surplus_of_no_room full), Dict.getD_of_some maximum,
    min_eq_left reach]

/-- A cap scaled from a total down to a budget. -/
theorem floor_le_scaled_iff {floor cap total : ℚ} (powered : 0 < budget) (exceeds : budget < total) :
    floor ≤ cap * (budget / total) ↔ floor * total ≤ cap * budget := by
  rw [← mul_div_assoc, le_div_iff₀ (powered.trans exceeds)]

/-- A floor that is scaled down stays above itself only if it is not positive. -/
theorem floor_le_scaled_floor_iff {floor total : ℚ} (powered : 0 < budget)
    (exceeds : budget < total) : floor ≤ floor * (budget / total) ↔ floor ≤ 0 := by
  rw [floor_le_scaled_iff powered exceeds]
  constructor
  · intro kept
    by_contra positive
    exact absurd (mul_lt_mul_of_pos_left exceeds (not_le.mp positive)) (not_lt.mpr kept)
  · exact fun low => mul_le_mul_of_nonpos_left exceeds.le low

/-- Hardware maxima that leave room for the floor, on every GPU that PRS gives a cap. -/
def MaximaReach (self : PriorityTieredPRSBrain) (state : DomainState) (caps : Dict GpuIndex ℚ) :
    Prop :=
  ∀ gpu ∈ caps.keys, ∃ hwMax, state.gpuMaxCaps.get? gpu = some hwMax ∧ self.minCapW ≤ hwMax

/-- What the idle GPUs keep and the floors of the contended ones. -/
def floorsTotal (self : PriorityTieredPRSBrain) (state : DomainState) (caps : Dict GpuIndex ℚ) : ℚ :=
  reservedIdle (self.contended state caps) caps +
    self.minCapW * ((self.contended state caps).length : ℕ)

/-- Without room everything is scaled down, the contended GPUs from the floor. -/
theorem finalCap_of_no_room (powered : 0 < budget) (maxima : self.MaximaReach state caps)
    (full : ¬ self.HasRoom budget (self.contended state caps) caps) (gpu : GpuIndex) :
    self.finalCap budget state caps gpu =
      (if gpu ∈ self.contended state caps then self.minCapW else caps.getD gpu 0) *
        (budget / self.floorsTotal state caps) := by
  have atFloor : ∀ gpu ∈ self.contended state caps,
      self.contendedCap budget state (self.contended state caps) caps gpu = self.minCapW := by
    intro gpu member
    obtain ⟨hwMax, maximum, reach⟩ := maxima gpu (List.mem_of_mem_filter member)
    exact contendedCap_of_no_room full maximum reach
  have total : ((self.contended state caps).map
      (self.contendedCap budget state (self.contended state caps) caps)).sum =
        self.minCapW * ((self.contended state caps).length : ℕ) := by
    rw [List.map_congr_left atFloor, List.map_const', List.sum_replicate, nsmul_eq_mul, mul_comm]
  have exceeds : budget < reservedIdle (self.contended state caps) caps +
      self.minCapW * ((self.contended state caps).length : ℕ) := not_le.mp full
  simp only [finalCap, total, scaleFactor, powered.ne', exceeds, ne_eq, not_false_eq_true,
    and_self, if_true, floorsTotal]
  split
  · next member => rw [atFloor gpu member]
  · rfl

/-- The GPUs with a cap are the contended ones and the others. -/
theorem forall_keys_iff (holds : GpuIndex → Prop) : (∀ gpu ∈ caps.keys, holds gpu) ↔
    (∀ gpu ∈ caps.keys, gpu ∉ self.contended state caps → holds gpu) ∧
      ∀ gpu ∈ self.contended state caps, holds gpu := by
  refine ⟨fun all => ⟨fun gpu present _ => all gpu present,
    fun gpu member => all gpu (List.mem_of_mem_filter member)⟩, fun both gpu present => ?_⟩
  by_cases member : gpu ∈ self.contended state caps
  · exact both.2 gpu member
  · exact both.1 gpu present member

/-- **The arbitrated caps reach the floor** exactly when the PRS caps allow it. -/
theorem floor_le_finalCap_iff (powered : 0 < budget) (someContended : self.contended state caps ≠ [])
    (maxima : self.MaximaReach state caps) :
    (∀ gpu ∈ caps.keys, self.minCapW ≤ self.finalCap budget state caps gpu) ↔
      self.KeepsFloor budget state caps := by
  rw [forall_keys_iff]
  simp only [KeepsFloor, powered.ne', if_false]
  split
  · next room =>
    refine and_congr (forall₂_congr fun gpu _ => forall_congr' fun absent => ?_)
      (forall₂_congr fun gpu member => ?_)
    · rw [finalCap_of_room room, if_neg absent]
    · obtain ⟨hwMax, maximum, reach⟩ := maxima gpu (List.mem_of_mem_filter member)
      rw [finalCap_of_room room, if_pos member, floor_le_contendedCap_iff maximum reach]
  · next full =>
    have exceeds : budget < self.floorsTotal state caps := not_le.mp full
    rw [and_comm]
    refine and_congr ?_ (forall₂_congr fun gpu _ => forall_congr' fun absent => ?_)
    · have scaled : ∀ gpu ∈ self.contended state caps,
          (self.minCapW ≤ self.finalCap budget state caps gpu ↔ self.minCapW ≤ 0) := by
        intro gpu member
        rw [finalCap_of_no_room powered maxima full, if_pos member,
          floor_le_scaled_floor_iff powered exceeds]
      obtain ⟨some, member⟩ := List.exists_mem_of_ne_nil _ someContended
      exact ⟨fun all => (scaled some member).mp (all some member),
        fun low gpu inside => (scaled gpu inside).mpr low⟩
    · rw [finalCap_of_no_room powered maxima full, if_neg absent,
        floor_le_scaled_iff powered exceeds]
      rfl

end Floor

/-- **No GPU is starved, exactly.** For every brain, tier map and telemetry with at least two contended
GPUs and hardware maxima at or above the floor, every cap reaches `min_cap_w` if and only if the draws,
caps, maxima and history that the wrapped brain finds allow it. -/
theorem priority_floor_iff {self next : PriorityTieredPRSBrain} {topology : PDNTopology}
    {domainName : String} {state : DomainState} {decision : BrainDecision} {budget : ℚ}
    (answer : topology.domainBudgetW domainName = .ok budget)
    (call : self.decide topology domainName state = .ok (decision, next))
    (enough : 2 ≤ (state.gpuDraws.keys.filter (self.contends state)).length)
    (maxima : self.MaximaReachFloor state) :
    (∀ gpu cap, decision.caps.get? gpu = some cap → self.minCapW ≤ cap) ↔
      self.KeepsFloor budget state (self.prs.inputs budget domainName state).caps := by
  rw [self.prs.caps_inputs]
  have contendedEnough :
      2 ≤ (self.contended state (self.prs.tick budget domainName state).caps).length :=
    enough.trans_eq (self.length_contended (self.prs.tick budget domainName state)).symm
  rcases decide_cases answer call with ⟨few | zero, caps⟩ | ⟨_, powered, caps⟩
  · exact absurd contendedEnough (not_le.mpr few)
  · rw [caps]
    simp only [KeepsFloor, zero, if_true]
    constructor
    · intro all gpu present
      obtain ⟨cap, found⟩ := Dict.mem_keys_iff.mp present
      rw [Dict.getD_of_some found]
      exact all gpu cap found
    · intro all gpu cap found
      have reached := all gpu (Dict.mem_keys_iff.mpr ⟨cap, found⟩)
      rwa [Dict.getD_of_some found] at reached
  · have positive : 0 < budget :=
      lt_of_le_of_ne (PDNTopology.domainBudgetW_nonneg answer) (Ne.symm powered)
    have someContended :
        self.contended state (self.prs.tick budget domainName state).caps ≠ [] := by
      intro empty
      rw [empty] at contendedEnough
      exact absurd contendedEnough (by decide)
    rw [caps, ← floor_le_finalCap_iff positive someContended fun gpu present =>
      maxima gpu (Tick.mem_keys_caps.mp present)]
    constructor
    · intro all gpu present
      exact all gpu _ (get?_scaleDown_arbitrate_of_mem present)
    · intro all gpu cap found
      have present : gpu ∈ (self.prs.tick budget domainName state).caps.keys := by
        have kept : gpu ∈ (scaleDown budget (self.arbitrate budget state (self.contended state
            (self.prs.tick budget domainName state).caps)
            (self.prs.tick budget domainName state).caps)).keys :=
          Dict.mem_keys_iff.mpr ⟨cap, found⟩
        exact mem_keys_of_scaleDown_arbitrate kept
      rw [get?_scaleDown_arbitrate found]
      exact all gpu present

/-! ### Two contended GPUs next to an idle one that takes most of the budget -/

def starvedTopology : PDNTopology where
  pdus := .ofList [("pdu-A", { name := "pdu-A", capacityW := 10000 })]
  domains := .ofList [("domain-0",
    { name := "domain-0", budgetW := 1000, gpuIndices := [0, 1, 2], pduName := "pdu-A" })]

theorem domainBudgetW_starved : starvedTopology.domainBudgetW "domain-0" = .ok 1000 := by
  decide +kernel

/-- GPUs 0 and 1 draw their caps; GPU 2 draws a little over half of its own. -/
def starvedState : DomainState where
  domainName := "domain-0"
  gpuDraws := .ofList [(0, 500), (1, 500), (2, 600)]
  gpuCaps := .ofList [(0, 500), (1, 500), (2, 1100)]
  gpuMaxCaps := .ofList [(0, 1100), (1, 1100), (2, 1100)]
  ts := 0

theorem maximaReachFloor_starved : freshBrain.MaximaReachFloor starvedState := by
  intro gpu present
  have keys : starvedState.gpuDraws.keys = [0, 1, 2] := by decide +kernel
  have table : ∀ gpu ∈ [0, 1, 2], starvedState.gpuMaxCaps.get? gpu = some 1100 := by decide +kernel
  exact ⟨1100, table gpu (keys ▸ present), by decide +kernel⟩

/-- The floors of all three GPUs need 600 W of 1000 W, and GPU 0 is left with less than 170 W of its
200 W: the idle GPU keeps 780 W until everything is scaled down. -/
theorem priority_starves_contended :
    PriorityTieredPRSBrain.init (.ofList [(0, "critical"), (1, "low")]) = .ok freshBrain ∧
      starvedTopology.domainBudgetW "domain-0" = .ok 1000 ∧
      2 ≤ (starvedState.gpuDraws.keys.filter (freshBrain.contends starvedState)).length ∧
      freshBrain.MaximaReachFloor starvedState ∧
      (starvedState.gpuDraws.keys.length : ℚ) * freshBrain.minCapW ≤ 1000 ∧
      ∃ decision next cap,
        freshBrain.decide starvedTopology "domain-0" starvedState = .ok (decision, next) ∧
          decision.caps.get? 0 = some cap ∧ cap = 200 * (1000 / 1180) ∧ cap < freshBrain.minCapW := by
  refine ⟨init_freshBrain, domainBudgetW_starved, by decide +kernel, maximaReachFloor_starved,
    by decide +kernel, ?_⟩
  obtain ⟨decision, next, call⟩ := freshBrain.decide_isOk starvedState domainBudgetW_starved
  refine ⟨decision, next, 200 * (1000 / 1180), call, ?_, rfl, by decide +kernel⟩
  rcases decide_spec domainBudgetW_starved (by norm_num) call with ⟨few, _⟩ | ⟨_, caps⟩
  · exact absurd few (by decide +kernel)
  · rw [caps]
    decide +kernel

/-- The equivalence there: the idle GPU leaves no room for the floors. -/
theorem priority_floor_iff_starved :
    ∃ decision next,
      freshBrain.decide starvedTopology "domain-0" starvedState = .ok (decision, next) ∧
        ((∀ gpu cap, decision.caps.get? gpu = some cap → freshBrain.minCapW ≤ cap) ↔
          freshBrain.KeepsFloor 1000 starvedState
            (freshBrain.prs.inputs 1000 "domain-0" starvedState).caps) := by
  obtain ⟨decision, next, call⟩ := freshBrain.decide_isOk starvedState domainBudgetW_starved
  exact ⟨decision, next, call, priority_floor_iff domainBudgetW_starved call (by decide +kernel)
    maximaReachFloor_starved⟩

end PriorityTieredPRSBrain

end Opendps.Brain
