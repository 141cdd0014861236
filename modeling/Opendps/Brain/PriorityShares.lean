/-
**What tiers do to the caps.**

On the arbitrated path every contended GPU gets the floor and its part of the surplus, cut at its
hardware maximum (`contendedCap`), and every other one keeps its PRS cap. The final scaling multiplies
all of them, which could undo an order between two runs. It does not:

* with room for a floor for every contended GPU, floors and surplus fit the budget by construction,
  so nothing is scaled (`arbitrate_within`);
* without it there is no surplus, and no cap depends on the tiers (`contendedCap_of_no_surplus`).

`tiers_monotone` is the comparison of two tier maps, and of two GPUs under one. With a zero budget the
PRS decision is returned before any tier is read, so two GPUs are only compared on a budget that is not
zero (`zero_budget_ignores_tiers`).
-/

import Opendps.Brain.PriorityPrs
import Opendps.Brain.PrsDemand

namespace Opendps.Brain

open Opendps.Lib Opendps.Pdn

namespace PriorityTieredPRSBrain

/-! ### Tiers and weights -/

/-- The tier of a GPU. -/
def tierOf (self : PriorityTieredPRSBrain) (gpu : GpuIndex) : String :=
  self.tiers.getD gpu defaultTier

/-- Where a tier stands in the table, from the lowest to the highest. -/
def tierRank (tier : String) : ℕ := tierWeights.keys.idxOf tier

/-- A higher tier of the table has a larger weight. -/
theorem weight_le_of_tierRank {low high : String} (lowKnown : low ∈ tierWeights.keys)
    (highKnown : high ∈ tierWeights.keys) (higher : tierRank low ≤ tierRank high) :
    tierWeights.getD low 0 ≤ tierWeights.getD high 0 := by
  have table : ∀ first ∈ tierWeights.keys, ∀ second ∈ tierWeights.keys,
      tierRank first ≤ tierRank second →
        tierWeights.getD first 0 ≤ tierWeights.getD second 0 := by decide +kernel
  exact table low lowKnown high highKnown higher

theorem weight_nonneg (self : PriorityTieredPRSBrain) (gpu : GpuIndex) : 0 ≤ self.weight gpu := by
  have table : ∀ value ∈ tierWeights.values, (0 : ℚ) ≤ value := by decide +kernel
  exact table _ (self.weight_mem gpu)

/-- Draw times weight: what the surplus is split by. -/
def drawWeight (self : PriorityTieredPRSBrain) (state : DomainState) (gpu : GpuIndex) : ℚ :=
  state.gpuDraws.getD gpu 0 * self.weight gpu

def totalWeight (self : PriorityTieredPRSBrain) (state : DomainState)
    (contended : List GpuIndex) : ℚ :=
  (contended.map (self.drawWeight state)).sum

/-- The cap of a contended GPU before the scaling. -/
def contendedCap (self : PriorityTieredPRSBrain) (budget : ℚ) (state : DomainState)
    (contended : List GpuIndex) (caps : Dict GpuIndex ℚ) (gpu : GpuIndex) : ℚ :=
  min (self.minCapW + self.surplus budget contended caps * self.drawWeight state gpu /
      orOne (self.totalWeight state contended))
    (state.gpuMaxCaps.getD gpu (caps.getD gpu 0))

/-- The caps of the GPUs that do not contend. -/
def reservedIdle (contended : List GpuIndex) (caps : Dict GpuIndex ℚ) : ℚ :=
  ((caps.keys.filter fun gpu => Decidable.decide (gpu ∉ contended)).map fun gpu => caps.getD gpu 0).sum

theorem drawWeight_nonneg (self : PriorityTieredPRSBrain) {state : DomainState}
    (draws : DrawsNonneg state) (gpu : GpuIndex) : 0 ≤ self.drawWeight state gpu :=
  mul_nonneg (draws.getD gpu) (self.weight_nonneg gpu)

theorem totalWeight_nonneg (self : PriorityTieredPRSBrain) {state : DomainState}
    (draws : DrawsNonneg state) (contended : List GpuIndex) :
    0 ≤ self.totalWeight state contended := by
  refine List.sum_nonneg fun value inside => ?_
  obtain ⟨gpu, _, rfl⟩ := List.mem_map.mp inside
  exact self.drawWeight_nonneg draws gpu

theorem surplus_nonneg (self : PriorityTieredPRSBrain) (budget : ℚ) (contended : List GpuIndex)
    (caps : Dict GpuIndex ℚ) : 0 ≤ self.surplus budget contended caps := le_max_left _ _

/-! ### The caps of the arbitrated path -/

section Arbitrate

variable {self : PriorityTieredPRSBrain} {budget : ℚ} {state : DomainState}
  {contended : List GpuIndex} {caps : Dict GpuIndex ℚ} {gpu : GpuIndex}

theorem arbitrate_eq_storeEach : self.arbitrate budget state contended caps =
    Dict.storeEach id (fun gpu stored =>
      min (self.minCapW + self.surplus budget contended caps * self.drawWeight state gpu /
          orOne (self.totalWeight state contended))
        (state.gpuMaxCaps.getD gpu (stored.getD 0))) contended caps := rfl

theorem get?_arbitrate_of_mem (nodup : contended.Nodup) (member : gpu ∈ contended) :
    (self.arbitrate budget state contended caps).get? gpu =
      some (self.contendedCap budget state contended caps gpu) := by
  rw [arbitrate_eq_storeEach]
  exact Dict.get?_storeEach_of_mem id _ (by rwa [List.map_id]) caps member

theorem get?_arbitrate_of_not_mem (absent : gpu ∉ contended) :
    (self.arbitrate budget state contended caps).get? gpu = caps.get? gpu := by
  rw [arbitrate_eq_storeEach]
  exact Dict.get?_storeEach_of_not_mem id _ caps (by rwa [List.map_id])

/-- Arbitration adds no GPU and drops none. -/
theorem keys_arbitrate_perm (inside : contended ⊆ caps.keys) :
    (self.arbitrate budget state contended caps).keys.Perm caps.keys := by
  refine (List.perm_ext_iff_of_nodup (Dict.keys_nodup _) caps.keys_nodup).mpr fun gpu => ?_
  rw [arbitrate_eq_storeEach, Dict.mem_keys_storeEach, List.map_id]
  exact ⟨fun either => either.elim id fun member => inside member, .inl⟩

/-- The arbitrated caps: what is reserved for the others, and the contended caps. -/
theorem sum_arbitrate (test : GpuIndex → Bool) (filtered : contended = caps.keys.filter test) :
    (self.arbitrate budget state contended caps).values.sum = reservedIdle contended caps +
      (contended.map (self.contendedCap budget state contended caps)).sum := by
  have nodup : contended.Nodup := filtered ▸ caps.keys_nodup.filter test
  have inside : contended ⊆ caps.keys := fun gpu listed =>
    List.mem_of_mem_filter (filtered ▸ listed)
  have same : (caps.keys.filter fun gpu => !Decidable.decide (gpu ∉ contended)) = contended := by
    rw [filtered]
    refine List.filter_congr fun gpu listed => ?_
    simp [listed]
  rw [Dict.values_eq_map_getD _ 0, ((keys_arbitrate_perm inside).map _).sum_eq,
    ← sum_filter_add (fun gpu => Decidable.decide (gpu ∉ contended)), same, reservedIdle]
  congr 2
  · refine List.map_congr_left fun gpu listed => ?_
    have absent := of_decide_eq_true (List.mem_filter.mp listed).2
    exact Dict.getD_congr (get?_arbitrate_of_not_mem absent) 0
  · refine List.map_congr_left fun gpu member => ?_
    exact Dict.getD_of_some (get?_arbitrate_of_mem nodup member) 0

/-- The contended caps take at most their floors and the surplus, whatever the weights. -/
theorem sum_contendedCap_le :
    (contended.map (self.contendedCap budget state contended caps)).sum ≤
      self.minCapW * (contended.length : ℕ) + self.surplus budget contended caps := by
  have surplusNonneg := self.surplus_nonneg budget contended caps
  have split : (contended.map fun gpu => self.minCapW +
      self.surplus budget contended caps * self.drawWeight state gpu /
        orOne (self.totalWeight state contended)).sum =
      self.minCapW * (contended.length : ℕ) + self.surplus budget contended caps *
        (self.totalWeight state contended / orOne (self.totalWeight state contended)) := by
    simp only [List.sum_map_add, List.sum_map_mul_left, List.map_const',
      List.sum_replicate, nsmul_eq_mul, div_eq_mul_inv, List.sum_map_mul_right]
    rw [totalWeight]
    ring
  calc (contended.map (self.contendedCap budget state contended caps)).sum
      ≤ (contended.map fun gpu => self.minCapW +
          self.surplus budget contended caps * self.drawWeight state gpu /
            orOne (self.totalWeight state contended)).sum :=
        List.sum_le_sum fun gpu _ => min_le_left _ _
    _ = _ := split
    _ ≤ _ := add_le_add le_rfl
        (mul_le_of_le_one_right surplusNonneg (self_div_orOne_le_one _))

/-- The caps of the other GPUs leave a floor for every contended one. -/
def HasRoom (self : PriorityTieredPRSBrain) (budget : ℚ) (contended : List GpuIndex)
    (caps : Dict GpuIndex ℚ) : Prop :=
  reservedIdle contended caps + self.minCapW * (contended.length : ℕ) ≤ budget

instance : Decidable (self.HasRoom budget contended caps) := by
  unfold HasRoom
  infer_instance

theorem surplus_of_room (room : self.HasRoom budget contended caps) :
    self.surplus budget contended caps =
      budget - (reservedIdle contended caps + self.minCapW * (contended.length : ℕ)) := by
  have left : 0 ≤ budget - reservedIdle contended caps -
      self.minCapW * (contended.length : ℕ) := by
    rw [sub_sub]
    exact sub_nonneg.mpr room
  rw [← sub_sub]
  exact max_eq_right left

theorem surplus_of_no_room (full : ¬ self.HasRoom budget contended caps) :
    self.surplus budget contended caps = 0 := by
  refine max_eq_left ?_
  show budget - reservedIdle contended caps - self.minCapW * (contended.length : ℕ) ≤ 0
  rw [sub_sub]
  exact sub_nonpos.mpr (not_le.mp full).le

/-- Where there is room the arbitrated caps fit the budget. -/
theorem arbitrate_within (room : self.HasRoom budget contended caps) :
    reservedIdle contended caps +
      (contended.map (self.contendedCap budget state contended caps)).sum ≤ budget := by
  have most : (contended.map (self.contendedCap budget state contended caps)).sum ≤
      self.minCapW * (contended.length : ℕ) + self.surplus budget contended caps :=
    sum_contendedCap_le
  rw [surplus_of_room room] at most
  linarith

/-- Without a surplus a contended GPU gets the floor, whatever its tier. -/
theorem contendedCap_of_no_surplus (none : self.surplus budget contended caps = 0) :
    self.contendedCap budget state contended caps gpu =
      min self.minCapW (state.gpuMaxCaps.getD gpu (caps.getD gpu 0)) := by
  rw [contendedCap, none, zero_mul, zero_div, add_zero]

end Arbitrate

/-! ### The scaling -/

/-- What every cap is multiplied by at the end. -/
def scaleFactor (budget total : ℚ) : ℚ :=
  if budget ≠ 0 ∧ budget < total then budget / total else 1

theorem scaleFactor_nonneg {budget total : ℚ} (nonneg : 0 ≤ budget) :
    0 ≤ scaleFactor budget total := by
  unfold scaleFactor
  split
  · next exceeds => exact div_nonneg nonneg (nonneg.trans exceeds.2.le)
  · exact zero_le_one

theorem scaleFactor_of_within {budget total : ℚ} (within : total ≤ budget) :
    scaleFactor budget total = 1 := if_neg fun exceeds => absurd exceeds.2 (not_lt.mpr within)

theorem get?_scaleDown (budget : ℚ) (caps : Dict GpuIndex ℚ) (gpu : GpuIndex) :
    (scaleDown budget caps).get? gpu =
      (caps.get? gpu).map fun cap => cap * scaleFactor budget caps.values.sum := by
  simp only [scaleDown, scaleFactor]
  split
  · rw [Dict.get?_mapVals]
  · simp

/-- The cap of a GPU on the arbitrated path. -/
def finalCap (self : PriorityTieredPRSBrain) (budget : ℚ) (state : DomainState)
    (caps : Dict GpuIndex ℚ) (gpu : GpuIndex) : ℚ :=
  let contended := self.contended state caps
  (if gpu ∈ contended then self.contendedCap budget state contended caps gpu
    else caps.getD gpu 0) *
  scaleFactor budget (reservedIdle contended caps +
    (contended.map (self.contendedCap budget state contended caps)).sum)

section Final

variable {self : PriorityTieredPRSBrain} {budget : ℚ} {state : DomainState}
  {caps : Dict GpuIndex ℚ} {gpu : GpuIndex}

theorem contended_nodup : (self.contended state caps).Nodup := caps.keys_nodup.filter _

theorem contended_eq_filter :
    self.contended state caps = caps.keys.filter (self.contends state) := rfl

/-- What the arbitrated and scaled dictionary holds. -/
theorem get?_scaleDown_arbitrate {cap : ℚ} (decided : (scaleDown budget
      (self.arbitrate budget state (self.contended state caps) caps)).get? gpu = some cap) :
    cap = self.finalCap budget state caps gpu := by
  rw [get?_scaleDown, sum_arbitrate _ contended_eq_filter, Option.map_eq_some_iff] at decided
  obtain ⟨value, stored, rfl⟩ := decided
  rw [finalCap]
  by_cases member : gpu ∈ self.contended state caps
  · rw [get?_arbitrate_of_mem contended_nodup member, Option.some.injEq] at stored
    simp only [member, if_true, stored]
  · rw [get?_arbitrate_of_not_mem member] at stored
    simp only [member, if_false, Dict.getD, stored, Option.getD_some]

/-- Where there is room nothing is scaled. -/
theorem finalCap_of_room (room : self.HasRoom budget (self.contended state caps) caps) :
    self.finalCap budget state caps gpu =
      if gpu ∈ self.contended state caps then
        self.contendedCap budget state (self.contended state caps) caps gpu
      else caps.getD gpu 0 := by
  rw [finalCap, scaleFactor_of_within (arbitrate_within room), mul_one]

end Final

/-! ### Two tier maps -/

section Raise

variable {self raised : PriorityTieredPRSBrain} {budget : ℚ} {state : DomainState}
  {caps : Dict GpuIndex ℚ} {gpu : GpuIndex}

/-- Two brains that differ in the tier of one GPU at most, which the second one ranks no lower. -/
structure RaisedAt (gpu : GpuIndex) (before after : PriorityTieredPRSBrain) : Prop where
  prs : after.prs = before.prs
  threshold : after.threshold = before.threshold
  minCapW : after.minCapW = before.minCapW
  others : ∀ other, other ≠ gpu → after.tierOf other = before.tierOf other
  higher : tierRank (before.tierOf gpu) ≤ tierRank (after.tierOf gpu)

namespace RaisedAt

theorem drawWeight_eq (raise : RaisedAt gpu self raised) {other : GpuIndex}
    (different : other ≠ gpu) : raised.drawWeight state other = self.drawWeight state other := by
  have sameTier := raise.others other different
  unfold tierOf at sameTier
  unfold drawWeight weight
  rw [sameTier]

theorem drawWeight_le (raise : RaisedAt gpu self raised) (draws : DrawsNonneg state)
    (other : GpuIndex) : self.drawWeight state other ≤ raised.drawWeight state other := by
  by_cases same : other = gpu
  · subst same
    exact mul_le_mul_of_nonneg_left
      (weight_le_of_tierRank (self.tierOf_known other) (raised.tierOf_known other) raise.higher)
      (draws.getD other)
  · exact (raise.drawWeight_eq same).ge

theorem contended_eq (raise : RaisedAt gpu self raised) :
    raised.contended state caps = self.contended state caps := by
  have sameTest : raised.contends state = self.contends state := by
    funext other
    unfold contends
    rw [raise.threshold]
  unfold contended
  rw [sameTest]

theorem surplus_eq (raise : RaisedAt gpu self raised) (contended : List GpuIndex) :
    raised.surplus budget contended caps = self.surplus budget contended caps := by
  unfold surplus
  rw [raise.minCapW]

theorem totalWeight_le (raise : RaisedAt gpu self raised) (draws : DrawsNonneg state)
    (contended : List GpuIndex) :
    self.totalWeight state contended ≤ raised.totalWeight state contended :=
  List.sum_le_sum fun other _ => raise.drawWeight_le draws other

/-- The raised GPU gets no smaller part of the surplus. -/
theorem ratio_le (raise : RaisedAt gpu self raised) (draws : DrawsNonneg state)
    {contended : List GpuIndex} (nodup : contended.Nodup) (member : gpu ∈ contended) :
    self.drawWeight state gpu / orOne (self.totalWeight state contended) ≤
      raised.drawWeight state gpu / orOne (raised.totalWeight state contended) := by
  have split : ∀ brain : PriorityTieredPRSBrain, brain.totalWeight state contended =
      brain.drawWeight state gpu + ((contended.erase gpu).map (brain.drawWeight state)).sum := by
    intro brain
    rw [totalWeight, ((List.perm_cons_erase member).map (brain.drawWeight state)).sum_eq,
      List.map_cons, List.sum_cons]
  have rest : (contended.erase gpu).map (raised.drawWeight state) =
      (contended.erase gpu).map (self.drawWeight state) := by
    refine List.map_congr_left fun other inside => raise.drawWeight_eq fun same => ?_
    exact (List.Nodup.mem_erase_iff nodup).mp inside |>.1 same
  have othersNonneg : 0 ≤ ((contended.erase gpu).map (self.drawWeight state)).sum := by
    refine List.sum_nonneg fun value inside => ?_
    obtain ⟨other, _, rfl⟩ := List.mem_map.mp inside
    exact self.drawWeight_nonneg draws other
  rw [split self, split raised, rest]
  exact ratio_le_ratio_of_raise (self.drawWeight_nonneg draws gpu) (raise.drawWeight_le draws gpu)
    othersNonneg

/-- Every other GPU gets no larger part. -/
theorem ratio_other_le (raise : RaisedAt gpu self raised) (draws : DrawsNonneg state)
    {contended : List GpuIndex} {other : GpuIndex} (different : other ≠ gpu)
    (member : other ∈ contended) :
    raised.drawWeight state other / orOne (raised.totalWeight state contended) ≤
      self.drawWeight state other / orOne (self.totalWeight state contended) := by
  have listed : ∀ value ∈ contended.map (self.drawWeight state), 0 ≤ value := by
    intro value inside
    obtain ⟨third, _, rfl⟩ := List.mem_map.mp inside
    exact self.drawWeight_nonneg draws third
  rw [raise.drawWeight_eq different]
  exact ratio_le_ratio_of_other (self.drawWeight_nonneg draws other)
    (List.single_le_sum listed _ (List.mem_map_of_mem member)) (raise.totalWeight_le draws contended)

/-- A larger part of the surplus is a larger contended cap. -/
theorem contendedCap_le_of_ratio {first second : PriorityTieredPRSBrain}
    {contended : List GpuIndex} (sameFloor : first.minCapW = second.minCapW)
    (ratio : first.drawWeight state gpu / orOne (first.totalWeight state contended) ≤
      second.drawWeight state gpu / orOne (second.totalWeight state contended)) :
    first.contendedCap budget state contended caps gpu ≤
      second.contendedCap budget state contended caps gpu := by
  have sameSurplus : first.surplus budget contended caps = second.surplus budget contended caps := by
    unfold surplus
    rw [sameFloor]
  unfold contendedCap
  rw [sameFloor, sameSurplus, mul_div_assoc, mul_div_assoc]
  exact min_le_min (add_le_add le_rfl (mul_le_mul_of_nonneg_left ratio
    (second.surplus_nonneg budget contended caps))) le_rfl

/-- Without a surplus no cap depends on the tiers. -/
theorem finalCap_eq_of_no_surplus (raise : RaisedAt gpu self raised)
    (none : self.surplus budget (self.contended state caps) caps = 0) (other : GpuIndex) :
    raised.finalCap budget state caps other = self.finalCap budget state caps other := by
  have noneRaised := (raise.surplus_eq (self.contended state caps)).trans none
  have sameCap : raised.contendedCap budget state (self.contended state caps) caps =
      self.contendedCap budget state (self.contended state caps) caps := by
    funext third
    rw [contendedCap_of_no_surplus none, contendedCap_of_no_surplus noneRaised, raise.minCapW]
  rw [finalCap, finalCap, raise.contended_eq, sameCap]

theorem hasRoom (raise : RaisedAt gpu self raised)
    (room : self.HasRoom budget (self.contended state caps) caps) :
    raised.HasRoom budget (raised.contended state caps) caps := by
  rw [HasRoom, raise.contended_eq, raise.minCapW]
  exact room

theorem finalCap_le (raise : RaisedAt gpu self raised) (draws : DrawsNonneg state) :
    self.finalCap budget state caps gpu ≤ raised.finalCap budget state caps gpu := by
  by_cases room : self.HasRoom budget (self.contended state caps) caps
  · rw [finalCap_of_room room, finalCap_of_room (raise.hasRoom room), raise.contended_eq]
    split
    · next member =>
      exact contendedCap_le_of_ratio raise.minCapW.symm
        (raise.ratio_le draws contended_nodup member)
    · exact le_rfl
  · exact (raise.finalCap_eq_of_no_surplus (surplus_of_no_room room) gpu).ge

theorem finalCap_other_le (raise : RaisedAt gpu self raised) (draws : DrawsNonneg state)
    {other : GpuIndex} (different : other ≠ gpu) :
    raised.finalCap budget state caps other ≤ self.finalCap budget state caps other := by
  by_cases room : self.HasRoom budget (self.contended state caps) caps
  · rw [finalCap_of_room room, finalCap_of_room (raise.hasRoom room), raise.contended_eq]
    split
    · next member =>
      exact contendedCap_le_of_ratio raise.minCapW (raise.ratio_other_le draws different member)
    · exact le_rfl
  · exact (raise.finalCap_eq_of_no_surplus (surplus_of_no_room room) other).le

end RaisedAt

end Raise

/-! ### Two GPUs -/

section Order

variable {self : PriorityTieredPRSBrain} {budget : ℚ} {state : DomainState}
  {caps : Dict GpuIndex ℚ} {first second : GpuIndex}

/-- Of two contended GPUs that draw the same, the one with the higher tier and maximum gets no less. -/
theorem finalCap_le_of_tierRank (nonneg : 0 ≤ budget) (draws : DrawsNonneg state) {draw : ℚ}
    (drawFirst : state.gpuDraws.get? first = some draw)
    (drawSecond : state.gpuDraws.get? second = some draw) {maxFirst maxSecond : ℚ}
    (hwFirst : state.gpuMaxCaps.get? first = some maxFirst)
    (hwSecond : state.gpuMaxCaps.get? second = some maxSecond)
    (higher : tierRank (self.tierOf second) ≤ tierRank (self.tierOf first))
    (maxima : maxSecond ≤ maxFirst) (firstIn : first ∈ self.contended state caps)
    (secondIn : second ∈ self.contended state caps) :
    self.finalCap budget state caps second ≤ self.finalCap budget state caps first := by
  have weights : self.drawWeight state second ≤ self.drawWeight state first := by
    unfold drawWeight
    rw [Dict.getD_of_some drawFirst, Dict.getD_of_some drawSecond]
    exact mul_le_mul_of_nonneg_left
      (weight_le_of_tierRank (self.tierOf_known second) (self.tierOf_known first) higher)
      (draws first draw drawFirst)
  have totalNonneg := self.totalWeight_nonneg draws (self.contended state caps)
  have contended : self.contendedCap budget state (self.contended state caps) caps second ≤
      self.contendedCap budget state (self.contended state caps) caps first := by
    simp only [contendedCap, Dict.getD, hwFirst, hwSecond, Option.getD_some]
    refine min_le_min (add_le_add le_rfl ?_) maxima
    exact div_le_div_of_nonneg_right (mul_le_mul_of_nonneg_left weights
      (self.surplus_nonneg budget (self.contended state caps) caps)) (orOne_pos totalNonneg).le
  simp only [finalCap, firstIn, secondIn, if_true]
  exact mul_le_mul_of_nonneg_right contended (scaleFactor_nonneg nonneg)

end Order

/-! ### The decisions -/

/-- The tier map is all that `set_tiers` changes. -/
theorem raisedAt_of_setTiers {self raised : PriorityTieredPRSBrain} {tiers : Dict GpuIndex String}
    {gpu : GpuIndex} (sets : self.setTiers tiers = .ok raised)
    (others : ∀ other, other ≠ gpu → tiers.get? other = self.tiers.get? other)
    (higher : tierRank (self.tierOf gpu) ≤ tierRank (raised.tierOf gpu)) :
    RaisedAt gpu self raised := by
  unfold setTiers at sets
  split at sets
  · cases sets
    refine ⟨rfl, rfl, rfl, fun other different => ?_, higher⟩
    exact Dict.getD_congr (others other different) defaultTier
  · cases sets

theorem eq_of_length_lt_two {elements : List GpuIndex} {first second : GpuIndex}
    (few : elements.length < 2) (firstIn : first ∈ elements) (secondIn : second ∈ elements) :
    first = second := by
  match elements with
  | [] => cases firstIn
  | [only] => rw [List.mem_singleton.mp firstIn, List.mem_singleton.mp secondIn]
  | _ :: _ :: rest =>
    simp only [List.length_cons] at few
    omega

/-- **Raising a tier is monotone.** For every inner brain and every telemetry without negative draws:
under two tier maps that differ in one GPU, which the second ranks higher, that GPU's cap is no lower
under the second and no other cap is higher; and where the domain has a budget, of two contended GPUs
that draw the same the one with the higher tier and the higher maximum does not get the smaller cap. -/
theorem tiers_monotone {self next : PriorityTieredPRSBrain} {topology : PDNTopology}
    {domainName : String} {state : DomainState} {decision : BrainDecision} {budget : ℚ}
    (draws : DrawsNonneg state) (answer : topology.domainBudgetW domainName = .ok budget)
    (call : self.decide topology domainName state = .ok (decision, next)) :
    (∀ (tiers : Dict GpuIndex String) (raised nextRaised : PriorityTieredPRSBrain)
        (decisionRaised : BrainDecision) (gpu : GpuIndex), self.setTiers tiers = .ok raised →
      (∀ other, other ≠ gpu → tiers.get? other = self.tiers.get? other) →
      tierRank (self.tierOf gpu) ≤ tierRank (raised.tierOf gpu) →
      raised.decide topology domainName state = .ok (decisionRaised, nextRaised) →
      (∀ cap capRaised, decision.caps.get? gpu = some cap →
        decisionRaised.caps.get? gpu = some capRaised → cap ≤ capRaised) ∧
      ∀ other, other ≠ gpu → ∀ cap capRaised, decision.caps.get? other = some cap →
        decisionRaised.caps.get? other = some capRaised → capRaised ≤ cap) ∧
    (budget ≠ 0 → ∀ first second, self.contends state first = true →
      self.contends state second = true → ∀ draw, state.gpuDraws.get? first = some draw →
      state.gpuDraws.get? second = some draw → ∀ maxFirst maxSecond,
      state.gpuMaxCaps.get? first = some maxFirst → state.gpuMaxCaps.get? second = some maxSecond →
      tierRank (self.tierOf second) ≤ tierRank (self.tierOf first) → maxSecond ≤ maxFirst →
      ∀ capFirst capSecond, decision.caps.get? first = some capFirst →
        decision.caps.get? second = some capSecond → capSecond ≤ capFirst) := by
  constructor
  · intro tiers raised nextRaised decisionRaised gpu sets others higher callRaised
    have raise := raisedAt_of_setTiers sets others higher
    have branches := decide_cases answer call
    have branchesRaised := decide_cases answer callRaised
    simp only [raise.prs, raise.contended_eq] at branchesRaised
    rcases branches with ⟨asIs, caps⟩ | ⟨enough, powered, caps⟩ <;>
      rcases branchesRaised with ⟨asIsRaised, capsRaised⟩ | ⟨enoughRaised, poweredRaised, capsRaised⟩
    · -- neither decision looks at the tiers
      rw [caps, capsRaised]
      refine ⟨fun cap capRaised found foundRaised => ?_, fun _ _ cap capRaised found foundRaised => ?_⟩
      · exact (Option.some.inj (found.symm.trans foundRaised)).le
      · exact (Option.some.inj (found.symm.trans foundRaised)).ge
    · exact absurd asIs (not_or.mpr ⟨not_lt.mpr enoughRaised, poweredRaised⟩)
    · exact absurd asIsRaised (not_or.mpr ⟨not_lt.mpr enough, powered⟩)
    · rw [caps, capsRaised, ← raise.contended_eq]
      refine ⟨fun cap capRaised found foundRaised => ?_,
        fun other different cap capRaised found foundRaised => ?_⟩
      · rw [raise.contended_eq] at found
        rw [get?_scaleDown_arbitrate found, get?_scaleDown_arbitrate foundRaised]
        exact raise.finalCap_le draws
      · rw [raise.contended_eq] at found
        rw [get?_scaleDown_arbitrate found, get?_scaleDown_arbitrate foundRaised]
        exact raise.finalCap_other_le draws different
  · intro powered first second firstContends secondContends draw drawFirst drawSecond maxFirst
      maxSecond hwFirst hwSecond higher maxima capFirst capSecond foundFirst foundSecond
    have contendedOf : ∀ gpu, state.gpuDraws.get? gpu = some draw →
        self.contends state gpu = true →
        gpu ∈ self.contended state (self.prs.tick budget domainName state).caps := by
      intro gpu reported contends
      have present : gpu ∈ (self.prs.tick budget domainName state).gpus :=
        Dict.mem_keys_iff.mpr ⟨draw, reported⟩
      exact List.mem_filter.mpr ⟨Tick.mem_keys_caps.mpr present, contends⟩
    have firstIn := contendedOf first drawFirst firstContends
    have secondIn := contendedOf second drawSecond secondContends
    rcases decide_cases answer call with ⟨few | zero, caps⟩ | ⟨enough, _, caps⟩
    · have same := eq_of_length_lt_two few firstIn secondIn
      subst same
      exact (Option.some.inj (foundSecond.symm.trans foundFirst)).le
    · exact absurd zero powered
    · rw [caps] at foundFirst foundSecond
      rw [get?_scaleDown_arbitrate foundFirst, get?_scaleDown_arbitrate foundSecond]
      exact finalCap_le_of_tierRank (PDNTopology.domainBudgetW_nonneg answer) draws drawFirst
        drawSecond hwFirst hwSecond higher maxima firstIn secondIn

/-! ### Two GPUs that draw the same

Both draw their reported caps of 500 W and may get 1000 W; GPU 0 is critical, GPU 1 low. -/

def tiedState : DomainState where
  domainName := "domain-0"
  gpuDraws := .ofList [(0, 500), (1, 500)]
  gpuCaps := .ofList [(0, 500), (1, 500)]
  gpuMaxCaps := .ofList [(0, 1000), (1, 1000)]
  ts := 0

theorem drawsNonneg_tiedState : DrawsNonneg tiedState := by
  intro gpu draw found
  have listed : draw ∈ tiedState.gpuDraws.values :=
    List.mem_map.mpr ⟨_, Dict.get?_eq_some_iff.mp found, rfl⟩
  have table : ∀ value ∈ tiedState.gpuDraws.values, (0 : ℚ) ≤ value := by decide +kernel
  exact table draw listed

/-- Raising GPU 1 to high does not lower its cap, and until then GPU 0 has no smaller one. -/
theorem tiers_monotone_tied :
    ∃ raised decision next decisionRaised nextRaised,
      freshBrain.setTiers (.ofList [(0, "critical"), (1, "high")]) = .ok raised ∧
        freshBrain.decide skewedTopology "domain-0" tiedState = .ok (decision, next) ∧
        raised.decide skewedTopology "domain-0" tiedState = .ok (decisionRaised, nextRaised) ∧
        (∀ cap capRaised, decision.caps.get? 1 = some cap →
          decisionRaised.caps.get? 1 = some capRaised → cap ≤ capRaised) ∧
        ∀ capFirst capSecond, decision.caps.get? 0 = some capFirst →
          decision.caps.get? 1 = some capSecond → capSecond ≤ capFirst := by
  obtain ⟨decision, next, call⟩ := freshBrain.decide_isOk tiedState domainBudgetW_skewed
  have known : ∀ tier ∈ (Dict.ofList [((0 : GpuIndex), "critical"), (1, "high")]).values,
      tier ∈ tierWeights.keys := by decide +kernel
  obtain ⟨decisionRaised, nextRaised, callRaised⟩ := decide_isOk
    { freshBrain with tiers := _, known := known } tiedState domainBudgetW_skewed
  have sets : freshBrain.setTiers (.ofList [(0, "critical"), (1, "high")]) =
      .ok { freshBrain with tiers := _, known := known } := dif_pos known
  obtain ⟨raising, order⟩ := tiers_monotone drawsNonneg_tiedState domainBudgetW_skewed call
  have others : ∀ other : GpuIndex, other ≠ 1 →
      (Dict.ofList [((0 : GpuIndex), "critical"), (1, "high")]).get? other =
        freshBrain.tiers.get? other := by
    intro other different
    have first : Dict.ofList [((0 : GpuIndex), "critical"), (1, "high")] =
        (Dict.empty.set 0 "critical").set 1 "high" := rfl
    have second : freshBrain.tiers = (Dict.empty.set 0 "critical").set 1 "low" := rfl
    rw [first, second, Dict.get?_set_of_ne _ _ different, Dict.get?_set_of_ne _ _ different]
  have higher : tierRank (freshBrain.tierOf 1) ≤ tierRank
      ((Dict.ofList [((0 : GpuIndex), "critical"), (1, "high")]).getD 1 defaultTier) := by
    decide +kernel
  exact ⟨_, decision, next, decisionRaised, nextRaised, sets, call, callRaised,
    (raising _ _ _ _ 1 sets others higher callRaised).1,
    order (by norm_num) 0 1 (by decide +kernel) (by decide +kernel) 500 (by decide +kernel)
      (by decide +kernel) 1000 1000 (by decide +kernel) (by decide +kernel) (by decide +kernel) le_rfl⟩

/-- A domain whose overhead takes up its whole budget. -/
def unpoweredTopology : PDNTopology where
  pdus := .ofList [("pdu-A", { name := "pdu-A", capacityW := 10000 })]
  domains := .ofList [("domain-0",
    { name := "domain-0", budgetW := 500, gpuIndices := [0, 1], pduName := "pdu-A"
      nodeOverheadW := 500 })]

theorem domainBudgetW_unpowered : unpoweredTopology.domainBudgetW "domain-0" = .ok 0 := by
  decide +kernel

/-- The brain after draws of 500 W and of 100 W. -/
def smoothedBrain : PriorityTieredPRSBrain :=
  { freshBrain with
    prs := { freshBrain.prs with
      ewma := Dict.empty.set "domain-0" (.ofList [(0, 500), (1, 100)]) } }

/-- Without a budget the critical GPU gets 200 W, and the low one, which draws the same and has the
same maximum, 286 W. -/
theorem zero_budget_ignores_tiers :
    DrawsNonneg tiedState ∧ smoothedBrain.contends tiedState 0 = true ∧
      smoothedBrain.contends tiedState 1 = true ∧
      tiedState.gpuDraws.get? 0 = some 500 ∧ tiedState.gpuDraws.get? 1 = some 500 ∧
      tiedState.gpuMaxCaps.get? 0 = some 1000 ∧ tiedState.gpuMaxCaps.get? 1 = some 1000 ∧
      tierRank (smoothedBrain.tierOf 1) ≤ tierRank (smoothedBrain.tierOf 0) ∧
      ∃ decision next, smoothedBrain.decide unpoweredTopology "domain-0" tiedState =
          .ok (decision, next) ∧
        decision.caps.get? 0 = some 200 ∧ decision.caps.get? 1 = some 286 := by
  obtain ⟨decision, next, call⟩ := smoothedBrain.decide_isOk tiedState domainBudgetW_unpowered
  have caps : decision.caps = (smoothedBrain.prs.tick 0 "domain-0" tiedState).caps := by
    rcases decide_cases domainBudgetW_unpowered call with ⟨_, caps⟩ | ⟨_, powered, _⟩
    · exact caps
    · exact absurd rfl powered
  refine ⟨drawsNonneg_tiedState, by decide +kernel, by decide +kernel, by decide +kernel,
    by decide +kernel, by decide +kernel, by decide +kernel, by decide +kernel, decision, next, call,
    ?_, ?_⟩
  · rw [caps]
    decide +kernel
  · rw [caps]
    decide +kernel

end PriorityTieredPRSBrain

end Opendps.Brain
