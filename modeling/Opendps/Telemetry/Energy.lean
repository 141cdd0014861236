/-
**Cumulative energy of each GPU.**

`EnergyAccountant` integrates draw over time into a ledger of joules. `add_tick` also returns what it
added, so that whoever attributes a tick to a tenant reads the same joules (`getD_addTick`).
-/

import Opendps.Lib.Ledger
import Opendps.Pdn.Model
import Mathlib.Tactic.NormNum

namespace Opendps.Telemetry

open Opendps.Lib Opendps.Pdn

/-- Accumulated joules of each GPU. -/
structure EnergyAccountant where
  energyJ : Dict GpuIndex ℚ := .empty

namespace EnergyAccountant

/-- Integrate one tick: `draw × dt` joules for every GPU with a draw. A tick that takes no time adds
nothing. Also returns the joules added. -/
def addTick (self : EnergyAccountant) (gpuDrawsW : Dict GpuIndex (Option ℚ)) (dtS : ℚ) :
    Dict GpuIndex ℚ × EnergyAccountant :=
  if dtS ≤ 0 then (.empty, self)
  else
    let added := gpuDrawsW.filterMapVals fun _ draw => draw.map fun watts => watts * dtS
    (added, { self with energyJ := Ledger.postAll added.items self.energyJ })

/-- The watt-hours of a tenant's GPUs. -/
def tenantEnergyWh (self : EnergyAccountant) (gpuIndices : List GpuIndex) : ℚ :=
  (gpuIndices.map fun gpu => self.energyJ.getD gpu 0).sum / 3600

def totalWh (self : EnergyAccountant) : ℚ := self.energyJ.values.sum / 3600

variable {self : EnergyAccountant} {draws : Dict GpuIndex (Option ℚ)} {dtS : ℚ}

/-- The stored energy grows by what is returned. -/
theorem getD_addTick (self : EnergyAccountant) (draws : Dict GpuIndex (Option ℚ)) (dtS : ℚ)
    (gpu : GpuIndex) :
    (self.addTick draws dtS).2.energyJ.getD gpu 0 =
      self.energyJ.getD gpu 0 + (self.addTick draws dtS).1.getD gpu 0 := by
  unfold addTick
  split
  · exact (add_zero _).symm
  · exact Ledger.getD_postAll_items _ _ gpu

/-- A GPU without a draw gets nothing. -/
theorem addTick_of_absent {gpu : GpuIndex} (absent : draws.get? gpu = none) :
    (self.addTick draws dtS).1.getD gpu 0 = 0 := by
  unfold addTick
  split
  · rfl
  · rw [Dict.getD, Dict.get?_filterMapVals, absent]
    rfl

theorem addTick_nonneg (nonneg : ∀ gpu watts, draws.get? gpu = some (some watts) → 0 ≤ watts) :
    ∀ value ∈ (self.addTick draws dtS).1.values, 0 ≤ value := by
  intro value listed
  obtain ⟨⟨gpu, joules⟩, inside, rfl⟩ := List.mem_map.mp listed
  have found := Dict.get?_eq_some_iff.mpr inside
  unfold addTick at found
  split at found
  · cases found
  · next takesTime =>
    rw [Dict.get?_filterMapVals, Option.bind_eq_some_iff] at found
    obtain ⟨draw, reported, product⟩ := found
    obtain ⟨watts, rfl, rfl⟩ := Option.map_eq_some_iff.mp product
    exact mul_nonneg (nonneg gpu watts reported) (not_le.mp takesTime).le

/-- The stored energy stays non-negative. -/
theorem energyJ_addTick_nonneg (before : ∀ value ∈ self.energyJ.values, 0 ≤ value)
    (nonneg : ∀ gpu watts, draws.get? gpu = some (some watts) → 0 ≤ watts) :
    ∀ value ∈ (self.addTick draws dtS).2.energyJ.values, 0 ≤ value := by
  have added := @addTick_nonneg self draws dtS nonneg
  unfold addTick at added ⊢
  split
  · exact before
  · next takesTime =>
    rw [if_neg takesTime] at added
    exact Ledger.nonneg_postAll before fun entry inside => added entry.2 (List.mem_map_of_mem inside)

/-- A tenant's energy grows by what was added for its GPUs. -/
theorem tenantEnergyWh_addTick (self : EnergyAccountant) (draws : Dict GpuIndex (Option ℚ))
    (dtS : ℚ) (gpuIndices : List GpuIndex) :
    (self.addTick draws dtS).2.tenantEnergyWh gpuIndices = self.tenantEnergyWh gpuIndices +
      (gpuIndices.map fun gpu => (self.addTick draws dtS).1.getD gpu 0).sum / 3600 := by
  have termwise : (gpuIndices.map fun gpu => (self.addTick draws dtS).2.energyJ.getD gpu 0) =
      gpuIndices.map fun gpu =>
        self.energyJ.getD gpu 0 + (self.addTick draws dtS).1.getD gpu 0 :=
    List.map_congr_left fun gpu _ => self.getD_addTick draws dtS gpu
  unfold tenantEnergyWh
  rw [termwise, List.sum_map_add, add_div]

/-- Different GPUs use at most what all use. -/
theorem tenantEnergyWh_le (nonneg : ∀ value ∈ self.energyJ.values, 0 ≤ value)
    {gpuIndices : List GpuIndex} (nodup : gpuIndices.Nodup) :
    self.tenantEnergyWh gpuIndices ≤ self.totalWh :=
  div_le_div_of_nonneg_right (Ledger.sum_getD_le nonneg nodup) (by norm_num)

end EnergyAccountant

end Opendps.Telemetry
