/-
**The demo fleets.**

A preset numbers its GPUs from zero and starts each at its maximum. What load a GPU has is a matter of
its random profile, which only shows in the utilisations that are drawn; here they are inputs, the first
ones too. `mem_keys_oversub` says which GPUs a preset has.
-/

import Opendps.Sim.Backend

namespace Opendps.Sim

open Opendps.Lib Opendps.Pdn

/-- `nGpus` GPUs, numbered from zero, all capped at `capW`. -/
def cappedFleet (nGpus : ℕ) (capW : ℚ) (first : GpuIndex → Util) : SimBackend where
  gpus := .ofKeys ((List.range nGpus).map Nat.cast) fun idx =>
    { capW := capW, maxCapW := capW, currentUtil := first idx }

/-- The headline demo: some GPUs hot, the others idle. -/
def oversubScenario (nGpus : ℕ) (first : GpuIndex → Util) (capW : ℚ := 1000) : SimBackend :=
  cappedFleet nGpus capW first

/-- All GPUs at the same utilisation level. -/
def uniformLoad (nGpus : ℕ) (first : GpuIndex → Util) (capW : ℚ := 1000) : SimBackend :=
  cappedFleet nGpus capW first

theorem mem_keys_cappedFleet {nGpus : ℕ} {capW : ℚ} {first : GpuIndex → Util} {idx : GpuIndex} :
    idx ∈ (cappedFleet nGpus capW first).gpus.keys ↔ 0 ≤ idx ∧ idx < nGpus := by
  rw [cappedFleet, Dict.mem_keys_ofKeys, List.mem_map]
  constructor
  · rintro ⟨place, inside, rfl⟩
    exact ⟨Int.natCast_nonneg place, by exact_mod_cast List.mem_range.mp inside⟩
  · rintro ⟨nonneg, below⟩
    exact ⟨idx.toNat, List.mem_range.mpr ((Int.toNat_lt nonneg).mpr below), Int.toNat_of_nonneg nonneg⟩

theorem get?_cappedFleet {nGpus : ℕ} {capW : ℚ} {first : GpuIndex → Util} {idx : GpuIndex}
    {gpu : SimGpu} (found : (cappedFleet nGpus capW first).gpus.get? idx = some gpu) :
    gpu = { capW := capW, maxCapW := capW, currentUtil := first idx } := by
  have nodup : ((List.range nGpus).map Nat.cast : List GpuIndex).Nodup :=
    List.nodup_range.map Nat.cast_injective
  rw [cappedFleet, Dict.get?_ofKeys nodup] at found
  split at found
  · cases found
    rfl
  · cases found

end Opendps.Sim
