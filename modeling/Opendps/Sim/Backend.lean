/-
**The simulated fleet.**

A simulated GPU draws what its load makes of its cap, and never more than the cap. The load of a tick
is a utilisation in percent, drawn afresh by `SimBackend.tick`; here it is an input, any number from 0
to 100.

`pushCaps_ok` is what a push of caps leaves in force: on every GPU the cap pushed, not below zero and
not above the hardware maximum.
-/

import Opendps.Lib.Outcome
import Opendps.Lib.Shares
import Opendps.Pdn.Model

namespace Opendps.Sim

open Opendps.Lib Opendps.Pdn

/-- A utilisation sample. -/
structure Util where
  pct : ℚ
  nonneg : 0 ≤ pct
  le_hundred : pct ≤ 100

theorem hundred_nonneg : (0 : ℚ) ≤ 100 := by norm_num

theorem hundred_le : (100 : ℚ) ≤ 100 := le_rfl

/-- State of a single simulated GPU. -/
structure SimGpu where
  capW : ℚ
  maxCapW : ℚ
  currentUtil : Util

namespace SimGpu

/-- The draw follows cap and load, with an idle part, and is clamped to the cap. -/
def powerDrawW (gpu : SimGpu) : ℚ :=
  min (gpu.capW * (gpu.currentUtil.pct / 100) * (85 / 100) + 50) gpu.capW

theorem powerDrawW_le (gpu : SimGpu) : gpu.powerDrawW ≤ gpu.capW := min_le_right _ _

/-- Cap a GPU: not below zero, and not above the hardware maximum. -/
def setCap (gpu : SimGpu) (watts : ℚ) : SimGpu :=
  { gpu with capW := min (max 0 watts) gpu.maxCapW }

end SimGpu

structure SimBackend where
  gpus : Dict GpuIndex SimGpu

namespace SimBackend

def gpu (self : SimBackend) (idx : GpuIndex) : Except PyError SimGpu :=
  match self.gpus.get? idx with
  | some found => .ok found
  | none => .error (.keyError (toString idx))

def setPowerCap (self : SimBackend) (idx : GpuIndex) (watts : ℚ) : Except PyError SimBackend := do
  let gpu ← self.gpu idx
  pure ⟨self.gpus.set idx (gpu.setCap watts)⟩

def getPowerCap (self : SimBackend) (idx : GpuIndex) : Except PyError ℚ := do
  let gpu ← self.gpu idx
  pure gpu.capW

def getPowerDraw (self : SimBackend) (idx : GpuIndex) : Except PyError ℚ := do
  let gpu ← self.gpu idx
  pure gpu.powerDrawW

def getUtilPct (self : SimBackend) (idx : GpuIndex) : Except PyError ℚ := do
  let gpu ← self.gpu idx
  pure gpu.currentUtil.pct

/-- The hardware maximum of a GPU, which never changes. -/
def getMaxCapW (self : SimBackend) (idx : GpuIndex) : Except PyError ℚ := do
  let gpu ← self.gpu idx
  pure gpu.maxCapW

def gpuCount (self : SimBackend) : ℕ := self.gpus.size

/-- Advance the fleet by one tick: every GPU draws a new utilisation. -/
def tick (self : SimBackend) (samples : GpuIndex → Util) : SimBackend :=
  ⟨self.gpus.mapVals fun idx gpu => { gpu with currentUtil := samples idx }⟩

/-- Push caps one after another. -/
def pushCaps (self : SimBackend) (caps : List (GpuIndex × ℚ)) : Except PyError SimBackend :=
  caps.foldlM (fun backend item => backend.setPowerCap item.1 item.2) self

variable {self : SimBackend} {idx : GpuIndex}

/-- A push to GPUs of the fleet goes through and sets the caps pushed. -/
theorem pushCaps_ok {caps : List (GpuIndex × ℚ)} (nodup : (caps.map Prod.fst).Nodup)
    (present : ∀ item ∈ caps, item.1 ∈ self.gpus.keys) :
    ∃ pushed, self.pushCaps caps = .ok pushed ∧
      (∀ idx watts, (idx, watts) ∈ caps →
        pushed.gpus.get? idx = (self.gpus.get? idx).map fun gpu => gpu.setCap watts) ∧
      ∀ idx, idx ∉ caps.map Prod.fst → pushed.gpus.get? idx = self.gpus.get? idx := by
  induction caps generalizing self with
  | nil => exact ⟨self, rfl, fun _ _ member => (List.not_mem_nil member).elim, fun _ _ => rfl⟩
  | cons item rest ih =>
    obtain ⟨idx, watts⟩ := item
    rw [List.map_cons, List.nodup_cons] at nodup
    obtain ⟨gpu, found⟩ := Dict.mem_keys_iff.mp (present _ List.mem_cons_self)
    have once : self.setPowerCap idx watts = .ok ⟨self.gpus.set idx (gpu.setCap watts)⟩ := by
      rw [setPowerCap, SimBackend.gpu, found]
      rfl
    have still : ∀ other ∈ rest, other.1 ∈ (self.gpus.set idx (gpu.setCap watts)).keys := by
      intro other member
      obtain ⟨value, stored⟩ := Dict.mem_keys_iff.mp (present other (List.mem_cons_of_mem _ member))
      refine Dict.mem_keys_iff.mpr ?_
      rw [Dict.get?_set]
      split
      · exact ⟨_, rfl⟩
      · exact ⟨value, stored⟩
    obtain ⟨pushed, goes, sets, leaves⟩ := @ih ⟨self.gpus.set idx (gpu.setCap watts)⟩ nodup.2 still
    refine ⟨pushed, ?_, fun other target member => ?_, fun other absent => ?_⟩
    · rw [pushCaps, List.foldlM_cons, once]
      exact goes
    · rcases List.mem_cons.mp member with same | inside
      · cases same
        rw [leaves idx nodup.1, Dict.get?_set_self, found]
        rfl
      · have different : other ≠ idx := fun same =>
          nodup.1 (same ▸ List.mem_map.mpr ⟨_, inside, rfl⟩)
        rw [sets other target inside, Dict.get?_set_of_ne _ _ different]
    · rw [List.map_cons, List.mem_cons, not_or] at absent
      rw [leaves other absent.2, Dict.get?_set_of_ne _ _ absent.1]

/-! ### The draw of a fleet -/

/-- The draw of a GPU, none for one that is not there. -/
def draw (self : SimBackend) (idx : GpuIndex) : ℚ :=
  ((self.gpus.get? idx).map SimGpu.powerDrawW).getD 0

/-- The cap in force on a GPU. -/
def cap (self : SimBackend) (idx : GpuIndex) : ℚ := ((self.gpus.get? idx).map SimGpu.capW).getD 0

/-- The draw of a list of GPUs. -/
def totalDraw (self : SimBackend) (gpus : List GpuIndex) : ℚ := (gpus.map self.draw).sum

theorem draw_le_cap (self : SimBackend) (idx : GpuIndex) : self.draw idx ≤ self.cap idx := by
  unfold draw cap
  cases self.gpus.get? idx with
  | none => exact le_rfl
  | some gpu => exact gpu.powerDrawW_le

/-- A new load leaves the caps in force. -/
theorem cap_tick (self : SimBackend) (samples : GpuIndex → Util) (idx : GpuIndex) :
    (self.tick samples).cap idx = self.cap idx := by
  unfold cap
  rw [tick, Dict.get?_mapVals]
  cases self.gpus.get? idx <;> rfl

/-- **Whatever the load, a fleet draws at most its caps.** -/
theorem totalDraw_le (self : SimBackend) (samples : GpuIndex → Util) (gpus : List GpuIndex) :
    self.totalDraw gpus ≤ (gpus.map self.cap).sum ∧
      (self.tick samples).totalDraw gpus ≤ (gpus.map self.cap).sum := by
  refine ⟨List.sum_le_sum fun idx _ => self.draw_le_cap idx, List.sum_le_sum fun idx _ => ?_⟩
  exact ((self.tick samples).draw_le_cap idx).trans_eq (self.cap_tick samples idx)

/-- The cap a push leaves in force is at most the one pushed, where that is not below zero. -/
theorem setCap_capW_le (gpu : SimGpu) (watts : ℚ) : (gpu.setCap watts).capW ≤ max 0 watts :=
  min_le_left _ _

/-- A push of the hardware maximum puts it in force. -/
theorem setCap_maxCapW (gpu : SimGpu) : (gpu.setCap gpu.maxCapW).capW = gpu.maxCapW :=
  min_eq_right (le_max_right _ _)

end SimBackend

end Opendps.Sim
