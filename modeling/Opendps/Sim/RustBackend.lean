/-
**The simulator in Rust, next to the one in Python.**

`RustSimBackend` keeps its GPUs in a list and draws their utilisation itself, from a linear congruential
generator; it raises `PyIndexError` where the Python simulator raises `KeyError`. The two write a cap in
the other order, the larger of zero first or the smaller of the maximum first, which is the same cap
where the maximum is not negative (`clamped_eq`).

Driven by the same writes, and by ticks that give the same utilisations, two fleets of the same GPUs
stay the same, and every GPU draws between zero and its cap (`simulators_agree`).
-/

import Opendps.Lib.Run
import Opendps.Sim.Backend
import Mathlib.Tactic.Linarith

namespace Opendps.Sim

open Opendps.Lib Opendps.Pdn

/-- `x.clamp(low, high)`. -/
def clamp (low high x : ℚ) : ℚ := if x < low then low else if high < x then high else x

theorem le_clamp {low high : ℚ} (ordered : low ≤ high) (x : ℚ) : low ≤ clamp low high x := by
  unfold clamp
  split
  · exact le_rfl
  · next above =>
    split
    · exact ordered
    · exact not_lt.mp above

theorem clamp_le {low high : ℚ} (ordered : low ≤ high) (x : ℚ) : clamp low high x ≤ high := by
  unfold clamp
  split
  · exact ordered
  · split
    · exact le_rfl
    · next below => exact not_lt.mp below

/-! ### The Rust simulator -/

/-- Parameters for a single simulated GPU. -/
structure RustSimGpu where
  capW : ℚ
  maxCapW : ℚ
  utilPct : ℚ
  targetUtil : ℚ
  utilNoise : ℚ
  rng : UInt64

/-- What a bad index raises. -/
structure PyIndexError where
  message : String

namespace RustSimGpu

def new (capW maxCapW targetUtil utilNoise : ℚ) (rngSeed : UInt64) : RustSimGpu where
  capW := capW
  maxCapW := maxCapW
  utilPct := targetUtil
  targetUtil := targetUtil
  utilNoise := utilNoise
  rng := rngSeed

/-- The next number of the generator, mapped to `[-1, 1]`. -/
def lcgNext (gpu : RustSimGpu) : ℚ × RustSimGpu :=
  let rng := gpu.rng * 6364136223846793005 + 1442695040888963407
  let bits : ℚ := (rng >>> 11).toNat
  let most : ℚ := ((18446744073709551615 : UInt64) >>> 11).toNat
  (bits / most * 2 - 1, { gpu with rng := rng })

/-- Resample the utilisation. -/
def tick (gpu : RustSimGpu) : RustSimGpu :=
  let (value, gpu) := gpu.lcgNext
  let noise := value * gpu.utilNoise
  { gpu with utilPct := clamp 0 100 (gpu.targetUtil + noise) }

def powerDrawW (gpu : RustSimGpu) : ℚ :=
  let raw := gpu.capW * (gpu.utilPct / 100) * (85 / 100) + 50
  min raw gpu.capW

end RustSimGpu

structure RustSimBackend where
  gpus : List RustSimGpu

namespace RustSimBackend

/-- A fleet of hot and idle GPUs, each with a seed of its own. -/
def new (nGpus : ℕ) (capW hotFraction : ℚ) (seed : UInt64) : RustSimBackend :=
  let nHot := (truncate (nGpus * clamp 0 1 hotFraction)).toNat
  ⟨(List.range nGpus).map fun i =>
    RustSimGpu.new capW capW (if i < nHot then 90 else 10) (if i < nHot then 5 else 3)
      (seed + UInt64.ofNat i * 2654435761)⟩

def gpu (self : RustSimBackend) (gpuIndex : ℕ) : Except PyIndexError RustSimGpu :=
  match self.gpus[gpuIndex]? with
  | some found => .ok found
  | none => .error ⟨"GPU index " ++ toString gpuIndex ++ " out of range"⟩

def setPowerCap (self : RustSimBackend) (gpuIndex : ℕ) (watts : ℚ) :
    Except PyIndexError RustSimBackend := do
  let gpu ← self.gpu gpuIndex
  pure ⟨self.gpus.set gpuIndex { gpu with capW := max (min watts gpu.maxCapW) 0 }⟩

def getPowerCap (self : RustSimBackend) (gpuIndex : ℕ) : Except PyIndexError ℚ := do
  let gpu ← self.gpu gpuIndex
  pure gpu.capW

def getPowerDraw (self : RustSimBackend) (gpuIndex : ℕ) : Except PyIndexError ℚ := do
  let gpu ← self.gpu gpuIndex
  pure gpu.powerDrawW

def getUtilPct (self : RustSimBackend) (gpuIndex : ℕ) : Except PyIndexError ℚ := do
  let gpu ← self.gpu gpuIndex
  pure gpu.utilPct

def gpuCount (self : RustSimBackend) : ℕ := self.gpus.length

/-- The hardware maximum of a GPU. -/
def getMaxCapW (self : RustSimBackend) (gpuIndex : ℕ) : Except PyIndexError ℚ := do
  let gpu ← self.gpu gpuIndex
  pure gpu.maxCapW

def tick (self : RustSimBackend) : RustSimBackend := ⟨self.gpus.map RustSimGpu.tick⟩

end RustSimBackend

/-! ### The same calls to both -/

/-- A call of the controller; a tick comes with the utilisations it draws. -/
inductive SimCall where
  | setPowerCap (gpuIndex : ℕ) (watts : ℚ)
  | tick (samples : GpuIndex → Util)

/-- One call of the Python simulator. A call that raises changes nothing. -/
def SimBackend.call (self : SimBackend) : SimCall → SimBackend
  | .setPowerCap gpuIndex watts =>
    match self.setPowerCap gpuIndex watts with
    | .ok written => written
    | .error _ => self
  | .tick samples => self.tick samples

/-- One call of the Rust simulator, which draws the utilisations of a tick itself. -/
def RustSimBackend.call (self : RustSimBackend) : SimCall → RustSimBackend
  | .setPowerCap gpuIndex watts =>
    match self.setPowerCap gpuIndex watts with
    | .ok written => written
    | .error _ => self
  | .tick _ => self.tick

/-- A tick draws what the Rust simulator draws. -/
def SameLoad (rust : RustSimBackend) : SimCall → Prop
  | .setPowerCap _ _ => True
  | .tick samples => ∀ (i : ℕ) (gpu : RustSimGpu), rust.tick.gpus[i]? = some gpu →
    (samples i).pct = gpu.utilPct

/-- The same GPU in both simulators, with a cap between zero and its maximum. -/
structure SameGpu (python : SimGpu) (rust : RustSimGpu) : Prop where
  capW : python.capW = rust.capW
  maxCapW : python.maxCapW = rust.maxCapW
  utilPct : python.currentUtil.pct = rust.utilPct
  nonneg : 0 ≤ rust.capW
  withinMax : rust.capW ≤ rust.maxCapW

/-- The same GPUs in both simulators. -/
def SameFleet (rust : RustSimBackend) (python : SimBackend) : Prop :=
  ∀ i : ℕ, Option.Rel SameGpu (python.gpus.get? i) rust.gpus[i]?

/-! ### What one call does to one GPU -/

/-- With a maximum that is not negative the two orders of clamping give the same cap. -/
theorem clamped_eq {maxCapW : ℚ} (nonneg : 0 ≤ maxCapW) (watts : ℚ) :
    min (max 0 watts) maxCapW = max (min watts maxCapW) 0 := by
  rw [max_min_distrib_right, max_eq_left nonneg, max_comm watts 0]

section OneGpu

variable {python : SimGpu} {rust : RustSimGpu}

theorem SameGpu.max_nonneg (same : SameGpu python rust) : 0 ≤ rust.maxCapW :=
  same.nonneg.trans same.withinMax

theorem SameGpu.setCap (same : SameGpu python rust) (watts : ℚ) :
    SameGpu (python.setCap watts) { rust with capW := max (min watts rust.maxCapW) 0 } where
  capW := by
    show min (max 0 watts) python.maxCapW = max (min watts rust.maxCapW) 0
    rw [same.maxCapW, clamped_eq same.max_nonneg]
  maxCapW := same.maxCapW
  utilPct := same.utilPct
  nonneg := le_max_right _ _
  withinMax := max_le (min_le_right _ _) same.max_nonneg

theorem SameGpu.tick (same : SameGpu python rust) {util : Util} (load : util.pct = rust.tick.utilPct) :
    SameGpu { python with currentUtil := util } rust.tick where
  capW := same.capW
  maxCapW := same.maxCapW
  utilPct := load
  nonneg := same.nonneg
  withinMax := same.withinMax

theorem SameGpu.powerDrawW (same : SameGpu python rust) : python.powerDrawW = rust.powerDrawW := by
  rw [SimGpu.powerDrawW, RustSimGpu.powerDrawW, same.capW, same.utilPct]

/-- A GPU draws between zero and its cap. -/
theorem SameGpu.powerDrawW_nonneg (same : SameGpu python rust) : 0 ≤ rust.powerDrawW := by
  have load : 0 ≤ rust.utilPct := same.utilPct ▸ python.currentUtil.nonneg
  have scaled : 0 ≤ rust.capW * (rust.utilPct / 100) * (85 / 100) :=
    mul_nonneg (mul_nonneg same.nonneg (div_nonneg load (by norm_num))) (by norm_num)
  exact le_min (by linarith) same.nonneg

theorem powerDrawW_le_capW (rust : RustSimGpu) : rust.powerDrawW ≤ rust.capW := min_le_right _ _

end OneGpu

/-! ### What one call does to the fleets -/

theorem rel_map {α β γ δ : Type} {first : α → β → Prop} {second : γ → δ → Prop} {left : Option α}
    {right : Option β} (both : Option.Rel first left right) {f : α → γ} {g : β → δ}
    (keeps : ∀ x y, right = some y → first x y → second (f x) (g y)) :
    Option.Rel second (left.map f) (right.map g) := by
  cases both with
  | none => exact .none
  | some holds => exact .some (keeps _ _ rfl holds)

theorem sameFleet_setPowerCap {rust : RustSimBackend} {python : SimBackend}
    (same : SameFleet rust python) (gpuIndex : ℕ) (watts : ℚ) :
    SameFleet (rust.call (.setPowerCap gpuIndex watts)) (python.call (.setPowerCap gpuIndex watts)) := by
  have here := same gpuIndex
  simp only [RustSimBackend.call, SimBackend.call, RustSimBackend.setPowerCap, SimBackend.setPowerCap,
    RustSimBackend.gpu, SimBackend.gpu]
  cases stored : python.gpus.get? gpuIndex with
  | none =>
    cases found : rust.gpus[gpuIndex]? with
    | none => exact same
    | some gpu =>
      rw [stored, found] at here
      cases here
  | some sim =>
    cases found : rust.gpus[gpuIndex]? with
    | none =>
      rw [stored, found] at here
      cases here
    | some gpu =>
      rw [stored, found] at here
      cases here with
      | some own =>
        intro i
        show Option.Rel SameGpu ((python.gpus.set gpuIndex (sim.setCap watts)).get? i)
          (rust.gpus.set gpuIndex { gpu with capW := max (min watts gpu.maxCapW) 0 })[i]?
        rw [Dict.get?_set]
        by_cases target : i = gpuIndex
        · subst target
          rw [if_pos rfl, List.getElem?_set_self (List.getElem?_eq_some_iff.mp found).1]
          exact .some (own.setCap watts)
        · rw [if_neg fun equal => target (Int.natCast_inj.mp equal),
            List.getElem?_set_ne (Ne.symm target)]
          exact same i

theorem sameFleet_tick {rust : RustSimBackend} {python : SimBackend} (same : SameFleet rust python)
    {samples : GpuIndex → Util} (load : SameLoad rust (.tick samples)) :
    SameFleet (rust.call (.tick samples)) (python.call (.tick samples)) := by
  intro i
  show Option.Rel SameGpu ((python.tick samples).gpus.get? i) rust.tick.gpus[i]?
  rw [SimBackend.tick, Dict.get?_mapVals, RustSimBackend.tick, List.getElem?_map]
  refine rel_map (same i) fun sim gpu found own => own.tick (load i gpu.tick ?_)
  rw [RustSimBackend.tick, List.getElem?_map, found]
  rfl

/-! ### Whole runs -/

theorem gpuCount_call (rust : RustSimBackend) (call : SimCall) :
    (rust.call call).gpuCount = rust.gpuCount := by
  cases call with
  | tick samples => exact List.length_map _
  | setPowerCap gpuIndex watts =>
    simp only [RustSimBackend.call, RustSimBackend.setPowerCap, RustSimBackend.gpu]
    cases rust.gpus[gpuIndex]? with
    | none => rfl
    | some gpu => exact List.length_set

theorem gpuCount_run (rust : RustSimBackend) (calls : List SimCall) :
    (run RustSimBackend.call rust calls).gpuCount = rust.gpuCount :=
  run_invariant (fun _ state => state.gpuCount = rust.gpuCount) rfl
    (fun _ call state before => (gpuCount_call state call).trans before) calls

theorem sameFleet_run {rust : RustSimBackend} {python : SimBackend} (same : SameFleet rust python)
    {calls : List SimCall}
    (sameLoad : Along RustSimBackend.call rust (fun _ rust call => SameLoad rust call) calls) :
    SameFleet (run RustSimBackend.call rust calls) (run SimBackend.call python calls) := by
  refine run_related_of_along SameFleet same (fun _ rust python call both load => ?_) sameLoad
  cases call with
  | setPowerCap gpuIndex watts => exact sameFleet_setPowerCap both gpuIndex watts
  | tick samples => exact sameFleet_tick both load

/-- The utilisations that the next tick of a Rust fleet draws. -/
def RustSimBackend.samples (self : RustSimBackend) (idx : GpuIndex) : Util where
  pct := clamp 0 100 (((self.gpus[idx.toNat]?).map fun gpu =>
    gpu.targetUtil + gpu.lcgNext.1 * gpu.utilNoise).getD 0)
  nonneg := le_clamp (by norm_num) _
  le_hundred := clamp_le (by norm_num) _

/-- Whatever the Rust simulator draws, the Python simulator may draw it too. -/
theorem RustSimBackend.sameLoad_samples (self : RustSimBackend) : SameLoad self (.tick self.samples) := by
  intro i gpu found
  rw [RustSimBackend.tick, List.getElem?_map, Option.map_eq_some_iff] at found
  obtain ⟨before, listed, rfl⟩ := found
  rw [RustSimBackend.samples]
  simp only [Int.toNat_natCast, listed]
  rfl

/-- **The two simulators are the same machine.** Started with the same GPUs and driven by the same
writes and by ticks that give the same utilisations, both report for every GPU the same cap and the same
draw, and the draw is between zero and the cap, which is at most the maximum. -/
theorem simulators_agree {rust : RustSimBackend} {python : SimBackend} (same : SameFleet rust python)
    (calls : List SimCall)
    (sameLoad : Along RustSimBackend.call rust (fun _ rust call => SameLoad rust call) calls) :
    ∀ i < rust.gpuCount, ∃ capW drawW maxCapW : ℚ,
      (run SimBackend.call python calls).getPowerCap i = .ok capW ∧
      (run RustSimBackend.call rust calls).getPowerCap i = .ok capW ∧
      (run SimBackend.call python calls).getPowerDraw i = .ok drawW ∧
      (run RustSimBackend.call rust calls).getPowerDraw i = .ok drawW ∧
      (run SimBackend.call python calls).getMaxCapW i = .ok maxCapW ∧
      (run RustSimBackend.call rust calls).getMaxCapW i = .ok maxCapW ∧
      0 ≤ drawW ∧ drawW ≤ capW ∧ capW ≤ maxCapW := by
  intro i inFleet
  have both := sameFleet_run same sameLoad i
  rw [← gpuCount_run rust calls] at inFleet
  have found := List.getElem?_eq_getElem inFleet
  generalize (run RustSimBackend.call rust calls).gpus[i] = gpu at found
  rw [found] at both
  cases stored : (run SimBackend.call python calls).gpus.get? i with
  | none =>
    rw [stored] at both
    cases both
  | some sim =>
    rw [stored] at both
    cases both with
    | some own =>
      have present : (run SimBackend.call python calls).gpu i = .ok sim := by
        rw [SimBackend.gpu, stored]
      have known : (run RustSimBackend.call rust calls).gpu i = .ok gpu := by
        rw [RustSimBackend.gpu, found]
      refine ⟨gpu.capW, gpu.powerDrawW, gpu.maxCapW, ?_, bind_of_ok known rfl, ?_,
        bind_of_ok known rfl, ?_, bind_of_ok known rfl, own.powerDrawW_nonneg, powerDrawW_le_capW gpu,
        own.withinMax⟩
      · exact bind_of_ok present (congrArg Except.ok own.capW)
      · exact bind_of_ok present (congrArg Except.ok own.powerDrawW)
      · exact bind_of_ok present (congrArg Except.ok own.maxCapW)

/-- A Rust fleet of one hot GPU, and the same GPU in Python. -/
def oneRustGpu : RustSimBackend := .new 1 1000 1 42

def onePythonGpu : SimBackend := ⟨Dict.empty.set 0 ⟨1000, 1000, ⟨90, by norm_num, by norm_num⟩⟩⟩

theorem simulators_agree_oneGpu : ∃ capW drawW maxCapW : ℚ,
    (run SimBackend.call onePythonGpu [.tick oneRustGpu.samples, .setPowerCap 0 300]).getPowerCap 0 =
      .ok capW ∧
    (run RustSimBackend.call oneRustGpu [.tick oneRustGpu.samples, .setPowerCap 0 300]).getPowerCap 0 =
      .ok capW ∧
    (run SimBackend.call onePythonGpu [.tick oneRustGpu.samples, .setPowerCap 0 300]).getPowerDraw 0 =
      .ok drawW ∧
    (run RustSimBackend.call oneRustGpu [.tick oneRustGpu.samples, .setPowerCap 0 300]).getPowerDraw 0 =
      .ok drawW ∧
    (run SimBackend.call onePythonGpu [.tick oneRustGpu.samples, .setPowerCap 0 300]).getMaxCapW 0 =
      .ok maxCapW ∧
    (run RustSimBackend.call oneRustGpu [.tick oneRustGpu.samples, .setPowerCap 0 300]).getMaxCapW 0 =
      .ok maxCapW ∧
    0 ≤ drawW ∧ drawW ≤ capW ∧ capW ≤ maxCapW := by
  refine simulators_agree ?_ [.tick oneRustGpu.samples, .setPowerCap 0 300] ?_ 0 (by decide)
  · intro i
    cases i with
    | zero => exact .some ⟨rfl, rfl, by decide +kernel, by decide +kernel, le_rfl⟩
    | succ i => exact .none
  · exact along_cons.mpr ⟨oneRustGpu.sameLoad_samples, along_cons.mpr ⟨trivial, along_nil⟩⟩

end Opendps.Sim
