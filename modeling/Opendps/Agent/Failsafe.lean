/-
**The emergency failsafe, next to the other writers of the caps.**

The same loop exists twice: `FailsafeLoop._run` in Python, which checks its thresholds when it is
built and survives a failing read or write, and `spawn_failsafe` in Rust, which does neither. Both
read a GPU's draw and, when it is over the threshold, write the emergency cap; neither looks at the
cap in force. `Failsafe` is that loop with the test on a reading as a parameter, stepped one read or
write at a time, so that writes of the brain (or of the IPC endpoint) fall between any two of its
steps.

Both headers call the loop cap-lower-only. `failsafe_lowers_only_iff` says when a run keeps that:
exactly when every write of the failsafe goes to a GPU that the brain last put at the emergency cap
or above.
-/

import Opendps.Lib.Repr
import Opendps.Lib.Run
import Mathlib.Algebra.Order.Ring.Rat
import Mathlib.Tactic.NormNum

namespace Opendps.Agent

open Opendps.Lib

/-! ### The two loops -/

/-- The Python loop; the check of the constructor is a field. -/
structure FailsafeLoop where
  threshold : ℚ
  emergencyCap : ℚ
  ordered : emergencyCap < threshold

/-- The constructor. -/
def FailsafeLoop.init (emergencyThresholdW emergencyCapW : ℚ) : Except PyError FailsafeLoop :=
  if ordered : emergencyCapW < emergencyThresholdW then
    .ok ⟨emergencyThresholdW, emergencyCapW, ordered⟩
  else
    .error (.valueError ("emergency_cap_w (" ++ (PyFloat.finite emergencyCapW).repr ++
      ") must be less than emergency_threshold_w (" ++ (PyFloat.finite emergencyThresholdW).repr ++
      ") to prevent oscillation"))

/-- Whether the Python loop trips on a reading. A reading that raises is logged. -/
def FailsafeLoop.trips (loop : FailsafeLoop) : Except PyError ℚ → Bool
  | .error _ => false
  | .ok draw => loop.threshold < draw

/-- The configuration of the Rust loop. -/
structure FailsafeConfig where
  emergencyThresholdW : ℚ
  emergencyCapW : ℚ

/-- Whether the Rust loop trips on a reading. Readings do not fail. -/
def FailsafeConfig.trips (config : FailsafeConfig) : Except Empty ℚ → Bool
  | .ok draw => config.emergencyThresholdW < draw

/-- Where caps are written to: the cap a GPU has after a write of some watts. A sink that has room
for an emergency cap below some other cap stores it whole. -/
structure CapSink where
  stored : ℕ → ℚ → ℚ
  kept : ∀ gpu emergency watts, emergency ≤ stored gpu watts → emergency ≤ stored gpu emergency

/-- The simulator keeps a cap between zero and the GPU's maximum. -/
def simBackend (maxCapW : ℕ → ℚ) : CapSink where
  stored gpu watts := min (max 0 watts) (maxCapW gpu)
  kept _ _ _ room := le_min (le_max_right _ _) (room.trans (min_le_right _ _))

/-- The Rust sink stores what it is given. -/
def recordingCapSink : CapSink where
  stored _ watts := watts
  kept _ _ _ _ := le_rfl

/-- A failsafe loop on a fleet: readings of type `Except ε ℚ`, the test on a reading, the cap it
writes, and where to. -/
structure Failsafe (ε : Type) where
  gpuCount : ℕ
  trips : Except ε ℚ → Bool
  emergencyCap : ℚ
  sink : CapSink

def FailsafeLoop.run (loop : FailsafeLoop) (gpuCount : ℕ) (sink : CapSink) : Failsafe PyError :=
  ⟨gpuCount, loop.trips, loop.emergencyCap, sink⟩

def spawnFailsafe (config : FailsafeConfig) (gpuCount : ℕ) (sink : CapSink) : Failsafe Empty :=
  ⟨gpuCount, config.trips, config.emergencyCapW, sink⟩

/-! ### The loop and its surroundings -/

/-- What the loop does next: poll a GPU (past the last one it sleeps), write to a GPU, or nothing
any more. -/
inductive Phase where
  | poll (gpu : ℕ)
  | trip (gpu : ℕ)
  | stopped
  deriving DecidableEq

/-- How a write of the loop ends: the sink takes it, refuses it without raising, or raises. -/
inductive WriteOutcome (ε : Type) where
  | taken
  | refused
  | raised (exc : ε)

/-- One step of the loop or of its surroundings; `setCap` is the brain or the `set_cap` command,
`wake` the end of the sleep between two scans. -/
inductive FailsafeEvent (ε : Type) where
  | setCap (gpu : ℕ) (watts : ℚ)
  | reading (draw : Except ε ℚ)
  | write (outcome : WriteOutcome ε)
  | wake
  | stop

structure FailsafeState where
  caps : ℕ → ℚ
  phase : Phase := .poll 0
  stopping : Bool := false
  tripCount : ℕ := 0

namespace Failsafe

variable {ε : Type} (failsafe : Failsafe ε)

/-- The caps after a write. -/
def setCap (caps : ℕ → ℚ) (gpu : ℕ) (watts : ℚ) : ℕ → ℚ :=
  Function.update caps gpu (failsafe.sink.stored gpu watts)

/-- One step. An event the loop is not ready for changes nothing. -/
def step (state : FailsafeState) : FailsafeEvent ε → FailsafeState
  | .setCap gpu watts => { state with caps := failsafe.setCap state.caps gpu watts }
  | .reading draw =>
    match state.phase with
    | .poll gpu =>
      if gpu < failsafe.gpuCount then
        { state with phase := if failsafe.trips draw then .trip gpu else .poll (gpu + 1) }
      else state
    | _ => state
  | .write outcome =>
    match state.phase with
    | .trip gpu =>
      match outcome with
      | .taken =>
        { state with
          caps := failsafe.setCap state.caps gpu failsafe.emergencyCap
          phase := .poll (gpu + 1)
          tripCount := state.tripCount + 1 }
      | .refused => { state with phase := .poll (gpu + 1), tripCount := state.tripCount + 1 }
      | .raised _ => { state with phase := .poll (gpu + 1) }
    | _ => state
  | .wake =>
    match state.phase with
    | .poll gpu =>
      if gpu < failsafe.gpuCount then state
      else { state with phase := if state.stopping then .stopped else .poll 0 }
    | _ => state
  | .stop => { state with stopping := true }

/-- The GPU the failsafe writes to in a step. -/
def issued (state : FailsafeState) (event : FailsafeEvent ε) : Option ℕ :=
  match event, state.phase with
  | .write _, .trip gpu => some gpu
  | _, _ => none

/-- The loop before its first scan, on GPUs whose caps were set to some watts. -/
def start (watts : ℕ → ℚ) : FailsafeState where
  caps gpu := failsafe.sink.stored gpu (watts gpu)

/-- The cap of a GPU as it was at the start, or as the brain wrote it last. -/
def brainCap (watts : ℕ → ℚ) (events : List (FailsafeEvent ε)) (gpu : ℕ) : ℚ :=
  failsafe.sink.stored gpu (events.foldl (fun last event => match event with
    | .setCap other watts => if other = gpu then watts else last
    | _ => last) (watts gpu))

/-- Every write the failsafe issues is at most the cap in force at that moment. -/
def LowersOnly (watts : ℕ → ℚ) : List (FailsafeEvent ε) → Prop :=
  Along failsafe.step (failsafe.start watts) fun _ state event =>
    ∀ gpu, issued state event = some gpu → failsafe.emergencyCap ≤ state.caps gpu

/-- Every write the failsafe issues goes to a GPU that the brain last put at the emergency cap or
above. -/
def BrainAbove (watts : ℕ → ℚ) : List (FailsafeEvent ε) → Prop :=
  Along failsafe.step (failsafe.start watts) fun past state event =>
    ∀ gpu, issued state event = some gpu → failsafe.emergencyCap ≤ failsafe.brainCap watts past gpu

/-! ### What one step does to a cap -/

variable {failsafe}

/-- A step overwrites a GPU's cap on behalf of the brain, or on behalf of the failsafe, or leaves
it; only in the first case the brain's last word changes. -/
theorem step_cases (watts : ℕ → ℚ) (past : List (FailsafeEvent ε)) (state : FailsafeState)
    (event : FailsafeEvent ε) (gpu : ℕ) :
    (failsafe.step state event).caps gpu = failsafe.brainCap watts (past ++ [event]) gpu ∨
      failsafe.brainCap watts (past ++ [event]) gpu = failsafe.brainCap watts past gpu ∧
        ((issued state event = some gpu ∧ (failsafe.step state event).caps gpu =
            failsafe.sink.stored gpu failsafe.emergencyCap) ∨
          (failsafe.step state event).caps gpu = state.caps gpu) := by
  simp only [brainCap, List.foldl_append, List.foldl_cons, List.foldl_nil]
  cases event with
  | setCap other value =>
    by_cases same : other = gpu
    · subst same
      exact .inl (by simp [step, setCap])
    · refine .inr ⟨congrArg _ (if_neg same), .inr ?_⟩
      exact Function.update_of_ne (Ne.symm same) _ _
  | reading draw =>
    refine .inr ⟨rfl, .inr ?_⟩
    cases phase : state.phase <;> simp only [step, phase]
    split <;> rfl
  | write outcome =>
    refine .inr ⟨rfl, ?_⟩
    cases phase : state.phase with
    | poll other => exact .inr (by simp only [step, phase])
    | stopped => exact .inr (by simp only [step, phase])
    | trip other =>
      cases outcome with
      | refused => exact .inr (by simp only [step, phase])
      | raised exc => exact .inr (by simp only [step, phase])
      | taken =>
        by_cases same : other = gpu
        · subst same
          exact .inl ⟨by simp only [issued, phase], by simp [step, phase, setCap]⟩
        · refine .inr ?_
          simp only [step, phase]
          exact Function.update_of_ne (Ne.symm same) _ _
  | wake =>
    refine .inr ⟨rfl, .inr ?_⟩
    cases phase : state.phase <;> simp only [step, phase]
    split <;> rfl
  | stop => exact .inr ⟨rfl, .inr rfl⟩

/-! ### Whole runs -/

/-- While no write of the failsafe raises a cap, a cap it has overwritten was last put at the
emergency cap or above by the brain. -/
theorem brainCap_of_lowersOnly {watts : ℕ → ℚ} {events : List (FailsafeEvent ε)}
    (lowers : failsafe.LowersOnly watts events) (gpu : ℕ) :
    (Lib.run failsafe.step (failsafe.start watts) events).caps gpu =
        failsafe.brainCap watts events gpu ∨
      failsafe.emergencyCap ≤ failsafe.brainCap watts events gpu := by
  refine run_invariant_of_along (fun past state =>
    state.caps gpu = failsafe.brainCap watts past gpu ∨
      failsafe.emergencyCap ≤ failsafe.brainCap watts past gpu) (.inl rfl) ?_ lowers
  intro past event state before now
  rcases step_cases watts past state event gpu with brain | ⟨same, ⟨issues, _⟩ | untouched⟩
  · exact .inl brain
  · rw [same]
    rcases before with inForce | above
    · exact .inr (inForce ▸ now gpu issues)
    · exact .inr above
  · rw [same, untouched]
    exact before

/-- While every write of the failsafe follows a brain cap above it, a cap that is not the brain's is
at the emergency cap or above. -/
theorem caps_of_brainAbove {watts : ℕ → ℚ} {events : List (FailsafeEvent ε)}
    (above : failsafe.BrainAbove watts events) (gpu : ℕ) :
    (Lib.run failsafe.step (failsafe.start watts) events).caps gpu =
        failsafe.brainCap watts events gpu ∨
      failsafe.emergencyCap ≤ (Lib.run failsafe.step (failsafe.start watts) events).caps gpu := by
  refine run_invariant_of_along (fun past state =>
    state.caps gpu = failsafe.brainCap watts past gpu ∨
      failsafe.emergencyCap ≤ state.caps gpu) (.inl rfl) ?_ above
  intro past event state before now
  rcases step_cases watts past state event gpu with brain | ⟨same, ⟨issues, wrote⟩ | untouched⟩
  · exact .inl brain
  · rw [wrote]
    exact .inr (failsafe.sink.kept gpu _ _ (now gpu issues))
  · rw [same, untouched]
    exact before

/-- **One loop.** A run of the failsafe only lowers caps exactly when every write follows a brain
cap at or above the emergency cap. -/
theorem lowersOnly_iff (failsafe : Failsafe ε) (watts : ℕ → ℚ) (events : List (FailsafeEvent ε)) :
    failsafe.LowersOnly watts events ↔ failsafe.BrainAbove watts events := by
  constructor
  · intro lowers past event rest split gpu issues
    have before : failsafe.LowersOnly watts past := (split ▸ lowers).past
    rcases brainCap_of_lowersOnly before gpu with inForce | above
    · exact inForce ▸ lowers past event rest split gpu issues
    · exact above
  · intro above past event rest split gpu issues
    have before : failsafe.BrainAbove watts past := (split ▸ above).past
    rcases caps_of_brainAbove before gpu with inForce | room
    · exact inForce ▸ above past event rest split gpu issues
    · exact room

end Failsafe

/-- **Cap-lower-only, exactly, for both loops.** For all thresholds the constructors admit, all
fleets, sinks, starting caps and interleavings of readings, writes and caps set by the brain. -/
theorem failsafe_lowers_only_iff (gpuCount : ℕ) (sink : CapSink) (watts : ℕ → ℚ) :
    (∀ (loop : FailsafeLoop) (events : List (FailsafeEvent PyError)),
      (loop.run gpuCount sink).LowersOnly watts events ↔
        (loop.run gpuCount sink).BrainAbove watts events) ∧
    ∀ (config : FailsafeConfig) (events : List (FailsafeEvent Empty)),
      (spawnFailsafe config gpuCount sink).LowersOnly watts events ↔
        (spawnFailsafe config gpuCount sink).BrainAbove watts events :=
  ⟨fun _ => Failsafe.lowersOnly_iff _ watts, fun _ => Failsafe.lowersOnly_iff _ watts⟩

/-! ### A brain far below the emergency cap

The brain lowers GPU 0 to 300 W while its draw still lags at 1100 W. -/

/-- Threshold 1000 W, emergency cap 800 W: both loops raise the cap from 300 W to 800 W. -/
theorem failsafe_raises_cap :
    (∃ loop gpuCount sink watts events, FailsafeLoop.init 1000 800 = .ok loop ∧
      ¬ (loop.run gpuCount sink).LowersOnly watts events ∧
      (Lib.run (loop.run gpuCount sink).step ((loop.run gpuCount sink).start watts) events).caps 0 =
        800) ∧
    ∃ gpuCount sink watts events,
      ¬ (spawnFailsafe ⟨1000, 800⟩ gpuCount sink).LowersOnly watts events ∧
      (Lib.run (spawnFailsafe ⟨1000, 800⟩ gpuCount sink).step
        ((spawnFailsafe ⟨1000, 800⟩ gpuCount sink).start watts) events).caps 0 = 800 := by
  refine ⟨⟨⟨1000, 800, by norm_num⟩, 1, simBackend fun _ => 1200, fun _ => 1000,
      [.setCap 0 300, .reading (.ok 1100), .write .taken], ?_, ?_, ?_⟩,
    1, recordingCapSink, fun _ => 1000,
      [.setCap 0 300, .reading (.ok 1100), .write .taken], ?_, ?_⟩
  · rw [FailsafeLoop.init, dif_pos (by norm_num)]
  · intro lowers
    have bound := lowers [.setCap 0 300, .reading (.ok 1100)] (.write .taken) [] rfl 0 rfl
    revert bound
    decide +kernel
  · decide +kernel
  · intro lowers
    have bound := lowers [.setCap 0 300, .reading (.ok 1100)] (.write .taken) [] rfl 0 rfl
    revert bound
    decide +kernel
  · decide +kernel

end Opendps.Agent
