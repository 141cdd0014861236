/-
**The failsafe on the simulated fleet.**

The Python loop, one read or write at a time, on a simulated fleet whose load is drawn afresh and whose
caps the brain writes, in any order. What the loop reads is now the draw of the simulator, which is at
most the cap. So a GPU that the loop has put at the emergency cap, below its threshold, cannot trip it
again before the brain raises the cap: it is `armed` no more. Counting the armed GPUs bounds the trips
(`failsafe_does_not_oscillate`).

Every run of the twin is a run of the loop among other writers (`abstract_run`).
-/

import Opendps.Agent.Failsafe
import Opendps.Sim.Backend
import Mathlib.Data.Finset.Card

namespace Opendps.Sim

open Opendps.Lib Opendps.Pdn Opendps.Agent

/-- The loop and the fleet it runs on. -/
structure FailsafeTwin where
  backend : SimBackend
  phase : Phase := .poll 0
  stopping : Bool := false
  tripCount : ℕ := 0

/-- The next action of the loop (a read, a write, or the end of its sleep), a new load, a cap written
by the brain, or the request to stop. -/
inductive TwinEvent where
  | poll
  | tick (samples : GpuIndex → Util)
  | setPowerCap (idx : GpuIndex) (watts : ℚ)
  | stop

namespace FailsafeTwin

/-- The next action of the loop over the GPUs `0, ..., n - 1`. Whatever raises is logged, and the loop
goes on to the next GPU. -/
def poll (loop : FailsafeLoop) (n : ℕ) (twin : FailsafeTwin) : FailsafeTwin :=
  match twin.phase with
  | .poll i =>
    if i < n then
      let draw := twin.backend.getPowerDraw i
      { twin with phase := if loop.trips draw then .trip i else .poll (i + 1) }
    else { twin with phase := if twin.stopping then .stopped else .poll 0 }
  | .trip i =>
    match twin.backend.setPowerCap i loop.emergencyCap with
    | .ok backend =>
      { twin with backend := backend, phase := .poll (i + 1), tripCount := twin.tripCount + 1 }
    | .error _ => { twin with phase := .poll (i + 1) }
  | .stopped => twin

/-- One step. A cap for a GPU that the fleet does not have raises in the brain and changes nothing. -/
def step (loop : FailsafeLoop) (n : ℕ) (twin : FailsafeTwin) : TwinEvent → FailsafeTwin
  | .poll => twin.poll loop n
  | .tick samples => { twin with backend := twin.backend.tick samples }
  | .setPowerCap idx watts =>
    match twin.backend.setPowerCap idx watts with
    | .ok backend => { twin with backend := backend }
    | .error _ => twin
  | .stop => { twin with stopping := true }

/-- The GPU the loop is about to write to. -/
def pending (twin : FailsafeTwin) : Option GpuIndex :=
  match twin.phase with
  | .trip i => some i
  | _ => none

/-- The GPU that trips in a step: the loop writes its cap, and the write goes through. -/
def tripped (twin : FailsafeTwin) : TwinEvent → Option GpuIndex
  | .poll => twin.pending.filter twin.backend.gpus.contains
  | _ => none

/-- The loop before its first scan. -/
def start (backend : SimBackend) : FailsafeTwin := { backend := backend }

/-- How often a GPU trips in a run from a state. -/
def tripsOf (loop : FailsafeLoop) (n : ℕ) (idx : GpuIndex) (twin : FailsafeTwin)
    (events : List TwinEvent) : ℕ :=
  cost (step loop n) (fun twin event => if twin.tripped event = some idx then 1 else 0) twin events

end FailsafeTwin

namespace TwinEvent

/-- The GPU whose cap the brain writes. -/
def written : TwinEvent → Option GpuIndex
  | .setPowerCap idx _ => some idx
  | _ => none

/-- Whether the brain writes a GPU's cap. -/
def writesTo (idx : GpuIndex) (event : TwinEvent) : Bool := decide (event.written = some idx)

def isWrite (event : TwinEvent) : Bool := event.written.isSome

end TwinEvent

namespace SimBackend

variable {self : SimBackend} {idx : GpuIndex} {watts : ℚ}

theorem getPowerDraw_eq_ok {drawn : ℚ} (reads : self.getPowerDraw idx = .ok drawn) :
    drawn = self.draw idx := by
  obtain ⟨gpu, found, same⟩ := ok_of_bind reads
  cases same
  unfold SimBackend.gpu at found
  split at found
  · next stored =>
    cases found
    rw [draw, stored]
    rfl
  · cases found

/-- A write goes to one GPU, and is kept between zero and its maximum. -/
theorem cap_setPowerCap {written : SimBackend} (writes : self.setPowerCap idx watts = .ok written)
    (other : GpuIndex) :
    written.cap other =
      if other = idx then min (max 0 watts) (((self.gpus.get? idx).map SimGpu.maxCapW).getD 0)
      else self.cap other := by
  obtain ⟨gpu, found, same⟩ := ok_of_bind writes
  cases same
  unfold SimBackend.gpu at found
  split at found
  · next stored =>
    cases found
    unfold cap
    rw [Dict.get?_set]
    by_cases here : other = idx
    · simp only [if_pos here, stored]
      rfl
    · simp only [if_neg here]
  · cases found

/-- A write leaves the GPUs of the fleet and their maxima. -/
theorem maxCapW_setPowerCap {written : SimBackend}
    (writes : self.setPowerCap idx watts = .ok written) (other : GpuIndex) :
    (written.gpus.get? other).map SimGpu.maxCapW = (self.gpus.get? other).map SimGpu.maxCapW := by
  obtain ⟨gpu, found, same⟩ := ok_of_bind writes
  cases same
  unfold SimBackend.gpu at found
  split at found
  · next stored =>
    cases found
    rw [Dict.get?_set]
    by_cases here : other = idx
    · rw [if_pos here, here, stored]
      rfl
    · rw [if_neg here]
  · cases found

theorem maxCapW_tick (self : SimBackend) (samples : GpuIndex → Util) (idx : GpuIndex) :
    ((self.tick samples).gpus.get? idx).map SimGpu.maxCapW =
      (self.gpus.get? idx).map SimGpu.maxCapW := by
  rw [tick, Dict.get?_mapVals]
  cases self.gpus.get? idx <;> rfl

theorem setPowerCap_isOk_iff :
    (∃ written, self.setPowerCap idx watts = .ok written) ↔ self.gpus.contains idx = true := by
  unfold setPowerCap SimBackend.gpu Dict.contains
  cases self.gpus.get? idx with
  | none =>
    constructor
    · rintro ⟨_, ⟨⟩⟩
    · rintro ⟨⟩
  | some gpu => exact ⟨fun _ => rfl, fun _ => ⟨_, rfl⟩⟩

end SimBackend

namespace FailsafeTwin

/-! ### A GPU is armed or not -/

section Armed

variable {loop : FailsafeLoop} {n : ℕ} {idx : GpuIndex}

/-- A GPU the loop has still to write to: its cap is above the emergency cap, or the loop has read a
draw above the threshold. -/
def Armed (loop : FailsafeLoop) (idx : GpuIndex) (twin : FailsafeTwin) : Prop :=
  loop.emergencyCap < twin.backend.cap idx ∨ twin.pending = some idx

instance (twin : FailsafeTwin) : Decidable (Armed loop idx twin) :=
  inferInstanceAs (Decidable (_ ∨ _))

/-- A reading above the threshold comes from a cap above the emergency cap. -/
theorem cap_of_trips {backend : SimBackend} (trips : loop.trips (backend.getPowerDraw idx) = true) :
    loop.emergencyCap < backend.cap idx := by
  cases reads : backend.getPowerDraw idx with
  | error exc =>
    rw [reads] at trips
    cases trips
  | ok drawn =>
    rw [reads] at trips
    have above : loop.threshold < drawn := of_decide_eq_true trips
    calc loop.emergencyCap < loop.threshold := loop.ordered
      _ < drawn := above
      _ = backend.draw idx := SimBackend.getPowerDraw_eq_ok reads
      _ ≤ backend.cap idx := backend.draw_le_cap idx

/-- A step that writes no cap: the caps and the count stay, and the loop writes next to a GPU that it has
found above the threshold. -/
structure Quiet (loop : FailsafeLoop) (twin next : FailsafeTwin) : Prop where
  cap : ∀ idx, next.backend.cap idx = twin.backend.cap idx
  maxCapW : ∀ idx, (next.backend.gpus.get? idx).map SimGpu.maxCapW =
    (twin.backend.gpus.get? idx).map SimGpu.maxCapW
  tripCount : next.tripCount = twin.tripCount
  pending : ∀ idx, next.pending = some idx → Armed loop idx twin

/-- A write of the loop that the fleet takes. -/
structure Trips (loop : FailsafeLoop) (twin next : FailsafeTwin) (idx : GpuIndex) : Prop where
  pending : twin.pending = some idx
  writes : twin.backend.setPowerCap idx loop.emergencyCap = .ok next.backend
  tripCount : next.tripCount = twin.tripCount + 1
  free : next.pending = none

/-- A cap written by the brain that the fleet takes. -/
structure Sets (twin next : FailsafeTwin) (idx : GpuIndex) (watts : ℚ) : Prop where
  writes : twin.backend.setPowerCap idx watts = .ok next.backend
  tripCount : next.tripCount = twin.tripCount
  pending : next.pending = twin.pending

theorem quiet_of_phase {twin : FailsafeTwin} {phase : Phase}
    (read : ∀ i, phase = .trip i → loop.trips (twin.backend.getPowerDraw i) = true) :
    Quiet loop twin { twin with phase := phase } where
  cap _ := rfl
  maxCapW _ := rfl
  tripCount := rfl
  pending idx next := by
    cases phase with
    | trip i =>
      cases next
      exact .inl (cap_of_trips (read i rfl))
    | _ => cases next

/-- What a step does: nothing to the caps, a trip of the loop, or a cap set by the brain. -/
theorem step_cases (loop : FailsafeLoop) (n : ℕ) (twin : FailsafeTwin) (event : TwinEvent) :
    (twin.tripped event = none ∧ Quiet loop twin (twin.step loop n event)) ∨
      (∃ idx, twin.tripped event = some idx ∧ event.written = none ∧
        Trips loop twin (twin.step loop n event) idx) ∨
      ∃ idx watts, twin.tripped event = none ∧ event.written = some idx ∧
        Sets twin (twin.step loop n event) idx watts := by
  cases event with
  | tick samples =>
    refine .inl ⟨rfl, ?_⟩
    exact {
      cap := twin.backend.cap_tick samples
      maxCapW := twin.backend.maxCapW_tick samples
      tripCount := rfl
      pending := fun idx => .inr }
  | stop => exact .inl ⟨rfl, fun _ => rfl, fun _ => rfl, rfl, fun idx => .inr⟩
  | setPowerCap idx watts =>
    cases writes : twin.backend.setPowerCap idx watts with
    | error exc =>
      refine .inl ⟨rfl, ?_⟩
      simp only [step, writes]
      exact ⟨fun _ => rfl, fun _ => rfl, rfl, fun idx => .inr⟩
    | ok written =>
      refine .inr (.inr ⟨idx, watts, rfl, rfl, ?_⟩)
      simp only [step, writes]
      exact ⟨writes, rfl, rfl⟩
  | poll =>
    simp only [step, poll, tripped, pending]
    cases phase : twin.phase with
    | stopped =>
      refine .inl ⟨rfl, fun _ => rfl, fun _ => rfl, rfl, fun idx next => ?_⟩
      rw [pending, phase] at next
      cases next
    | poll i =>
      refine .inl ⟨rfl, ?_⟩
      by_cases inFleet : i < n
      · simp only [inFleet, if_true]
        refine quiet_of_phase fun j read => ?_
        split at read
        · next trips =>
          cases read
          exact trips
        · cases read
      · simp only [inFleet, if_false]
        refine quiet_of_phase fun j read => ?_
        split at read <;> cases read
    | trip i =>
      have present := @SimBackend.setPowerCap_isOk_iff twin.backend i loop.emergencyCap
      cases writes : twin.backend.setPowerCap i loop.emergencyCap with
      | error exc =>
        have absent : twin.backend.gpus.contains (i : GpuIndex) = false := by
          rw [← Bool.not_eq_true, ← present, writes]
          rintro ⟨_, ⟨⟩⟩
        refine .inl ⟨Option.filter_some_neg absent, ?_⟩
        simp only [writes]
        refine quiet_of_phase fun j read => ?_
        cases read
      | ok written =>
        have contained := present.mp ⟨written, writes⟩
        refine .inr (.inl ⟨i, Option.filter_some_pos contained, rfl, ?_⟩)
        simp only [writes]
        exact ⟨by rw [pending, phase], writes, rfl, rfl⟩

/-- Only a cap written by the brain arms a GPU, and a trip disarms it. -/
theorem armed_of_step {twin : FailsafeTwin} {event : TwinEvent} (nonneg : 0 ≤ loop.emergencyCap)
    (armed : Armed loop idx (twin.step loop n event)) :
    event.written = some idx ∨ Armed loop idx twin ∧ twin.tripped event ≠ some idx := by
  rcases step_cases loop n twin event with ⟨untripped, quiet⟩ | ⟨target, trips, _, tripping⟩ |
      ⟨target, watts, untripped, wrote, setting⟩
  · refine .inr ⟨?_, by simp [untripped]⟩
    rcases armed with above | pending
    · exact .inl (quiet.cap idx ▸ above)
    · exact quiet.pending idx pending
  · have above := armed.resolve_right (by simp [tripping.free])
    have kept := SimBackend.cap_setPowerCap tripping.writes idx
    by_cases same : idx = target
    · -- the emergency cap itself is not above the emergency cap
      rw [if_pos same, max_eq_right nonneg] at kept
      exact absurd (kept ▸ above) (min_le_left _ _).not_gt
    · rw [if_neg same] at kept
      exact .inr ⟨.inl (kept ▸ above), by simpa [trips] using Ne.symm same⟩
  · by_cases same : target = idx
    · exact .inl (same ▸ wrote)
    · have kept := SimBackend.cap_setPowerCap setting.writes idx
      rw [if_neg (Ne.symm same)] at kept
      refine .inr ⟨?_, by simp [untripped]⟩
      rcases armed with above | pending
      · exact .inl (kept ▸ above)
      · exact .inr (setting.pending ▸ pending)

/-- A GPU that trips was armed. -/
theorem armed_of_tripped {twin : FailsafeTwin} {event : TwinEvent}
    (trips : twin.tripped event = some idx) : Armed loop idx twin ∧ event.written = none := by
  cases event with
  | poll => exact ⟨.inr (Option.filter_eq_some_iff.mp trips).1, rfl⟩
  | _ => cases trips

/-- **The trips of one GPU**: one for what it starts with, and one for every cap the brain writes. -/
theorem tripsOf_le (nonneg : 0 ≤ loop.emergencyCap) (twin : FailsafeTwin) (events : List TwinEvent) :
    tripsOf loop n idx twin events ≤ 1 + events.countP (TwinEvent.writesTo idx) := by
  have covered : ∀ (twin : FailsafeTwin) (event : TwinEvent),
      (if twin.tripped event = some idx then 1 else 0) +
          (if Armed loop idx (twin.step loop n event) then 1 else 0) ≤
        (if Armed loop idx twin then 1 else 0) + if event.writesTo idx then 1 else 0 := by
    intro twin event
    by_cases trips : twin.tripped event = some idx
    · obtain ⟨before, free⟩ := @armed_of_tripped loop idx twin event trips
      have after : ¬ Armed loop idx (twin.step loop n event) := fun armed =>
        (armed_of_step nonneg armed).elim (fun writes => by simp [writes] at free)
          fun kept => kept.2 trips
      simp [trips, before, after]
    · by_cases after : Armed loop idx (twin.step loop n event)
      · rcases armed_of_step nonneg after with writes | ⟨before, _⟩
        · simp [trips, after, TwinEvent.writesTo, writes]
        · simp [trips, after, before]
      · simp [trips, after]
  have bound := cost_le_of_potential (fun twin => if Armed loop idx twin then 1 else 0)
    (TwinEvent.writesTo idx) covered twin events
  have atMost : (if Armed loop idx twin then 1 else 0) ≤ 1 := by split <;> decide
  unfold tripsOf
  omega

end Armed

/-! ### The trip count -/

section Count

variable {loop : FailsafeLoop} {n : ℕ}

/-- No step changes the GPUs of the fleet or their maxima. -/
theorem maxCapW_step (twin : FailsafeTwin) (event : TwinEvent) (idx : GpuIndex) :
    ((twin.step loop n event).backend.gpus.get? idx).map SimGpu.maxCapW =
      (twin.backend.gpus.get? idx).map SimGpu.maxCapW := by
  rcases step_cases loop n twin event with ⟨_, quiet⟩ | ⟨_, _, _, tripping⟩ | ⟨_, _, _, _, setting⟩
  · exact quiet.maxCapW idx
  · exact SimBackend.maxCapW_setPowerCap tripping.writes idx
  · exact SimBackend.maxCapW_setPowerCap setting.writes idx

theorem mem_keys_step (twin : FailsafeTwin) (event : TwinEvent) (idx : GpuIndex) :
    idx ∈ (twin.step loop n event).backend.gpus.keys ↔ idx ∈ twin.backend.gpus.keys := by
  have same := congrArg Option.isSome (@maxCapW_step loop n twin event idx)
  rw [Option.isSome_map, Option.isSome_map] at same
  rw [← Dict.contains_iff, ← Dict.contains_iff, Dict.contains, Dict.contains, same]

/-- The counter counts the trips. -/
theorem tripCount_step (twin : FailsafeTwin) (event : TwinEvent) :
    (twin.step loop n event).tripCount =
      twin.tripCount + if (twin.tripped event).isSome then 1 else 0 := by
  rcases step_cases loop n twin event with ⟨untripped, quiet⟩ | ⟨_, trips, _, tripping⟩ |
      ⟨_, _, untripped, _, setting⟩
  · rw [untripped, quiet.tripCount]
    rfl
  · rw [trips, tripping.tripCount]
    rfl
  · rw [untripped, setting.tripCount]
    rfl

theorem tripCount_run (twin : FailsafeTwin) (events : List TwinEvent) :
    (run (step loop n) twin events).tripCount = twin.tripCount +
      cost (step loop n) (fun twin event => if (twin.tripped event).isSome then 1 else 0) twin
        events := by
  induction events generalizing twin with
  | nil => rfl
  | cons event rest ih => rw [run_cons, ih, tripCount_step, cost, Nat.add_assoc]

/-- What trips is a GPU of the fleet. -/
theorem mem_keys_of_tripped {twin : FailsafeTwin} {event : TwinEvent} {idx : GpuIndex}
    (trips : twin.tripped event = some idx) : idx ∈ twin.backend.gpus.keys := by
  cases event with
  | poll => exact Dict.contains_iff.mp (Option.filter_eq_some_iff.mp trips).2
  | _ => cases trips

/-- The GPUs of the fleet that are armed. -/
def armedGpus (loop : FailsafeLoop) (twin : FailsafeTwin) : Finset GpuIndex :=
  twin.backend.gpus.keys.toFinset.filter fun idx => Armed loop idx twin

theorem mem_armedGpus {twin : FailsafeTwin} {idx : GpuIndex} :
    idx ∈ armedGpus loop twin ↔ idx ∈ twin.backend.gpus.keys ∧ Armed loop idx twin := by
  rw [armedGpus, Finset.mem_filter, List.mem_toFinset]

/-- A trip takes a GPU out of the armed ones, and only a cap written by the brain brings one back. -/
theorem card_armedGpus_step (nonneg : 0 ≤ loop.emergencyCap) (twin : FailsafeTwin)
    (event : TwinEvent) :
    (if (twin.tripped event).isSome then 1 else 0) +
        (armedGpus loop (twin.step loop n event)).card ≤
      (armedGpus loop twin).card + if event.isWrite then 1 else 0 := by
  have remains : ∀ idx ∈ armedGpus loop (twin.step loop n event),
      event.written = some idx ∨ idx ∈ armedGpus loop twin ∧ twin.tripped event ≠ some idx := by
    intro idx member
    obtain ⟨present, armed⟩ := mem_armedGpus.mp member
    refine (armed_of_step nonneg armed).imp_right fun kept => ⟨?_, kept.2⟩
    exact mem_armedGpus.mpr ⟨(mem_keys_step twin event idx).mp present, kept.1⟩
  cases wrote : event.written with
  | some target =>
    have untripped : twin.tripped event = none := by
      rw [Option.eq_none_iff_forall_ne_some]
      intro idx trips
      exact nomatch wrote.symm.trans (@armed_of_tripped loop idx twin event trips).2
    have within : armedGpus loop (twin.step loop n event) ⊆ insert target (armedGpus loop twin) := by
      intro idx member
      rcases remains idx member with writes | ⟨before, _⟩
      · cases wrote.symm.trans writes
        exact Finset.mem_insert_self target _
      · exact Finset.mem_insert_of_mem before
    have bound := (Finset.card_le_card within).trans (Finset.card_insert_le target _)
    simpa [untripped, TwinEvent.isWrite, wrote] using bound
  | none =>
    have stays : ∀ idx ∈ armedGpus loop (twin.step loop n event),
        idx ∈ armedGpus loop twin ∧ twin.tripped event ≠ some idx := fun idx member =>
      (remains idx member).resolve_left fun writes => nomatch wrote.symm.trans writes
    cases trips : twin.tripped event with
    | none =>
      have within : armedGpus loop (twin.step loop n event) ⊆ armedGpus loop twin :=
        fun idx member => (stays idx member).1
      simpa [TwinEvent.isWrite, wrote] using Finset.card_le_card within
    | some target =>
      have before : target ∈ armedGpus loop twin :=
        mem_armedGpus.mpr ⟨mem_keys_of_tripped trips, (armed_of_tripped trips).1⟩
      have within : armedGpus loop (twin.step loop n event) ⊆ (armedGpus loop twin).erase target := by
        intro idx member
        obtain ⟨armed, other⟩ := stays idx member
        refine Finset.mem_erase.mpr ⟨fun same => other ?_, armed⟩
        rw [trips, same]
      have bound := Finset.card_le_card within
      have removed := Finset.card_erase_add_one before
      simp only [TwinEvent.isWrite, wrote, Option.isSome_some, Option.isSome_none, if_true,
        Bool.false_eq_true, if_false]
      omega

/-- **All trips**: one for each GPU of the fleet, and one for every cap the brain writes. -/
theorem tripCount_le (nonneg : 0 ≤ loop.emergencyCap) (backend : SimBackend)
    (events : List TwinEvent) :
    (run (step loop n) (start backend) events).tripCount ≤
      backend.gpuCount + events.countP TwinEvent.isWrite := by
  have bound := cost_le_of_potential (fun twin => (armedGpus loop twin).card) TwinEvent.isWrite
    (@card_armedGpus_step loop n nonneg) (start backend) events
  have fleet : (armedGpus loop (start backend)).card ≤ backend.gpuCount := by
    calc (armedGpus loop (start backend)).card
        ≤ backend.gpus.keys.toFinset.card := Finset.card_filter_le _ _
      _ ≤ backend.gpus.keys.length := List.toFinset_card_le _
      _ = backend.gpuCount := backend.gpus.length_keys
  have none : (start backend).tripCount = 0 := rfl
  rw [tripCount_run, none]
  omega

end Count

/-- **The failsafe does not oscillate on the simulated fleet.** Between two caps that the brain writes
to a GPU the GPU trips at most once, and a run has at most one trip for each GPU and one for each cap the
brain writes. -/
theorem failsafe_does_not_oscillate (loop : FailsafeLoop) (nonneg : 0 ≤ loop.emergencyCap)
    (backend : SimBackend) (events : List TwinEvent) :
    (∀ idx before segment after, events = before ++ segment ++ after →
      (∀ event ∈ segment, event.written ≠ some idx) →
      tripsOf loop backend.gpuCount idx
        (run (step loop backend.gpuCount) (start backend) before) segment ≤ 1) ∧
    (run (step loop backend.gpuCount) (start backend) events).tripCount ≤
      backend.gpuCount + events.countP TwinEvent.isWrite := by
  refine ⟨fun idx before segment after _ apart => ?_, tripCount_le nonneg backend events⟩
  have bound := @tripsOf_le loop backend.gpuCount idx nonneg
    (run (step loop backend.gpuCount) (start backend) before) segment
  have free : segment.countP (TwinEvent.writesTo idx) = 0 :=
    List.countP_eq_zero.mpr fun event member => by simpa [TwinEvent.writesTo] using apart event member
  rwa [free] at bound

/-- One GPU with a cap of 1200 W under full load. -/
def loaded : SimBackend := ⟨Dict.empty.set 0 ⟨1200, 1200, ⟨100, hundred_nonneg, hundred_le⟩⟩⟩

theorem eightHundred_lt : (800 : ℚ) < 1000 := by norm_num

/-- A loop that trips at 1000 W. -/
def kilowattLoop : FailsafeLoop := ⟨1000, 800, eightHundred_lt⟩

/-- The GPU trips it once, and not again under any load. -/
theorem failsafe_does_not_oscillate_loaded :
    (run (step kilowattLoop 1) (start loaded) [.poll, .poll, .poll, .poll]).tripCount = 1 ∧
    ∀ samples : GpuIndex → Util,
      (run (step kilowattLoop 1) (start loaded)
        [.poll, .poll, .poll, .tick samples, .poll, .poll]).tripCount ≤ 1 := by
  refine ⟨by decide +kernel, fun samples => ?_⟩
  have nonneg : 0 ≤ kilowattLoop.emergencyCap := by decide +kernel
  exact (failsafe_does_not_oscillate kilowattLoop nonneg loaded
    [.poll, .poll, .poll, .tick samples, .poll, .poll]).2

/-! ### The twin as a run of the loop -/

section Refines

variable (loop : FailsafeLoop) (n : ℕ)

/-- What the loop's own machine knows of the twin. -/
def loopState (twin : FailsafeTwin) : FailsafeState where
  caps i := twin.backend.cap i
  phase := twin.phase
  stopping := twin.stopping
  tripCount := twin.tripCount

/-- What a step of the twin is to the loop: the reading is the draw of the simulator, and a new load is
nothing. -/
def loopEvents (twin : FailsafeTwin) : TwinEvent → List (FailsafeEvent PyError)
  | .poll =>
    match twin.phase with
    | .poll i => if i < n then [.reading (twin.backend.getPowerDraw i)] else [.wake]
    | .trip i =>
      match twin.backend.setPowerCap i loop.emergencyCap with
      | .ok _ => [.write .taken]
      | .error exc => [.write (.raised exc)]
    | .stopped => []
  | .tick _ => []
  | .setPowerCap idx watts =>
    match idx, twin.backend.setPowerCap idx watts with
    | .ofNat i, .ok _ => [.setCap i watts]
    | _, _ => []
  | .stop => [.stop]

/-- The hardware maxima of a fleet. -/
def ratings (backend : SimBackend) (i : ℕ) : ℚ :=
  ((backend.gpus.get? i).map SimGpu.maxCapW).getD 0

variable {loop n} {maxCapW : ℕ → ℚ}

/-- A write of the simulator is a write of the loop's sink. -/
theorem caps_setPowerCap {backend written : SimBackend} (rated : ratings backend = maxCapW)
    {i : ℕ} {watts : ℚ} (writes : backend.setPowerCap i watts = .ok written) :
    (loop.run n (simBackend maxCapW)).setCap (fun j : ℕ => backend.cap j) i watts =
      fun j : ℕ => written.cap j := by
  funext j
  rw [SimBackend.cap_setPowerCap writes, Failsafe.setCap]
  by_cases same : j = i
  · subst same
    rw [if_pos rfl, Function.update_self, ← rated]
    rfl
  · rw [if_neg (fun equal => same (Int.natCast_inj.mp equal)), Function.update_of_ne same]

/-- One step of the twin. -/
theorem loopState_step {twin : FailsafeTwin} (rated : ratings twin.backend = maxCapW)
    (event : TwinEvent) :
    run (loop.run n (simBackend maxCapW)).step (loopState twin) (loopEvents loop n twin event) =
      loopState (twin.step loop n event) := by
  obtain ⟨backend, phase, stopping, tripCount⟩ := twin
  cases event with
  | tick samples =>
    have caps : (fun i : ℕ => (backend.tick samples).cap i) = fun i : ℕ => backend.cap i := by
      funext i
      exact backend.cap_tick samples i
    simp only [loopEvents, run_nil, loopState, step, caps]
  | stop => rfl
  | setPowerCap idx watts =>
    simp only [loopEvents, step]
    cases writes : backend.setPowerCap idx watts with
    | error exc => cases idx <;> rfl
    | ok written =>
      cases idx with
      | negSucc i =>
        have caps : (fun j : ℕ => written.cap j) = fun j : ℕ => backend.cap j := by
          funext j
          rw [SimBackend.cap_setPowerCap writes, if_neg (fun equal => nomatch equal)]
        simp only [run_nil, loopState, caps]
      | ofNat i =>
        have caps := @caps_setPowerCap loop n maxCapW backend written rated i watts writes
        simp only [run_cons, run_nil, loopState, Failsafe.step, caps]
  | poll =>
    cases phase with
    | stopped => rfl
    | poll i =>
      by_cases inFleet : i < n
      · simp only [loopEvents, step, poll, inFleet, if_true]
        simp only [run_cons, run_nil, loopState, Failsafe.step, FailsafeLoop.run, inFleet, if_true]
      · simp only [loopEvents, step, poll, inFleet, if_false]
        simp only [run_cons, run_nil, loopState, Failsafe.step, FailsafeLoop.run, inFleet, if_false]
    | trip i =>
      simp only [loopEvents, step, poll]
      cases writes : backend.setPowerCap i loop.emergencyCap with
      | error exc => rfl
      | ok written =>
        have caps := @caps_setPowerCap loop n maxCapW backend written rated i loop.emergencyCap writes
        simp only [run_cons, run_nil, loopState, Failsafe.step]
        exact congrArg (FailsafeState.mk · _ _ _) caps

/-- **Every run of the twin is a run of the loop among other writers**, on a fleet of the same maxima
whose readings are the draws of the simulator. -/
theorem exists_run_loop (loop : FailsafeLoop) (n : ℕ) (backend : SimBackend)
    (events : List TwinEvent) :
    ∃ loopRun, loopState (run (step loop n) (start backend) events) =
      run (loop.run n (simBackend (ratings backend))).step (loopState (start backend)) loopRun := by
  have related : ratings (run (step loop n) (start backend) events).backend = ratings backend ∧
      ∃ loopRun, loopState (run (step loop n) (start backend) events) =
        run (loop.run n (simBackend (ratings backend))).step (loopState (start backend)) loopRun := by
    refine run_invariant (fun _ twin => ratings twin.backend = ratings backend ∧
      ∃ loopRun, loopState twin =
        run (loop.run n (simBackend (ratings backend))).step (loopState (start backend)) loopRun)
      ⟨rfl, [], rfl⟩ ?_ events
    rintro past event twin ⟨rated, loopRun, same⟩
    refine ⟨?_, loopRun ++ loopEvents loop n twin event, ?_⟩
    · rw [← rated]
      funext i
      rw [ratings, ratings, maxCapW_step]
    · rw [← loopState_step rated event, same, run, run, run, List.foldl_append]
  exact related.2

end Refines

end FailsafeTwin

end Opendps.Sim
