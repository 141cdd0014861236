/-
**The agent on real GPUs.**

`NvmlActuator` caps GPUs through NVML, in whole milliwatts. What NVML answers is not up to the agent: a
reading may fail, a limit may be refused, and either changes with time (`NvmlChange`). The actuator logs
an error of NVML and goes on, a reading that fails is 0 W.

The agent reads its telemetry from Prometheus, so the two threads share nothing but the limits.

* `nvml_rounds_alone`: what the controller decides, exports, prints and meters depends on neither the
  failsafe nor NVML, but for the number of GPUs.
* `nvml_limits`: after any rounds every limit is the one from the start, one of the decisions that were
  printed, or, if the failsafe has tripped, the emergency cap.

What Python raises for an index that is out of range is a parameter.
-/

import Opendps.Agent.Guarded

namespace Opendps.Agent

open Opendps.Lib Opendps.Pdn Opendps.Brain Opendps.Sim Opendps.Controller

/-! ### NVML -/

/-- What NVML may answer otherwise from one moment to the next; `none` is an `NVMLError`. -/
structure NvmlChange where
  usageMw : ℕ → Option ℤ
  limitReads : ℕ → Bool
  maxLimitMw : ℕ → Option ℤ
  takes : ℕ → ℤ → Bool

/-- The GPUs of a node, the limits in force, and what NVML answers by now. -/
structure NvmlGpus where
  count : ℕ
  limitMw : ℕ → ℤ
  answers : NvmlChange

/-- The GPU at a place of `_handles`; a negative index counts from the end. -/
def handleAt (count : ℕ) (idx : GpuIndex) : Option ℕ :=
  if 0 ≤ idx then if idx < count then some idx.toNat else none
  else if 0 ≤ idx + count then some (idx + count).toNat else none

/-- `int(watts * 1000)`. -/
def milliwatts (watts : ℚ) : ℤ := truncate (watts * 1000)

/-- `mw / 1000.0`, or what the actuator returns for an error. -/
def wattsOf : Option ℤ → ℚ
  | some mw => mw / 1000
  | none => 0

namespace NvmlGpus

/-- Set a limit; one that NVML refuses is logged. -/
def setPowerCap (gpus : NvmlGpus) (gpu : ℕ) (watts : ℚ) : NvmlGpus :=
  if gpus.answers.takes gpu (milliwatts watts) then
    { gpus with limitMw := Function.update gpus.limitMw gpu (milliwatts watts) }
  else gpus

end NvmlGpus

/-- The actuator. -/
def nvmlDevice (indexError : PyError) : Device NvmlGpus where
  handle
    | .getPowerDraw idx, gpus =>
      match handleAt gpus.count idx with
      | none => (.error indexError, gpus)
      | some gpu => (.ok (wattsOf (gpus.answers.usageMw gpu)), gpus)
    | .getPowerCap idx, gpus =>
      match handleAt gpus.count idx with
      | none => (.error indexError, gpus)
      | some gpu =>
        (.ok (wattsOf (if gpus.answers.limitReads gpu then some (gpus.limitMw gpu) else none)), gpus)
    | .getMaxCapW idx, gpus =>
      match handleAt gpus.count idx with
      | none => (.error indexError, gpus)
      | some gpu => (.ok (wattsOf (gpus.answers.maxLimitMw gpu)), gpus)
    | .setPowerCap idx watts, gpus =>
      match handleAt gpus.count idx with
      | none => (.error indexError, gpus)
      | some gpu => (.ok (), gpus.setPowerCap gpu watts)
    | .tick _, gpus => ((), gpus)
  ticks := false
  readsDraw idx gpus := by
    dsimp only
    split <;> rfl
  readsCap idx gpus := by
    dsimp only
    split <;> rfl
  readsMax idx gpus := by
    dsimp only
    split <;> rfl

/-- The agent on the GPUs of a node. -/
def nvmlAgent (indexError : PyError) (loop : FailsafeLoop) (gpuCount : ℕ) :
    NodeAgent NvmlGpus NvmlChange where
  loop := loop
  device := nvmlDevice indexError
  gpuCount := gpuCount
  outside gpus change := { gpus with answers := change }

variable {indexError : PyError} {loop : FailsafeLoop} {codec : Codec}
  {controller : RunningController NvmlGpus} {rounds : List ControllerEvent} {gpus : NvmlGpus}

theorem handle_of_found {idx : GpuIndex} {place : ℕ} (found : handleAt gpus.count idx = some place)
    (watts : ℚ) : (nvmlDevice indexError).handle (.setPowerCap idx watts) gpus =
      (.ok (), gpus.setPowerCap place watts) := by
  simp only [nvmlDevice, found]

theorem handle_of_missing {idx : GpuIndex} (missing : handleAt gpus.count idx = none) (watts : ℚ) :
    (nvmlDevice indexError).handle (.setPowerCap idx watts) gpus = (.error indexError, gpus) := by
  simp only [nvmlDevice, missing]

theorem count_setPowerCap (gpus : NvmlGpus) (place : ℕ) (watts : ℚ) :
    (gpus.setPowerCap place watts).count = gpus.count := by
  unfold NvmlGpus.setPowerCap
  split <;> rfl

theorem count_handle (call : DeviceCall) (gpus : NvmlGpus) :
    ((nvmlDevice indexError).handle call gpus).2.count = gpus.count := by
  cases call with
  | tick samples => rfl
  | setPowerCap idx watts =>
    cases found : handleAt gpus.count idx with
    | none => rw [handle_of_missing found]
    | some gpu =>
      rw [handle_of_found found]
      exact count_setPowerCap gpus gpu watts
  | getPowerDraw idx => rw [(nvmlDevice indexError).readsDraw]
  | getPowerCap idx => rw [(nvmlDevice indexError).readsCap]
  | getMaxCapW idx => rw [(nvmlDevice indexError).readsMax]

/-! ### What the controller sees -/

/-- Whether a write raises depends on the number of GPUs only. -/
theorem answer_setPowerCap {other : NvmlGpus} (same : gpus.count = other.count) {call : DeviceCall}
    (writes : call.isWrite = true) :
    ((nvmlDevice indexError).handle call gpus).1 = ((nvmlDevice indexError).handle call other).1 := by
  cases call with
  | setPowerCap idx watts =>
    simp only [nvmlDevice, same]
    cases handleAt other.count idx <;> rfl
  | _ => cases writes

theorem count_surroundings (guarded : Guarded NvmlGpus) (event : GuardEvent NvmlChange) {gpuCount : ℕ} :
    ((nvmlAgent indexError loop gpuCount).surroundings guarded event).world.count =
      guarded.world.count := by
  cases event with
  | stop => rfl
  | outside change => rfl
  | poll =>
    show ((nvmlAgent indexError loop gpuCount).poll guarded).world.count = _
    rcases @NodeAgent.poll_cases _ _ (nvmlAgent indexError loop gpuCount) guarded with
      ⟨same, _⟩ | ⟨i, _, _, wrote⟩
    · rw [same]
    · rw [wrote]
      exact count_handle _ _

/-- **The controller does not notice.** With telemetry from Prometheus, in every order of the steps of
the two threads and whatever NVML answers: what has become of the controller after its rounds is what
becomes of it alone, on any GPUs that are as many. -/
theorem nvml_rounds_alone (codec : Codec) (indexError : PyError) (loop : FailsafeLoop)
    (controller : RunningController NvmlGpus) (sampled : controller.readsActuator = false)
    (rounds : List ControllerEvent) (schedule : List (PoolEvent Unit (GuardEvent NvmlChange)))
    (last : RunningController Unit)
    (done : NodeAgent.Done ((nvmlAgent indexError loop controller.actuator.count).after codec controller
      rounds schedule) last) (others : NvmlGpus) (asMany : others.count = controller.actuator.count) :
    last = (run (RunningController.loopTick codec (nvmlDevice indexError).actuator)
      { controller with actuator := others } rounds).mind := by
  have makes : (RunningController.roundsCalls codec (nvmlDevice indexError).ticks rounds
      controller.mind).Makes fun call => call.isWrite = true := by
    refine RunningController.makes_roundsCalls codec rounds (fun reads => ?_) (fun _ _ => rfl)
      fun ticks => (by cases ticks)
    rw [show controller.mind.readsActuator = controller.readsActuator from rfl, sampled] at reads
    cases reads
  have comes := (@NodeAgent.unseen _ _ (nvmlAgent indexError loop controller.actuator.count) codec
    controller rounds _ Unit (fun _ => ())
    (fun call _ => (((nvmlDevice indexError).handle call others).1, ()))
    (fun guarded => guarded.world.count = others.count) makes
    (fun call writes guarded same => by
      rw [show (nvmlAgent indexError loop controller.actuator.count).device.handle call guarded.world =
        (nvmlDevice indexError).handle call guarded.world from rfl, answer_setPowerCap same writes])
    (fun call _ guarded same => (count_handle call guarded.world).trans same)
    (fun guarded event same => ⟨rfl, (count_surroundings guarded event).trans same⟩) asMany.symm
    schedule).2 last done
  have alone := @Prog.run_view _ _ _ _ _ Unit (fun _ : NvmlGpus => ())
    (fun call _ => (((nvmlDevice indexError).handle call others).1, ()))
    (nvmlDevice indexError).handle (fun gpus => gpus.count = others.count)
    (fun call writes gpus same => by rw [answer_setPowerCap same writes])
    (fun call _ gpus same => (count_handle call gpus).trans same) _ makes others rfl
  have byItself := @RunningController.run_roundsCalls _ (nvmlDevice indexError) codec rounds
    { controller with actuator := others }
  exact (congrArg Prod.fst (comes.symm.trans alone)).trans (congrArg Prod.fst byItself)

/-! ### Three GPUs

In the first round NVML refuses every limit of GPU 1, and the failsafe finds GPU 0 at 1100 W. -/

/-- The failsafe as the agent starts it by default. -/
def defaultLoop : FailsafeLoop := ⟨1050, 800, by norm_num⟩

/-- What NVML answers there. -/
def firstAnswers : NvmlChange where
  usageMw gpu := if gpu = 0 then some 1100000 else none
  limitReads _ := true
  maxLimitMw _ := some 1200000
  takes gpu _ := gpu ≠ 1

/-- The demo domains on three GPUs, each limited to a kilowatt. -/
def nvmlDemo : RunningController NvmlGpus where
  config := { telemetry := "prom" }
  deciding := demoController.deciding
  actuator := ⟨3, fun _ => 1000000, firstAnswers⟩

/-- A round in which Prometheus has every GPU. -/
def sampledEvent : ControllerEvent :=
  { demoEvent with
    nodeSample := .ok (.ofList ([0, 1, 2].map fun gpu : ℤ =>
      (gpu, { index := gpu, name := "gpu", powerDrawW := some 600 }))) }

/-- The failsafe reads before the first cap is set and writes after it. -/
def crossed : List (PoolEvent Unit (GuardEvent NvmlChange)) :=
  [.change .poll, .thread (), .change .poll, .thread (), .thread (), .change .stop]

/-- By then the controller has done its round. -/
theorem crossed_done : ∃ last, NodeAgent.Done
    ((nvmlAgent (.indexError "list index out of range") defaultLoop 3).after
      (PriorityConfigSource.boostCodec 10 "10") nvmlDemo [sampledEvent] crossed) last := by
  have returned : (((nvmlAgent (.indexError "list index out of range") defaultLoop 3).after
      (PriorityConfigSource.boostCodec 10 "10") nvmlDemo [sampledEvent]
      crossed).progs ()).result?.isSome = true := by
    decide +kernel
  obtain ⟨last, same⟩ := Option.isSome_iff_exists.mp returned
  exact ⟨last, Prog.result?_eq_some.mp same⟩

/-- It printed what a controller prints alone on GPUs that take every limit. -/
theorem nvml_rounds_alone_demo : ∃ last : RunningController Unit,
    last.printed = (run (RunningController.loopTick (PriorityConfigSource.boostCodec 10 "10")
      (nvmlDevice (.indexError "list index out of range")).actuator)
      { nvmlDemo with actuator := ⟨3, fun _ => 0, { firstAnswers with takes := fun _ _ => true }⟩ }
      [sampledEvent]).printed := by
  obtain ⟨last, done⟩ := crossed_done
  have same := nvml_rounds_alone (PriorityConfigSource.boostCodec 10 "10")
    (.indexError "list index out of range") defaultLoop nvmlDemo (by decide) [sampledEvent]
    crossed last done ⟨3, fun _ => 0, { firstAnswers with takes := fun _ _ => true }⟩ rfl
  exact ⟨last, congrArg RunningController.printed same⟩

/-! ### The limits -/

/-- Where a limit comes from: the start, the failsafe once it has tripped, or a decision. -/
def Held (loop : FailsafeLoop) (first guarded : Guarded NvmlGpus) (pushed : List BrainDecision)
    (gpu : ℕ) : Prop :=
  guarded.world.limitMw gpu = first.world.limitMw gpu ∨
    (guarded.world.limitMw gpu = milliwatts loop.emergencyCap ∧ 0 < guarded.tripCount) ∨
    ∃ decision ∈ pushed, ∃ idx watts, (idx, watts) ∈ decision.caps.items ∧
      handleAt first.world.count idx = some gpu ∧ guarded.world.limitMw gpu = milliwatts watts

/-- What the failsafe and NVML may do between two calls of the controller. -/
structure Meanwhile (loop : FailsafeLoop) (before after : Guarded NvmlGpus) : Prop where
  count : after.world.count = before.world.count
  trips : before.tripCount ≤ after.tripCount
  limits : ∀ gpu, after.world.limitMw gpu = before.world.limitMw gpu ∨
    (after.world.limitMw gpu = milliwatts loop.emergencyCap ∧ 0 < after.tripCount)

theorem Meanwhile.refl (guarded : Guarded NvmlGpus) : Meanwhile loop guarded guarded :=
  ⟨rfl, le_rfl, fun _ => .inl rfl⟩

theorem Meanwhile.trans (a b c : Guarded NvmlGpus) (first : Meanwhile loop a b)
    (second : Meanwhile loop b c) : Meanwhile loop a c := by
  refine ⟨second.count.trans first.count, first.trips.trans second.trips, fun gpu => ?_⟩
  rcases second.limits gpu with same | emergency
  · rcases first.limits gpu with still | ⟨emergency, tripped⟩
    · exact .inl (same.trans still)
    · exact .inr ⟨same.trans emergency, tripped.trans_le second.trips⟩
  · exact .inr emergency

/-- Writing a limit changes it or, where NVML refuses, nothing. -/
theorem limitMw_setPowerCap (gpus : NvmlGpus) (place gpu : ℕ) (watts : ℚ) :
    (gpus.setPowerCap place watts).limitMw gpu = gpus.limitMw gpu ∨
      gpu = place ∧ (gpus.setPowerCap place watts).limitMw gpu = milliwatts watts := by
  unfold NvmlGpus.setPowerCap
  split
  · by_cases here : gpu = place
    · exact .inr ⟨here, here ▸ Function.update_self ..⟩
    · exact .inl (Function.update_of_ne here _ _)
  · exact .inl rfl

theorem meanwhile_surroundings {gpuCount : ℕ} (guarded : Guarded NvmlGpus)
    (event : GuardEvent NvmlChange) :
    Meanwhile loop guarded ((nvmlAgent indexError loop gpuCount).surroundings guarded event) := by
  cases event with
  | stop => exact ⟨rfl, le_rfl, fun _ => .inl rfl⟩
  | outside change => exact ⟨rfl, le_rfl, fun _ => .inl rfl⟩
  | poll =>
    show Meanwhile loop guarded ((nvmlAgent indexError loop gpuCount).poll guarded)
    obtain ⟨gpus, phase, stopping, tripCount⟩ := guarded
    cases phase with
    | stopped => exact .refl _
    | poll i =>
      have quiet := @NodeAgent.poll_cases _ _ (nvmlAgent indexError loop gpuCount)
        ⟨gpus, .poll i, stopping, tripCount⟩
      rcases quiet with ⟨same, count, _⟩ | ⟨place, tripping, _⟩
      · exact ⟨by rw [same], count.ge, fun gpu => .inl (by rw [same])⟩
      · cases tripping
    | trip i =>
      cases found : handleAt gpus.count i with
      | none =>
        have raised := @NodeAgent.poll_of_error _ _ (nvmlAgent indexError loop gpuCount)
          ⟨gpus, .trip i, stopping, tripCount⟩ i gpus indexError rfl
          (handle_of_missing found loop.emergencyCap)
        rw [raised]
        exact ⟨rfl, le_rfl, fun _ => .inl rfl⟩
      | some place =>
        have taken := @NodeAgent.poll_of_ok _ _ (nvmlAgent indexError loop gpuCount)
          ⟨gpus, .trip i, stopping, tripCount⟩ i (gpus.setPowerCap place loop.emergencyCap) rfl
          (handle_of_found found loop.emergencyCap)
        rw [taken]
        refine ⟨count_setPowerCap gpus place loop.emergencyCap, Nat.le_succ tripCount, fun gpu => ?_⟩
        rcases limitMw_setPowerCap gpus place gpu loop.emergencyCap with same | ⟨_, wrote⟩
        · exact .inl same
        · exact .inr ⟨wrote, Nat.succ_pos tripCount⟩

/-- The decisions that have been pushed, of those printed. -/
def pushedOf (dryRun : Bool) (printed : List BrainDecision) : List BrainDecision :=
  if dryRun then [] else printed

theorem Held.mono {first guarded : Guarded NvmlGpus} {pushed more : List BrainDecision} {gpu : ℕ}
    (held : Held loop first guarded pushed gpu) (longer : pushed ⊆ more) :
    Held loop first guarded more gpu := by
  rcases held with start | emergency | ⟨decision, member, origin⟩
  · exact .inl start
  · exact .inr (.inl emergency)
  · exact .inr (.inr ⟨decision, longer member, origin⟩)

theorem Held.of_same {first before after : Guarded NvmlGpus} {pushed : List BrainDecision} {gpu : ℕ}
    (held : Held loop first before pushed gpu)
    (same : after.world.limitMw gpu = before.world.limitMw gpu)
    (trips : before.tripCount ≤ after.tripCount) : Held loop first after pushed gpu := by
  rcases held with start | ⟨emergency, tripped⟩ | ⟨decision, member, idx, watts, capped, here, limit⟩
  · exact .inl (same.trans start)
  · exact .inr (.inl ⟨same.trans emergency, tripped.trans_le trips⟩)
  · exact .inr (.inr ⟨decision, member, idx, watts, capped, here, same.trans limit⟩)

theorem Held.meanwhile {first before after : Guarded NvmlGpus} {pushed : List BrainDecision} {gpu : ℕ}
    (held : Held loop first before pushed gpu) (meanwhile : Meanwhile loop before after) :
    Held loop first after pushed gpu := by
  rcases meanwhile.limits gpu with same | emergency
  · exact held.of_same same meanwhile.trips
  · exact .inr (.inl emergency)

/-- As many GPUs as at the start, and each limit from where it may come. -/
structure InForce (loop : FailsafeLoop) (first : Guarded NvmlGpus) (pushed : List BrainDecision)
    (guarded : Guarded NvmlGpus) : Prop where
  count : guarded.world.count = first.world.count
  held : ∀ gpu, Held loop first guarded pushed gpu

/-- Setting the caps of a decision, one after another. -/
theorem InForce.push {first guarded : Guarded NvmlGpus} {pushed : List BrainDecision} {gpuCount : ℕ}
    {decision : BrainDecision} (member : decision ∈ pushed)
    (reachable : ∀ gpu ∈ decision.caps.keys, (handleAt first.world.count gpu).isSome)
    {caps : List (GpuIndex × ℚ)} (within : caps ⊆ decision.caps.items)
    (inForce : InForce loop first pushed guarded) :
    (setEachCalls caps).Safe (nvmlAgent indexError loop gpuCount).handle (Meanwhile loop)
      (fun _ _ _ => True) (fun outcome later => outcome = .ok () ∧ InForce loop first pushed later)
      guarded := by
  induction caps generalizing guarded with
  | nil =>
    exact fun later changed => ⟨rfl, changed.count.trans inForce.count,
      fun gpu => (inForce.held gpu).meanwhile changed⟩
  | cons item rest ih =>
    obtain ⟨idx, watts⟩ := item
    intro later changed
    have capped : (idx, watts) ∈ decision.caps.items := within List.mem_cons_self
    obtain ⟨place, found⟩ := Option.isSome_iff_exists.mp
      (reachable idx (List.mem_map_of_mem capped))
    have count : later.world.count = first.world.count := changed.count.trans inForce.count
    have handled : (nvmlAgent indexError loop gpuCount).handle (.setPowerCap idx watts) later =
        (.ok (), { later with world := later.world.setPowerCap place watts }) := by
      have written := @handle_of_found indexError later.world idx place (count ▸ found) watts
      show (((nvmlDevice indexError).handle (.setPowerCap idx watts) later.world).1,
        { later with world := ((nvmlDevice indexError).handle (.setPowerCap idx watts) later.world).2 }) = _
      rw [written]
    refine ⟨trivial, ?_⟩
    rw [handled]
    refine ih (fun other more => within (List.mem_cons_of_mem _ more)) ⟨?_, fun gpu => ?_⟩
    · exact (count_setPowerCap later.world place watts).trans count
    · rcases limitMw_setPowerCap later.world place gpu watts with same | ⟨rfl, wrote⟩
      · exact ((inForce.held gpu).meanwhile changed).of_same same le_rfl
      · exact .inr (.inr ⟨decision, member, idx, watts, capped, found, wrote⟩)

/-- A call that writes no cap leaves the GPUs as they are. -/
theorem handle_of_read {call : DeviceCall} (isRead : call.isWrite = false) (gpus : NvmlGpus) :
    ((nvmlDevice indexError).handle call gpus).2 = gpus := by
  cases call with
  | getPowerDraw idx => exact (nvmlDevice indexError).readsDraw idx gpus
  | getPowerCap idx => exact (nvmlDevice indexError).readsCap idx gpus
  | getMaxCapW idx => exact (nvmlDevice indexError).readsMax idx gpus
  | tick samples => rfl
  | setPowerCap idx watts => cases isRead

/-- What holds of the limits, by the rule for pushing. -/
theorem pushRule_inForce (indexError : PyError) (loop : FailsafeLoop) (gpuCount : ℕ)
    (first : Guarded NvmlGpus) (dryRun : Bool) :
    RunningController.PushRule (nvmlAgent indexError loop gpuCount).handle (Meanwhile loop) dryRun
      (fun decision => ∀ gpu ∈ decision.caps.keys, (handleAt first.world.count gpu).isSome)
      (fun printed => InForce loop first (pushedOf dryRun printed)) where
  refl := .refl
  stable decisions guarded later inForce changed :=
    ⟨changed.count.trans inForce.count, fun gpu => (inForce.held gpu).meanwhile changed⟩
  reads decisions call guarded isRead inForce := by
    have same : ((nvmlAgent indexError loop gpuCount).handle call guarded).2 = guarded := by
      show { guarded with world := ((nvmlDevice indexError).handle call guarded.world).2 } = guarded
      rw [handle_of_read isRead]
    rw [same]
    exact inForce
  unpushed decisions decision guarded inForce := by
    refine ⟨inForce.count, fun gpu => (inForce.held gpu).mono ?_⟩
    unfold pushedOf
    split
    · exact List.Subset.refl _
    · exact List.subset_append_left decisions [decision]
  push live decisions decision guarded reachable inForce := by
    have pushed : ∀ printed : List BrainDecision, pushedOf dryRun printed = printed := fun printed =>
      if_neg (by rw [live]; exact Bool.false_ne_true)
    simp only [pushed] at inForce ⊢
    have longer : InForce loop first (decisions ++ [decision]) guarded :=
      ⟨inForce.count, fun gpu => (inForce.held gpu).mono (List.subset_append_left decisions [decision])⟩
    exact longer.push (List.mem_append_right _ (List.mem_singleton_self decision)) reachable
      (List.Subset.refl _)

/-- **What the limits are.** On a node that has every GPU of the topology, with any telemetry, in every
order of the steps of the two threads and whatever NVML answers: after any rounds every limit is the one
from the start, that of a decision that was printed, if it was no dry run, or the emergency cap, if the
failsafe has tripped. -/
theorem nvml_limits (codec : Codec) (indexError : PyError) (loop : FailsafeLoop)
    (controller : RunningController NvmlGpus)
    (reachable : ∀ domainName domain,
      controller.deciding.topology.domains.get? domainName = some domain →
        ∀ idx ∈ domain.gpuIndices, (handleAt controller.actuator.count idx).isSome)
    (rounds : List ControllerEvent) (schedule : List (PoolEvent Unit (GuardEvent NvmlChange)))
    (last : RunningController Unit)
    (done : NodeAgent.Done ((nvmlAgent indexError loop controller.actuator.count).after codec controller
      rounds schedule) last) :
    ∃ decisions : List BrainDecision,
      last.printed = controller.printed ++ decisions.map jsonLine ∧
        ∀ gpu, Held loop { world := controller.actuator }
          ((nvmlAgent indexError loop controller.actuator.count).after codec controller rounds
            schedule).world (pushedOf controller.config.dryRun decisions) gpu := by
  have rule := pushRule_inForce indexError loop controller.actuator.count
    { world := controller.actuator } controller.config.dryRun
  have start : RunningController.Shows
      (fun printed => InForce loop { world := controller.actuator }
        (pushedOf controller.config.dryRun printed)) controller.mind controller.mind
      { world := controller.actuator } :=
    ⟨.refl _, [], (List.append_nil _).symm, rfl, fun _ => .inl rfl⟩
  have safe := RunningController.safe_roundsCalls codec (nvmlDevice indexError).ticks rule
    (fun domainName domain listed decision inside gpu capped =>
      reachable domainName domain listed gpu (inside gpu capped)) rounds start
  have ended := @Pool.safe_run_of_one _ _ _ (GuardEvent NvmlChange) _ _
    (nvmlAgent indexError loop controller.actuator.count).surroundings (Meanwhile loop) _ _
    ((nvmlAgent indexError loop controller.actuator.count).start codec controller rounds) .refl .trans
    meanwhile_surroundings safe schedule
  have returned : (Lib.run (Pool.step (nvmlAgent indexError loop controller.actuator.count).handle
      (nvmlAgent indexError loop controller.actuator.count).surroundings)
      ((nvmlAgent indexError loop controller.actuator.count).start codec controller rounds)
      schedule).progs () = .ret last := done
  rw [returned] at ended
  obtain ⟨_, decisions, printed, inForce⟩ := ended _ (.refl _)
  exact ⟨decisions, printed, inForce.held⟩

/-- There every limit of GPU 1 is the one from the start, that of a decision, or the emergency cap. -/
theorem nvml_limits_demo : ∃ decisions, Held defaultLoop { world := nvmlDemo.actuator }
    ((nvmlAgent (.indexError "list index out of range") defaultLoop 3).after
      (PriorityConfigSource.boostCodec 10 "10") nvmlDemo [sampledEvent] crossed).world decisions 1 := by
  have table : ∀ item ∈ nvmlDemo.deciding.topology.domains.items, ∀ idx ∈ item.2.gpuIndices,
      (handleAt 3 idx).isSome := by
    decide +kernel
  obtain ⟨last, done⟩ := crossed_done
  obtain ⟨decisions, _, held⟩ := nvml_limits (PriorityConfigSource.boostCodec 10 "10")
    (.indexError "list index out of range") defaultLoop nvmlDemo
    (fun domainName domain present idx owned => table _ (Dict.get?_eq_some_iff.mp present) idx owned)
    [sampledEvent] crossed last done
  exact ⟨_, held 1⟩

end Opendps.Agent
