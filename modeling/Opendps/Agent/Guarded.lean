/-
**A controller and a failsafe on the same GPUs.**

The agent of a node runs the loop of a controller in one thread and the failsafe in another, without a
lock between them. `NodeAgent` says what they work on (a `Device`, and what may change about it on its
own); a run is a schedule: each step is the next call of the controller, the next action of the failsafe,
the request to stop, or a change of the GPUs.

* `NodeAgent.invariant`: what the calls of the controller, the emergency cap and the changes keep, every
  run keeps.
* `NodeAgent.unseen`: where the failsafe and the changes leave alone what the controller sees, its rounds
  come to what they come to by themselves.
-/

import Opendps.Controller.CallRules
import Opendps.Agent.Failsafe

namespace Opendps.Agent

open Opendps.Lib Opendps.Pdn Opendps.Sim Opendps.Controller

/-- GPUs, and where the failsafe that guards them is. -/
structure Guarded (W : Type) where
  world : W
  phase : Phase := .poll 0
  stopping : Bool := false
  tripCount : ℕ := 0

/-- What happens next to the controller: an action of the failsafe (a read, a write, or the end of its
sleep), the request to stop, or a change of the GPUs. -/
inductive GuardEvent (ε : Type) where
  | poll
  | stop
  | outside (event : ε)

/-- An agent: the failsafe, the GPUs and how many it was told there are, and what may happen to them. -/
structure NodeAgent (W ε : Type) where
  loop : FailsafeLoop
  device : Device W
  gpuCount : ℕ
  outside : W → ε → W

namespace NodeAgent

variable {W ε : Type} (agent : NodeAgent W ε)

/-- The next action of the failsafe. Whatever raises is logged, and the loop goes on to the next GPU. -/
def poll (guarded : Guarded W) : Guarded W :=
  match guarded.phase with
  | .poll i =>
    if i < agent.gpuCount then
      let (draw, world) := agent.device.handle (.getPowerDraw i) guarded.world
      { guarded with
        world := world
        phase := if agent.loop.trips draw then .trip i else .poll (i + 1) }
    else { guarded with phase := if guarded.stopping then .stopped else .poll 0 }
  | .trip i =>
    match agent.device.handle (.setPowerCap i agent.loop.emergencyCap) guarded.world with
    | (.ok (), world) =>
      { guarded with world := world, phase := .poll (i + 1), tripCount := guarded.tripCount + 1 }
    | (.error _, world) => { guarded with world := world, phase := .poll (i + 1) }
  | .stopped => guarded

def surroundings (guarded : Guarded W) : GuardEvent ε → Guarded W
  | .poll => agent.poll guarded
  | .stop => { guarded with stopping := true }
  | .outside event => { guarded with world := agent.outside guarded.world event }

/-- A call of the controller. -/
def handle (call : DeviceCall) (guarded : Guarded W) : call.Answer × Guarded W :=
  ((agent.device.handle call guarded.world).1,
    { guarded with world := (agent.device.handle call guarded.world).2 })

/-- The agent before the first step: the controller has some rounds ahead of it. -/
def start (codec : Codec) (controller : RunningController W) (rounds : List ControllerEvent) :
    Pool DeviceCall.Answer Unit (RunningController Unit) (Guarded W) where
  world := { world := controller.actuator }
  progs _ := RunningController.roundsCalls codec agent.device.ticks rounds controller.mind

/-- The agent after a schedule. -/
def after (codec : Codec) (controller : RunningController W) (rounds : List ControllerEvent)
    (schedule : List (PoolEvent Unit (GuardEvent ε))) :
    Pool DeviceCall.Answer Unit (RunningController Unit) (Guarded W) :=
  Lib.run (Pool.step agent.handle agent.surroundings) (agent.start codec controller rounds) schedule

/-- The controller has done its rounds, and this is what has become of it. -/
def Done (pool : Pool DeviceCall.Answer Unit (RunningController Unit) (Guarded W))
    (controller : RunningController Unit) : Prop := pool.progs () = .ret controller

variable {agent} {codec : Codec} {controller : RunningController W} {rounds : List ControllerEvent}
  {allowed : DeviceCall → Prop}

/-! ### What the failsafe does -/

/-- An action of the failsafe leaves the GPUs alone, or writes the emergency cap to one that it has found
above the threshold. -/
theorem poll_cases (guarded : Guarded W) :
    ((agent.poll guarded).world = guarded.world ∧ (agent.poll guarded).tripCount = guarded.tripCount ∧
      ∀ i, (agent.poll guarded).phase = .trip i → guarded.phase = .poll i ∧ i < agent.gpuCount ∧
        agent.loop.trips (agent.device.handle (.getPowerDraw i) guarded.world).1 = true) ∨
    ∃ i : ℕ, guarded.phase = .trip i ∧ (agent.poll guarded).phase = .poll (i + 1) ∧
      (agent.poll guarded).world =
        (agent.device.handle (.setPowerCap i agent.loop.emergencyCap) guarded.world).2 := by
  unfold poll
  cases phase : guarded.phase with
  | stopped => exact .inl ⟨rfl, rfl, fun i tripping => (by rw [phase] at tripping; cases tripping)⟩
  | poll place =>
    refine .inl ?_
    by_cases inside : place < agent.gpuCount
    · simp only [inside, if_true]
      refine ⟨agent.device.readsDraw place guarded.world, trivial, fun i tripping => ?_⟩
      split at tripping
      · next trips =>
        cases tripping
        exact ⟨rfl, inside, trips⟩
      · cases tripping
    · simp only [inside, if_false]
      refine ⟨trivial, trivial, fun i tripping => ?_⟩
      split at tripping <;> cases tripping
  | trip place =>
    refine .inr ⟨place, rfl, ?_⟩
    dsimp only
    cases agent.device.handle (.setPowerCap place agent.loop.emergencyCap) guarded.world with
    | mk outcome world => cases outcome <;> exact ⟨rfl, rfl⟩

/-- A write that the actuator takes. -/
theorem poll_of_ok {guarded : Guarded W} {i : ℕ} {world : W} (tripping : guarded.phase = .trip i)
    (taken : agent.device.handle (.setPowerCap i agent.loop.emergencyCap) guarded.world =
      (.ok (), world)) :
    agent.poll guarded =
      { guarded with world := world, phase := .poll (i + 1), tripCount := guarded.tripCount + 1 } := by
  simp only [poll, tripping, taken]

/-- A write that raises. -/
theorem poll_of_error {guarded : Guarded W} {i : ℕ} {world : W} {exc : PyError}
    (tripping : guarded.phase = .trip i)
    (raised : agent.device.handle (.setPowerCap i agent.loop.emergencyCap) guarded.world =
      (.error exc, world)) :
    agent.poll guarded = { guarded with world := world, phase := .poll (i + 1) } := by
  simp only [poll, tripping, raised]

/-! ### Whole runs -/

/-- **What every party keeps, a run keeps.** -/
theorem invariant {inv : W → Prop}
    (makes : (RunningController.roundsCalls codec agent.device.ticks rounds controller.mind).Makes allowed)
    (kept : ∀ call, allowed call → ∀ world, inv world → inv (agent.device.handle call world).2)
    (emergency : ∀ (i : ℕ) world, inv world →
      inv (agent.device.handle (.setPowerCap i agent.loop.emergencyCap) world).2)
    (changes : ∀ world event, inv world → inv (agent.outside world event))
    (before : inv controller.actuator) (schedule : List (PoolEvent Unit (GuardEvent ε))) :
    inv (agent.after codec controller rounds schedule).world.world := by
  refine @Pool.invariant_of_makes _ _ _ _ _ _ _ allowed agent.handle agent.surroundings
    (fun guarded => inv guarded.world) _
    (fun call inside guarded holds => kept call inside guarded.world holds)
    (fun guarded event holds => ?_) (fun _ => makes) before schedule
  cases event with
  | stop => exact holds
  | outside event => exact changes guarded.world event holds
  | poll =>
    show inv (agent.poll guarded).world
    rcases @poll_cases W ε agent guarded with ⟨same, _⟩ | ⟨i, _, _, wrote⟩
    · rw [same]
      exact holds
    · rw [wrote]
      exact emergency i guarded.world holds

/-- **What is unseen changes nothing.** Where no party but the controller changes what the controller
sees of the GPUs, its rounds come to what they come to by themselves. -/
theorem unseen {V : Type} {view : W → V} {seen : (call : DeviceCall) → V → call.Answer × V}
    {inv : Guarded W → Prop}
    (makes : (RunningController.roundsCalls codec agent.device.ticks rounds controller.mind).Makes allowed)
    (sees : ∀ call, allowed call → ∀ guarded, inv guarded → seen call (view guarded.world) =
      ((agent.device.handle call guarded.world).1, view (agent.device.handle call guarded.world).2))
    (kept : ∀ call, allowed call → ∀ guarded, inv guarded → inv (agent.handle call guarded).2)
    (unchanged : ∀ guarded event, inv guarded →
      view (agent.surroundings guarded event).world = view guarded.world ∧
        inv (agent.surroundings guarded event))
    (before : inv { world := controller.actuator })
    (schedule : List (PoolEvent Unit (GuardEvent ε))) :
    inv (agent.after codec controller rounds schedule).world ∧
      ∀ last, Done (agent.after codec controller rounds schedule) last →
        (RunningController.roundsCalls codec agent.device.ticks rounds controller.mind).run seen
            (view controller.actuator) =
          (last, view (agent.after codec controller rounds schedule).world.world) := by
  refine ⟨Pool.invariant_of_makes kept (fun guarded event holds => (unchanged guarded event holds).2)
    (fun _ => makes) before schedule, fun last done => ?_⟩
  have comes := @Pool.run_view _ _ _ _ _ allowed V (fun guarded : Guarded W => view guarded.world) seen
    agent.handle agent.surroundings inv (agent.start codec controller rounds) sees
    (fun guarded event holds => (unchanged guarded event holds).1) kept
    (fun guarded event holds => (unchanged guarded event holds).2) makes before schedule
  have returned : (agent.after codec controller rounds schedule).progs () = .ret last := done
  unfold after at returned ⊢
  rw [returned] at comes
  exact comes.symm

end NodeAgent

end Opendps.Agent
