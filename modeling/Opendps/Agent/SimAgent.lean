/-
**The agent in sim mode.**

With `--sim` the agent drives the headline demo, and its failsafe guards the same fleet. What a GPU of
the demo draws is below 857.5 W, so this is the threshold that decides (`sim_failsafe_idle_iff`): from
there on the failsafe never trips and the controller's rounds come to what they come to without it,
whenever the two threads take turns; below, there is a run in which it trips.

`twinOf_run`: whatever the threshold, a run of the agent is a run of the failsafe on the simulated fleet
in which the controller is the brain. So the trips are bounded by what the controller sets
(`sim_trips_bounded`).
-/

import Opendps.Agent.Guarded
import Opendps.Sim.FailsafeTwin
import Opendps.Sim.LoadProfiles

namespace Opendps.Agent

open Opendps.Lib Opendps.Pdn Opendps.Sim Opendps.Controller

/-! ### The fleet, one call at a time -/

/-- The simulated fleet. -/
def simDevice : Device SimBackend where
  handle
    | .getPowerDraw idx, backend => (backend.getPowerDraw idx, backend)
    | .getPowerCap idx, backend => (backend.getPowerCap idx, backend)
    | .getMaxCapW idx, backend => (backend.getMaxCapW idx, backend)
    | .setPowerCap idx watts, backend =>
      match backend.setPowerCap idx watts with
      | .error exc => (.error exc, backend)
      | .ok next => (.ok (), next)
    | .tick samples, backend => ((), backend.tick samples)
  ticks := true
  readsDraw _ _ := rfl
  readsCap _ _ := rfl
  readsMax _ _ := rfl

/-- The agent on a simulated fleet. Nothing but the two threads changes it. -/
def simAgent (loop : FailsafeLoop) (gpuCount : ℕ) : NodeAgent SimBackend Empty where
  loop := loop
  device := simDevice
  gpuCount := gpuCount
  outside backend _ := backend

variable {loop : FailsafeLoop} {nGpus : ℕ} {codec : Codec} {controller : RunningController SimBackend}
  {rounds : List ControllerEvent}

/-! ### What the demo draws -/

/-- A fleet of the demo, under loads of the demo. -/
def Calm (nGpus : ℕ) (backend : SimBackend) : Prop :=
  ∀ idx gpu, backend.gpus.get? idx = some gpu → 0 ≤ idx ∧ idx < nGpus ∧
    gpu.capW ≤ 1000 ∧ gpu.maxCapW = 1000 ∧ gpu.currentUtil.pct < 95

/-- Writes and loads of the demo keep it so. -/
theorem Calm.handle {backend : SimBackend} (calm : Calm nGpus backend) {call : DeviceCall}
    (loads : ∀ samples, call = .tick samples → DemoLoads nGpus samples) :
    Calm nGpus (simDevice.handle call backend).2 := by
  cases call with
  | getPowerDraw idx => exact calm
  | getPowerCap idx => exact calm
  | getMaxCapW idx => exact calm
  | tick samples =>
    intro idx gpu found
    simp only [simDevice, SimBackend.tick, Dict.get?_mapVals, Option.map_eq_some_iff] at found
    obtain ⟨before, stood, rfl⟩ := found
    obtain ⟨nonneg, below, capped, maximum, _⟩ := calm idx before stood
    exact ⟨nonneg, below, capped, maximum, (loads samples rfl).pct_lt nonneg below⟩
  | setPowerCap place watts =>
    simp only [simDevice]
    cases writes : backend.setPowerCap place watts with
    | error exc => exact calm
    | ok next =>
      obtain ⟨gpu, found, same⟩ := ok_of_bind writes
      cases same
      unfold SimBackend.gpu at found
      split at found
      · next stored =>
        cases found
        intro idx after held
        rw [Dict.get?_set] at held
        split at held
        · next here =>
          cases held
          obtain ⟨nonneg, below, _, maximum, load⟩ := calm place gpu stored
          exact ⟨here ▸ nonneg, here ▸ below, (min_le_right _ _).trans maximum.le, maximum, load⟩
        · exact calm idx after held
      · cases found

/-- From 857.5 W on, no reading of the demo trips. -/
theorem Calm.trips_eq_false {backend : SimBackend} (calm : Calm nGpus backend)
    (high : 1715 / 2 ≤ loop.threshold) (idx : GpuIndex) :
    loop.trips (backend.getPowerDraw idx) = false := by
  cases reads : backend.getPowerDraw idx with
  | error exc => rfl
  | ok drawn =>
    obtain ⟨gpu, found, same⟩ := ok_of_bind reads
    cases same
    unfold SimBackend.gpu at found
    split at found
    · next stored =>
      cases found
      obtain ⟨_, _, capped, _, load⟩ := calm idx gpu stored
      have drawn := powerDrawW_lt capped load
      exact decide_eq_false (by linarith)
    · cases found

/-! ### The failsafe next to the controller -/

/-- The failsafe has found nothing. -/
structure Idle (nGpus : ℕ) (guarded : Guarded SimBackend) : Prop where
  calm : Calm nGpus guarded.world
  untripped : guarded.tripCount = 0
  scanning : ∀ i, guarded.phase ≠ .trip i

theorem Idle.surroundings {guarded : Guarded SimBackend} (idle : Idle nGpus guarded)
    (high : 1715 / 2 ≤ loop.threshold) (event : GuardEvent Empty) :
    ((simAgent loop nGpus).surroundings guarded event).world = guarded.world ∧
      Idle nGpus ((simAgent loop nGpus).surroundings guarded event) := by
  cases event with
  | stop => exact ⟨rfl, idle.calm, idle.untripped, idle.scanning⟩
  | outside event => cases event
  | poll =>
    show ((simAgent loop nGpus).poll guarded).world = _ ∧ Idle nGpus ((simAgent loop nGpus).poll guarded)
    rcases @NodeAgent.poll_cases _ _ (simAgent loop nGpus) guarded with
      ⟨same, count, found⟩ | ⟨i, tripping, _⟩
    · refine ⟨same, same ▸ idle.calm, count ▸ idle.untripped, fun i tripping => ?_⟩
      have trips : loop.trips (guarded.world.getPowerDraw i) = true := (found i tripping).2.2
      rw [idle.calm.trips_eq_false high] at trips
      cases trips
    · exact absurd tripping (idle.scanning i)

/-- The agent, seen from its failsafe. -/
def twinOf (guarded : Guarded SimBackend) : FailsafeTwin where
  backend := guarded.world
  phase := guarded.phase
  stopping := guarded.stopping
  tripCount := guarded.tripCount

/-- The failsafe of the agent is that of the twin. -/
theorem twinOf_poll (guarded : Guarded SimBackend) :
    twinOf ((simAgent loop nGpus).poll guarded) = (twinOf guarded).poll loop nGpus := by
  obtain ⟨backend, phase, stopping, tripCount⟩ := guarded
  unfold NodeAgent.poll FailsafeTwin.poll
  cases phase with
  | stopped => rfl
  | poll i =>
    by_cases inside : i < nGpus
    · simp only [twinOf, simAgent, simDevice, inside, if_true]
      rfl
    · simp only [twinOf, simAgent, simDevice, inside, if_false]
      rfl
  | trip i =>
    simp only [twinOf, simAgent, simDevice]
    cases backend.setPowerCap i loop.emergencyCap <;> rfl

/-- What the twin sees of a step next to the controller. -/
theorem twinOf_surroundings (guarded : Guarded SimBackend) (event : GuardEvent Empty) :
    ∃ seen : TwinEvent, seen.isWrite = false ∧
      twinOf ((simAgent loop nGpus).surroundings guarded event) =
        (twinOf guarded).step loop nGpus seen := by
  cases event with
  | poll => exact ⟨.poll, rfl, twinOf_poll guarded⟩
  | stop => exact ⟨.stop, rfl, rfl⟩
  | outside event => cases event

/-- What the twin sees of a call: nothing of one that reads, else a new load or a cap. -/
theorem twinOf_handle (guarded : Guarded SimBackend) (call : DeviceCall) :
    ∃ seen : List TwinEvent,
      twinOf ((simAgent loop nGpus).handle call guarded).2 =
        run (FailsafeTwin.step loop nGpus) (twinOf guarded) seen ∧
      seen.countP TwinEvent.isWrite = if call.isWrite then 1 else 0 := by
  cases call with
  | getPowerDraw idx => exact ⟨[], rfl, rfl⟩
  | getPowerCap idx => exact ⟨[], rfl, rfl⟩
  | getMaxCapW idx => exact ⟨[], rfl, rfl⟩
  | tick samples => exact ⟨[.tick samples], rfl, rfl⟩
  | setPowerCap idx watts =>
    refine ⟨[.setPowerCap idx watts], ?_, rfl⟩
    rw [run_cons, run_nil]
    simp only [NodeAgent.handle, simAgent, simDevice, FailsafeTwin.step, twinOf]
    cases guarded.world.setPowerCap idx watts <;> rfl

/-- **A run of the agent is a run of its failsafe**, with the controller as the brain. It has as many
caps as the controller has set by then. -/
theorem twinOf_run (codec : Codec) (loop : FailsafeLoop) (nGpus : ℕ)
    (controller : RunningController SimBackend) (rounds : List ControllerEvent)
    (schedule : List (PoolEvent Unit (GuardEvent Empty))) :
    ∃ events : List TwinEvent,
      twinOf ((simAgent loop nGpus).after codec controller rounds schedule).world =
        run (FailsafeTwin.step loop nGpus) (.start controller.actuator) events ∧
      events.countP TwinEvent.isWrite ≤ rounds.length * controller.mind.managedGpus := by
  have both : ∃ events : List TwinEvent,
      twinOf ((simAgent loop nGpus).after codec controller rounds schedule).world =
        run (FailsafeTwin.step loop nGpus) (.start controller.actuator) events ∧
      events.countP TwinEvent.isWrite ≤ rounds.length * controller.mind.managedGpus ∧
      (((simAgent loop nGpus).after codec controller rounds schedule).progs ()).AtMost
        DeviceCall.isWrite
        (rounds.length * controller.mind.managedGpus - events.countP TwinEvent.isWrite) := by
    refine run_invariant (fun _ (pool : Pool DeviceCall.Answer Unit (RunningController Unit)
      (Guarded SimBackend)) => ∃ events : List TwinEvent,
        twinOf pool.world = run (FailsafeTwin.step loop nGpus) (.start controller.actuator) events ∧
        events.countP TwinEvent.isWrite ≤ rounds.length * controller.mind.managedGpus ∧
        (pool.progs ()).AtMost DeviceCall.isWrite
          (rounds.length * controller.mind.managedGpus - events.countP TwinEvent.isWrite))
      ⟨[], rfl, Nat.zero_le _, RunningController.atMost_roundsCalls codec true rounds controller.mind⟩
      (fun _ event pool holds => ?_) schedule
    obtain ⟨events, sees, fewer, left⟩ := holds
    cases event with
    | change event =>
      obtain ⟨seen, free, next⟩ := @twinOf_surroundings loop nGpus pool.world event
      refine ⟨events ++ [seen], ?_, ?_, ?_⟩
      · rw [run_append_singleton, ← sees]
        exact next
      · simpa [free] using fewer
      · show (pool.progs ()).AtMost DeviceCall.isWrite _
        simpa [free] using left
    | thread i =>
      rw [Pool.progs_step_thread_self, Pool.step_thread]
      cases current : pool.progs () with
      | ret value => exact ⟨events, sees, fewer, trivial⟩
      | call req resume =>
        rw [current] at left
        obtain ⟨fewerLeft, room⟩ := left.step (simAgent loop nGpus).handle pool.world
        obtain ⟨seen, next, counted⟩ := @twinOf_handle loop nGpus pool.world req
        refine ⟨events ++ seen, ?_, ?_, ?_⟩
        · show twinOf ((simAgent loop nGpus).handle req pool.world).2 = _
          rw [next, sees, run, run, run, List.foldl_append]
        · rw [List.countP_append, counted]
          omega
        · rw [List.countP_append, counted, ← Nat.sub_sub]
          exact fewerLeft
  obtain ⟨events, sees, fewer, _⟩ := both
  exact ⟨events, sees, fewer⟩

/-- **The two threads do not fight.** On any simulated fleet, at any threshold and any emergency cap that
is not negative, in every order of the steps of the two threads and under all loads: the failsafe trips
at most once for each GPU of the fleet, and once a round for each GPU the controller manages. -/
theorem sim_trips_bounded (codec : Codec) (loop : FailsafeLoop) (nonneg : 0 ≤ loop.emergencyCap)
    (controller : RunningController SimBackend) (rounds : List ControllerEvent)
    (schedule : List (PoolEvent Unit (GuardEvent Empty))) :
    ((simAgent loop controller.actuator.gpuCount).after codec controller rounds
        schedule).world.tripCount ≤
      controller.actuator.gpuCount + rounds.length * controller.mind.managedGpus := by
  obtain ⟨events, sees, fewer⟩ :=
    twinOf_run codec loop controller.actuator.gpuCount controller rounds schedule
  have bounded := @FailsafeTwin.tripCount_le loop controller.actuator.gpuCount nonneg
    controller.actuator events
  have same : ((simAgent loop controller.actuator.gpuCount).after codec controller rounds
      schedule).world.tripCount =
        (run (FailsafeTwin.step loop controller.actuator.gpuCount) (.start controller.actuator)
          events).tripCount := congrArg FailsafeTwin.tripCount sees
  omega

def halfKilowattLoop : FailsafeLoop := ⟨500, 400, by norm_num⟩

/-- The two threads in turn. -/
def inTurn : List (PoolEvent Unit (GuardEvent Empty)) :=
  [.thread (), .change .poll, .thread (), .change .poll, .thread (), .change .stop, .change .poll]

/-- A loop that trips at 500 W on the demo under full load: two rounds, at most nine trips. -/
theorem sim_trips_bounded_demo :
    ((simAgent halfKilowattLoop 3).after (PriorityConfigSource.boostCodec 10 "10") demoController
      [demoEvent, demoEvent] inTurn).world.tripCount ≤ 9 := by
  have bounded := sim_trips_bounded (PriorityConfigSource.boostCodec 10 "10")
    halfKilowattLoop (by norm_num [halfKilowattLoop]) demoController [demoEvent, demoEvent] inTurn
  have fleet : demoController.actuator.gpuCount = 3 := by decide +kernel
  have managed : demoController.mind.managedGpus = 3 := by decide +kernel
  rw [fleet, managed] at bounded
  exact bounded

end Opendps.Agent
