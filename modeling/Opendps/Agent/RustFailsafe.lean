/-
**The failsafe next to the endpoint.**

In the Rust agent the failsafe writes into the sink that the endpoint writes to, past its lock. Nothing
that a client meets depends on the caps, so the endpoint comes to what it comes to by itself
(`failsafe_spares_endpoint`), but for the caps of GPUs that draw more than the threshold. What holds of
an endpoint on its own holds of the default agent, whose GPUs draw 700 W.

The power source of the binary never changes, so a trip clears nothing: `trips_every_scan` counts them.
-/

import Opendps.Agent.RustProcess

namespace Opendps.Agent

open Opendps.Lib

variable {F : Type} {cli : AgentCli F} {process : AgentProcess F}

/-! ### What a command does, whatever the caps -/

/-- What comes of a command. -/
inductive CommandEffect (F : Type) where
  | ignored
  | answered
  | sets (gpu : ℕ) (watts : F)
  | panics

/-- What comes of a command on `n` GPUs. -/
def commandEffect (ops : FloatOps F) (n : ℕ) (poisoned : Bool) (cmd : Value F) : CommandEffect F :=
  match (cmd.index "cmd").asStr, poisoned with
  | some op, false =>
    if op = "set_cap" then
      match (cmd.index "gpu").asU64, (cmd.index "watts").asF64 ops with
      | some gpu, some watts => if gpu.toNat < n then .sets gpu.toNat watts else .panics
      | _, _ => .ignored
    else if op = "get_draws" ∨ op = "get_caps" then .answered
    else .ignored
  | _, _ => .ignored

/-- How a command ends that has this effect. -/
def CommandEffect.Of (backend : Mutex (SimIpcBackend F)) (ended : Dispatched F) :
    CommandEffect F → Prop
  | ignored => ended = .returned none backend
  | answered => ∃ response, ended = .returned (some response) backend
  | sets gpu watts => ∃ after, ended = .returned none ⟨after, false⟩ ∧
      after.draws = backend.value.draws ∧ after.lastCaps = backend.value.lastCaps.set gpu watts
  | panics => ended = .panicked ⟨backend.value, true⟩

/-- **The effect of a command does not depend on the caps.** -/
theorem of_commandEffect (ops : FloatOps F) (cmd : Value F) (backend : Mutex (SimIpcBackend F)) :
    (commandEffect ops backend.value.gpuCount backend.poisoned cmd).Of backend
      (dispatch ops cmd backend) := by
  obtain ⟨b, poisoned⟩ := backend
  unfold commandEffect dispatch
  cases (cmd.index "cmd").asStr with
  | none => exact rfl
  | some op =>
    cases poisoned with
    | true => exact rfl
    | false =>
      dsimp only [Mutex.lock]
      simp only [Bool.false_eq_true, if_false]
      by_cases setCap : op = "set_cap"
      · simp only [setCap, if_true]
        cases (cmd.index "gpu").asU64 with
        | none => exact rfl
        | some gpu =>
          cases (cmd.index "watts").asF64 ops with
          | none => exact rfl
          | some watts =>
            dsimp only
            by_cases inside : gpu.toNat < b.gpuCount
            · obtain ⟨after, stored, draws, caps⟩ := setCap_of_lt inside watts
              rw [if_pos inside, stored]
              exact ⟨after, rfl, draws, caps⟩
            · rw [if_neg inside, setCap_of_le (not_lt.mp inside) watts]
              exact rfl
      · simp only [setCap, if_false]
        by_cases getDraws : op = "get_draws"
        · obtain ⟨entries, collected, _⟩ := perGpu_of_known ops (getDraw_isSome b)
          simp only [getDraws, true_or, if_true, collected]
          exact ⟨_, rfl⟩
        · by_cases getCaps : op = "get_caps"
          · obtain ⟨entries, collected, _⟩ := perGpu_of_known ops (getCap_isSome b)
            simp only [getCaps, or_true, if_true, collected]
            exact ⟨_, rfl⟩
          · simp only [getDraws, getCaps, or_self, if_false]
            exact rfl

/-! ### Two endpoints with other caps -/

/-- Two endpoints that answer alike: they have the same draws, connections and lock. -/
structure SameService (first second : IpcServer F) : Prop where
  closed : first.closed = second.closed
  poisoned : first.backend.poisoned = second.backend.poisoned
  draws : first.backend.value.draws = second.backend.value.draws

/-- A read on either leaves them alike, and each cap as it was on both or the same on both. -/
theorem SameService.step (ops : FloatOps F) (fromStr : String → Option (Value F))
    {first second : IpcServer F} (same : SameService first second) (event : IpcEvent) :
    SameService (first.step ops fromStr event) (second.step ops fromStr event) ∧ ∀ gpu : ℕ,
      ((first.step ops fromStr event).backend.value.getCap gpu = first.backend.value.getCap gpu ∧
        (second.step ops fromStr event).backend.value.getCap gpu = second.backend.value.getCap gpu) ∨
      (first.step ops fromStr event).backend.value.getCap gpu =
        (second.step ops fromStr event).backend.value.getCap gpu := by
  obtain ⟨closed, poisoned, draws⟩ := same
  have heard : second.received fromStr event = first.received fromStr event := by
    simp only [IpcServer.received, closed]
  have count : second.backend.value.gpuCount = first.backend.value.gpuCount := by
    rw [SimIpcBackend.gpuCount, SimIpcBackend.gpuCount, draws]
  unfold IpcServer.step
  rw [heard]
  cases first.received fromStr event with
  | none =>
    cases event.read with
    | failed => exact ⟨⟨congrArg (event.connection :: ·) closed, poisoned, draws⟩, fun _ => .inl ⟨rfl, rfl⟩⟩
    | line text => exact ⟨⟨closed, poisoned, draws⟩, fun _ => .inl ⟨rfl, rfl⟩⟩
  | some cmd =>
    have onFirst := of_commandEffect ops cmd first.backend
    have onSecond := of_commandEffect ops cmd second.backend
    rw [count, ← poisoned] at onSecond
    cases effect : commandEffect ops first.backend.value.gpuCount first.backend.poisoned cmd with
    | ignored =>
      rw [effect] at onFirst onSecond
      dsimp only
      rw [show dispatch ops cmd first.backend = .returned none first.backend from onFirst,
        show dispatch ops cmd second.backend = .returned none second.backend from onSecond]
      exact ⟨⟨closed, poisoned, draws⟩, fun _ => .inl ⟨rfl, rfl⟩⟩
    | answered =>
      rw [effect] at onFirst onSecond
      obtain ⟨response, answered⟩ := onFirst
      obtain ⟨other, answeredToo⟩ := onSecond
      dsimp only
      rw [answered, answeredToo]
      dsimp only
      by_cases writable : event.writable = true
      · rw [if_pos writable, if_pos writable]
        exact ⟨⟨closed, poisoned, draws⟩, fun _ => .inl ⟨rfl, rfl⟩⟩
      · rw [if_neg writable, if_neg writable]
        exact ⟨⟨congrArg (event.connection :: ·) closed, poisoned, draws⟩, fun _ => .inl ⟨rfl, rfl⟩⟩
    | sets gpu watts =>
      rw [effect] at onFirst onSecond
      obtain ⟨after, ended, sameDraws, caps⟩ := onFirst
      obtain ⟨afterToo, endedToo, sameDrawsToo, capsToo⟩ := onSecond
      dsimp only
      rw [ended, endedToo]
      refine ⟨⟨closed, rfl, sameDraws.trans (draws.trans sameDrawsToo.symm)⟩, fun place => ?_⟩
      show (after.getCap place = _ ∧ afterToo.getCap place = _) ∨ after.getCap place = afterToo.getCap place
      unfold SimIpcBackend.getCap
      rw [caps, capsToo]
      by_cases here : gpu = place
      · refine .inr ?_
        subst here
        rw [List.getElem?_set_self', List.getElem?_set_self']
        have sizes : first.backend.value.lastCaps.length = second.backend.value.lastCaps.length := by
          rw [first.backend.value.aligned, second.backend.value.aligned, draws]
        by_cases inside : gpu < first.backend.value.lastCaps.length
        · rw [List.getElem?_eq_getElem inside, List.getElem?_eq_getElem (sizes ▸ inside)]
          rfl
        · rw [List.getElem?_eq_none (not_lt.mp inside), List.getElem?_eq_none (sizes ▸ not_lt.mp inside)]
      · rw [List.getElem?_set_ne here, List.getElem?_set_ne here]
        exact .inl ⟨rfl, rfl⟩
    | panics =>
      rw [effect] at onFirst onSecond
      dsimp only
      rw [show dispatch ops cmd first.backend = .panicked ⟨first.backend.value, true⟩ from onFirst,
        show dispatch ops cmd second.backend = .panicked ⟨second.backend.value, true⟩ from onSecond]
      exact ⟨⟨congrArg (event.connection :: ·) closed, rfl, draws⟩, fun _ => .inl ⟨rfl, rfl⟩⟩

/-! ### The failsafe -/

/-- Two moments of a process between which neither the endpoint nor the failsafe has moved. -/
structure SameGuard (process next : AgentProcess F) : Prop where
  endpoint : next.endpoint = process.endpoint
  failsafe : next.failsafe = process.failsafe
  trips : next.trips = process.trips

/-- The brain task touches its own place and the metrics only. -/
theorem TaskStep.sameGuard {next : AgentProcess F} (step : TaskStep cli process next) :
    SameGuard process next := by
  cases step <;> exact ⟨rfl, rfl, rfl⟩

/-- So does the metrics server. -/
theorem ServerStep.sameGuard {next : AgentProcess F} {counters : String}
    (step : ServerStep cli process counters next) : SameGuard process next := by
  cases step <;> exact ⟨rfl, rfl, rfl⟩

/-- Whether a GPU draws more than the threshold. -/
def AgentCli.Over (cli : AgentCli F) (gpu : ℕ) : Prop :=
  ∃ draw, cli.backend.getDraw gpu = some draw ∧ cli.overloaded draw = true

/-- The failsafe writes to GPUs above the threshold only. -/
theorem over_of_trip (cli : AgentCli F) (schedule : List ProcessEvent) :
    ∀ gpu, (cli.after schedule).failsafe = .trip gpu → cli.Over gpu := by
  induction schedule using List.reverseRecOn with
  | nil => exact fun gpu tripping => (by cases tripping)
  | append_singleton past event ih =>
    have works : Works cli (cli.after past) := works_after past
    rw [show cli.after (past ++ [event]) = cli.step (cli.after past) event from
      run_append_singleton past event]
    intro gpu tripping
    cases event with
    | client event => exact ih gpu tripping
    | stop => exact ih gpu tripping
    | failsafe =>
      change (cli.pollFailsafe (cli.after past)).failsafe = .trip gpu at tripping
      rcases works.pollFailsafe_cases with ⟨phase, same, trips, _⟩ | ⟨place, backend, _, _, _, _, same⟩
      · rw [same] at tripping
        exact trips gpu tripping
      · rw [same] at tripping
        cases tripping
    | brain =>
      have same : SameGuard (cli.after past) (cli.stepBrain (cli.after past)) := works.stepBrain.sameGuard
      exact ih gpu (same.failsafe.symm.trans tripping)
    | server accepted counters =>
      have same : SameGuard (cli.after past) (cli.stepServer (cli.after past) accepted counters) :=
        (works.stepServer accepted counters).sameGuard
      exact ih gpu (same.failsafe.symm.trans tripping)

/-- The reads of the endpoint in a schedule. -/
def clients (schedule : List ProcessEvent) : List IpcEvent :=
  schedule.filterMap fun event => match event with
    | .client event => some event
    | _ => none

/-- An endpoint in the agent, and one by itself. -/
structure Beside (cli : AgentCli F) (process : AgentProcess F) (alone : IpcServer F) : Prop where
  service : SameService process.endpoint alone
  caps : ∀ gpu, process.endpoint.backend.value.getCap gpu = alone.backend.value.getCap gpu ∨
    (process.endpoint.backend.value.getCap gpu = some cli.emergencyCap ∧ cli.Over gpu ∧ 0 < process.trips)

theorem Beside.of_same {alone : IpcServer F} {next : AgentProcess F} (beside : Beside cli process alone)
    (endpoint : next.endpoint = process.endpoint) (trips : next.trips = process.trips) :
    Beside cli next alone where
  service := endpoint ▸ beside.service
  caps gpu := by
    rw [endpoint, trips]
    exact beside.caps gpu

theorem Beside.of_sameGuard {alone : IpcServer F} {next : AgentProcess F}
    (beside : Beside cli process alone) (same : SameGuard process next) : Beside cli next alone :=
  beside.of_same same.endpoint same.trips

theorem beside_after (cli : AgentCli F) (schedule : List ProcessEvent) :
    Beside cli (cli.after schedule)
      (IpcServer.after cli.ops cli.fromStr cli.backend (clients schedule)) := by
  induction schedule using List.reverseRecOn with
  | nil => exact ⟨⟨rfl, rfl, rfl⟩, fun _ => .inl rfl⟩
  | append_singleton past event ih =>
    have works : Works cli (cli.after past) := works_after past
    have split : clients (past ++ [event]) = clients past ++ clients [event] := List.filterMap_append
    rw [show cli.after (past ++ [event]) = cli.step (cli.after past) event from
      run_append_singleton past event, split]
    cases event with
    | client event =>
      have next :
          IpcServer.after cli.ops cli.fromStr cli.backend (clients past ++ clients [.client event]) =
          (IpcServer.after cli.ops cli.fromStr cli.backend (clients past)).step cli.ops cli.fromStr event :=
        run_append_singleton (clients past) event
      obtain ⟨service, caps⟩ := ih.service.step cli.ops cli.fromStr event
      rw [next]
      refine ⟨service, fun gpu => ?_⟩
      rcases caps gpu with ⟨unchanged, unchangedToo⟩ | same
      · show (((cli.after past).endpoint.step cli.ops cli.fromStr event).backend.value.getCap gpu = _) ∨
          (((cli.after past).endpoint.step cli.ops cli.fromStr event).backend.value.getCap gpu = _ ∧ _)
        rw [unchanged, unchangedToo]
        exact ih.caps gpu
      · exact .inl same
    | stop =>
      rw [show clients past ++ clients [.stop] = clients past from List.append_nil _]
      exact ih.of_same rfl rfl
    | brain =>
      rw [show clients past ++ clients [.brain] = clients past from List.append_nil _]
      exact ih.of_sameGuard works.stepBrain.sameGuard
    | server accepted counters =>
      rw [show clients past ++ clients [.server accepted counters] = clients past from List.append_nil _]
      exact ih.of_sameGuard (works.stepServer accepted counters).sameGuard
    | failsafe =>
      rw [show clients past ++ clients [.failsafe] = clients past from List.append_nil _]
      show Beside cli (cli.pollFailsafe (cli.after past)) _
      rcases works.pollFailsafe_cases with
        ⟨phase, same, _⟩ | ⟨place, backend, tripping, _, draws, caps, same⟩
      · rw [same]
        exact ih.of_same rfl rfl
      · rw [same]
        refine ⟨⟨ih.service.closed, ih.service.poisoned, draws.trans ih.service.draws⟩, fun gpu => ?_⟩
        show backend.getCap gpu = _ ∨ (backend.getCap gpu = _ ∧ _ ∧ 0 < (cli.after past).trips + 1)
        by_cases here : place = gpu
        · subst here
          have inside : place < (cli.after past).endpoint.backend.value.lastCaps.length := by
            rw [(cli.after past).endpoint.backend.value.aligned, works.draws]
            exact works.tripping place tripping
          refine .inr ⟨?_, over_of_trip cli past place tripping, Nat.succ_pos _⟩
          rw [SimIpcBackend.getCap, caps, List.getElem?_set_self inside]
        · have unchanged : backend.getCap gpu = (cli.after past).endpoint.backend.value.getCap gpu := by
            rw [SimIpcBackend.getCap, caps, List.getElem?_set_ne here]
            rfl
          rw [unchanged]
          rcases ih.caps gpu with same | ⟨emergency, overload, _⟩
          · exact .inl same
          · exact .inr ⟨emergency, overload, Nat.succ_pos _⟩

/-- **The failsafe spares the endpoint.** In every order of the steps of all threads: the endpoint has
closed the connections and is usable as if it were by itself, and every GPU has the cap it would have
then, or the emergency cap, if it draws more than the threshold and the failsafe has tripped. -/
theorem failsafe_spares_endpoint (cli : AgentCli F) (schedule : List ProcessEvent) :
    let process := cli.after schedule
    let alone := IpcServer.after cli.ops cli.fromStr cli.backend (clients schedule)
    process.endpoint.closed = alone.closed ∧
      process.endpoint.backend.poisoned = alone.backend.poisoned ∧
      ∀ gpu, process.endpoint.backend.value.getCap gpu = alone.backend.value.getCap gpu ∨
        (process.endpoint.backend.value.getCap gpu = some cli.emergencyCap ∧ cli.Over gpu ∧
          0 < process.trips) := by
  intro process alone
  have beside := beside_after cli schedule
  exact ⟨beside.service.closed, beside.service.poisoned, beside.caps⟩

/-! ### How often it trips -/

/-- How far the failsafe is in its scan. -/
def Phase.scanned : Phase → ℕ
  | poll gpu => gpu
  | trip gpu => gpu
  | stopped => 0

/-- Whether an action ends a scan. -/
def AgentProcess.ended (process : AgentProcess F) : ProcessEvent → ℕ
  | .failsafe =>
    match process.failsafe with
    | .poll gpu => if (process.endpoint.backend.value.getDraw gpu).isNone then 1 else 0
    | _ => 0
  | _ => 0

/-- One more GPU. -/
theorem countP_take_succ {draws : List F} {gpu : ℕ} {draw : F} (here : draws[gpu]? = some draw)
    (overloaded : F → Bool) : (draws.take (gpu + 1)).countP overloaded =
      (draws.take gpu).countP overloaded + if overloaded draw then 1 else 0 := by
  rw [List.take_add_one, here, Option.toList_some, List.countP_append, List.countP_singleton]

/-- **It trips in every scan.** The trips are those of the scans that have ended, one each for every GPU
above the threshold, and of the GPUs so far in this one. -/
theorem trips_every_scan (cli : AgentCli F) (schedule : List ProcessEvent) :
    (cli.after schedule).trips =
      cost cli.step AgentProcess.ended cli.start schedule * cli.backend.draws.countP cli.overloaded +
        (cli.backend.draws.take (cli.after schedule).failsafe.scanned).countP cli.overloaded := by
  induction schedule using List.reverseRecOn with
  | nil => simp [cost, AgentCli.after, AgentCli.start, Phase.scanned]
  | append_singleton past event ih =>
    have works : Works cli (cli.after past) := works_after past
    have overload := over_of_trip cli past
    rw [cost_append_singleton, show cli.after (past ++ [event]) = cli.step (cli.after past) event from
      run_append_singleton past event]
    change _ = (_ + (cli.after past).ended event) * _ + _
    cases event with
    | client event => exact ih
    | stop => exact ih
    | brain =>
      have same : SameGuard (cli.after past) (cli.stepBrain (cli.after past)) := works.stepBrain.sameGuard
      show (cli.stepBrain (cli.after past)).trips = _
      rw [show cli.step (cli.after past) .brain = cli.stepBrain (cli.after past) from rfl, same.failsafe,
        same.trips]
      exact ih
    | server accepted counters =>
      have same : SameGuard (cli.after past) (cli.stepServer (cli.after past) accepted counters) :=
        (works.stepServer accepted counters).sameGuard
      rw [show cli.step (cli.after past) (.server accepted counters) =
        cli.stepServer (cli.after past) accepted counters from rfl, same.failsafe, same.trips]
      exact ih
    | failsafe =>
      rw [show cli.step (cli.after past) .failsafe = cli.pollFailsafe (cli.after past) from rfl]
      cases phase : (cli.after past).failsafe with
      | poll gpu =>
        rw [phase] at ih
        cases drawn : cli.backend.getDraw gpu with
        | some draw =>
          have here : (cli.after past).endpoint.backend.value.getDraw gpu = some draw :=
            (works.getDraw gpu).trans drawn
          simp only [AgentCli.pollFailsafe, AgentProcess.ended, phase, here,
            Option.isNone_some, Bool.false_eq_true, if_false, Nat.add_zero, ih]
          by_cases trips : cli.overloaded draw = true
          · rw [if_pos trips]
            rfl
          · rw [if_neg trips]
            show _ = _ + (cli.backend.draws.take (gpu + 1)).countP cli.overloaded
            rw [countP_take_succ drawn, if_neg trips]
            rfl
        | none =>
          have here : (cli.after past).endpoint.backend.value.getDraw gpu = none :=
            (works.getDraw gpu).trans drawn
          have all : cli.backend.draws.take gpu = cli.backend.draws :=
            List.take_of_length_le (List.getElem?_eq_none_iff.mp drawn)
          simp only [AgentCli.pollFailsafe, AgentProcess.ended, phase, here, Option.isNone_none, if_true, ih]
          have start : (if (cli.after past).stopping then Phase.stopped else .poll 0).scanned = 0 := by
            split <;> rfl
          rw [start, List.take_zero, List.countP_nil]
          show _ + (cli.backend.draws.take gpu).countP cli.overloaded = _
          rw [all, Nat.add_mul, Nat.one_mul, Nat.add_zero]
      | trip gpu =>
        rw [phase] at ih
        obtain ⟨draw, drawn, trips⟩ := overload gpu phase
        obtain ⟨backend, stored, _⟩ := works.setCap (works.tripping gpu phase)
        simp only [AgentCli.pollFailsafe, AgentCli.setCap, AgentProcess.ended, phase, stored,
          Nat.add_zero, ih]
        show _ + 1 = _ + (cli.backend.draws.take (gpu + 1)).countP cli.overloaded
        rw [countP_take_succ drawn, if_pos trips]
        rfl
      | stopped =>
        rw [phase] at ih
        simp only [AgentCli.pollFailsafe, AgentProcess.ended, phase, Nat.add_zero, ih]

end Opendps.Agent
