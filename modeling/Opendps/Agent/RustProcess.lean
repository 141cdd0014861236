/-
**The agent in Rust, all its threads.**

In sim mode the binary has a power source that never changes, a sink of caps, the failsafe, the threads
of the IPC endpoint, a task that copies draws and caps into the metrics every second, and a server that
renders the metrics for each connection. The task and the server lock the draws and then the caps.
`AgentProcess` is all of it; a step is one of a thread, and every access to an atomic of the sink takes
effect at once.

`TaskStep` and `ServerStep` say once what a step of the two can do. `Works` is what every step of every
thread keeps: whatever clients send to the endpoint, neither the failsafe nor the task nor the server
panics.

The counters are read without any order between the threads, so what they render to is an input, as is
how Rust shows an `f64`. `trips` and `callCount` are natural numbers; the source counts in an
`AtomicU64`, which starts again after `2^64`.
-/

import Opendps.Agent.Failsafe
import Opendps.Agent.Ipc
import Opendps.Lib.Locks

namespace Opendps.Agent

open Opendps.Lib

/-! ### The metrics -/

/-- Who locks the metrics. -/
inductive Party where
  | brain
  | server
  deriving DecidableEq

/-- The metrics, but for the counters: the draws behind the outer lock, the caps behind the inner one. -/
abbrev AgentMetrics (F : Type) := TwoLocks Party (List F) (List F)

variable {F : Type}

def AgentMetrics.new (zero : F) (nGpus : ℕ) : AgentMetrics F where
  outer := { value := List.replicate nGpus zero }
  inner := { value := List.replicate nGpus zero }

/-- A line of the metrics. -/
def gaugeLine (name : String) (gpu : ℕ) (value : String) : String :=
  name ++ "\x7bgpu=\"" ++ toString gpu ++ "\"\x7d " ++ value ++ "\n"

/-- The two lines of a GPU. -/
def gpuLines (display : F → String) (gpu : ℕ) (row : F × F) : String :=
  gaugeLine "opendps_agent_power_draw_watts" gpu (display row.1) ++
    gaugeLine "opendps_agent_power_cap_watts" gpu (display row.2)

/-- What `render` appends for a GPU. An index outside of a vector panics. -/
def renderGpu (display : F → String) (gpu : ℕ) (draws caps : List F) (out : String) :
    Option (List F × List F × String) :=
  match draws[gpu]?, caps[gpu]? with
  | some draw, some cap => some (draws, caps, out ++ gpuLines display gpu (draw, cap))
  | _, _ => none

/-- What the task does for a GPU. -/
def copyGpu (backend : SimIpcBackend F) (gpu : ℕ) (draws caps : List F) (_ : Unit) :
    Option (List F × List F × Unit) :=
  match backend.getDraw gpu, backend.getCap gpu with
  | some draw, some cap =>
    if gpu < draws.length ∧ gpu < caps.length then some (draws.set gpu draw, caps.set gpu cap, ())
    else none
  | _, _ => none

/-- A response with a body. -/
def httpResponse (body : String) : String :=
  "HTTP/1.1 200 OK\r\nContent-Type: text/plain; version=0.0.4\r\nContent-Length: " ++
    toString body.utf8ByteSize ++ "\r\nConnection: close\r\n\r\n" ++ body

/-! ### The process -/

/-- Where the metrics server is: it waits for a connection, renders what it has begun with the counters,
writes a body, or has ended because it could not accept. -/
inductive MetricsServer where
  | accepting
  | rendering (place : Section) (out : String)
  | writing (body : String)
  | ended

/-- Where the server stands to the metrics. -/
def MetricsServer.place : MetricsServer → Section
  | rendering place _ => place
  | _ => .done

structure AgentProcess (F : Type) where
  endpoint : IpcServer F
  failsafe : Phase := .poll 0
  stopping : Bool := false
  trips : ℕ := 0
  metrics : AgentMetrics F
  brain : Section := .done
  server : MetricsServer := .accepting
  responses : List String := []

/-- What happens next: a read of the endpoint, an action of the failsafe, a step of the task (first its
interval ticks), one of the server with what it meets, or the failsafe is told to stop. -/
inductive ProcessEvent where
  | client (event : IpcEvent)
  | failsafe
  | brain
  | server (accepted : Bool) (counters : String)
  | stop

/-- What the binary is started with, and what it takes from its surroundings. -/
structure AgentCli (F : Type) where
  ops : FloatOps F
  fromStr : String → Option (Value F)
  display : F → String
  overloaded : F → Bool
  emergencyCap : F
  backend : SimIpcBackend F

namespace AgentCli

variable (cli : AgentCli F)

def nGpus : ℕ := cli.backend.gpuCount

def start : AgentProcess F where
  endpoint := { backend := ⟨cli.backend, false⟩ }
  metrics := .new (cli.ops.ofU64 0) cli.nGpus

/-- A cap of the failsafe. It goes to the sink past the lock of the endpoint. -/
def setCap (process : AgentProcess F) (gpu : ℕ) : AgentProcess F :=
  match process.endpoint.backend.value.setCap gpu cli.emergencyCap with
  | none => { process with failsafe := .stopped }
  | some backend =>
    { process with
      endpoint := { process.endpoint with backend := { process.endpoint.backend with value := backend } }
      failsafe := .poll (gpu + 1)
      trips := process.trips + 1 }

/-- The next action of the failsafe. -/
def pollFailsafe (process : AgentProcess F) : AgentProcess F :=
  match process.failsafe with
  | .stopped => process
  | .trip gpu => cli.setCap process gpu
  | .poll gpu =>
    match process.endpoint.backend.value.getDraw gpu with
    | some draw => { process with failsafe := if cli.overloaded draw then .trip gpu else .poll (gpu + 1) }
    | none => { process with failsafe := if process.stopping then .stopped else .poll 0 }

/-- The next step of the task. -/
def stepBrain (process : AgentProcess F) : AgentProcess F :=
  match process.brain with
  | .done => { process with brain := .wants }
  | place =>
    let (next, metrics, _) := process.metrics.advance .brain cli.nGpus
      (copyGpu process.endpoint.backend.value) () place
    { process with brain := next, metrics := metrics }

/-- The next step of the server. -/
def stepServer (process : AgentProcess F) (accepted : Bool) (counters : String) : AgentProcess F :=
  match process.server with
  | .accepting =>
    { process with server := if accepted then .rendering .wants counters else .ended }
  | .rendering place out =>
    let (next, metrics, out) := process.metrics.advance .server cli.nGpus (renderGpu cli.display) out place
    { process with
      metrics := metrics
      server := if next = .done then .writing out else .rendering next out }
  | .writing body =>
    { process with server := .accepting, responses := process.responses ++ [httpResponse body] }
  | .ended => process

def step (process : AgentProcess F) : ProcessEvent → AgentProcess F
  | .client event => { process with endpoint := process.endpoint.step cli.ops cli.fromStr event }
  | .failsafe => cli.pollFailsafe process
  | .brain => cli.stepBrain process
  | .server accepted counters => cli.stepServer process accepted counters
  | .stop => { process with stopping := true }

/-- The process after a schedule. -/
def after (schedule : List ProcessEvent) : AgentProcess F := run cli.step cli.start schedule

end AgentCli

/-! ### What every step keeps -/

variable {cli : AgentCli F} {process : AgentProcess F}

/-- Where the two are that lock the metrics. -/
def AgentProcess.places (process : AgentProcess F) : Party → Section
  | .brain => process.brain
  | .server => process.server.place

/-- The GPUs are those of the start, the metrics have a place for each, and nobody has panicked. -/
structure Works (cli : AgentCli F) (process : AgentProcess F) : Prop where
  draws : process.endpoint.backend.value.draws = cli.backend.draws
  outer : process.metrics.outer.value.length = cli.nGpus
  inner : process.metrics.inner.value.length = cli.nGpus
  locks : process.metrics.Sound process.places
  rendering : ∀ out, process.server ≠ .rendering .done out
  tripping : ∀ gpu, process.failsafe = .trip gpu → gpu < cli.nGpus
  running : process.failsafe = .stopped → process.stopping = true

theorem places_brain (place : Section) (metrics : AgentMetrics F) :
    { process with brain := place, metrics := metrics }.places =
      Function.update process.places .brain place := by
  funext party
  cases party <;> rfl

theorem Works.gpuCount (works : Works cli process) :
    process.endpoint.backend.value.gpuCount = cli.nGpus := by
  rw [SimIpcBackend.gpuCount, works.draws]
  rfl

theorem Works.getDraw (works : Works cli process) (gpu : ℕ) :
    process.endpoint.backend.value.getDraw gpu = cli.backend.getDraw gpu := by
  rw [SimIpcBackend.getDraw, works.draws]
  rfl

/-- The task can copy every GPU. -/
theorem Works.copied (works : Works cli process) {gpu : ℕ} (inside : gpu < cli.nGpus) :
    ∃ draw cap, cli.backend.getDraw gpu = some draw ∧
      process.endpoint.backend.value.getCap gpu = some cap ∧
      copyGpu process.endpoint.backend.value gpu process.metrics.outer.value
          process.metrics.inner.value () =
        some (process.metrics.outer.value.set gpu draw, process.metrics.inner.value.set gpu cap, ()) := by
  obtain ⟨draw, drawn⟩ := Option.isSome_iff_exists.mp
    (getDraw_isSome process.endpoint.backend.value gpu (works.gpuCount ▸ inside))
  obtain ⟨cap, capped⟩ := Option.isSome_iff_exists.mp
    (getCap_isSome process.endpoint.backend.value gpu (works.gpuCount ▸ inside))
  refine ⟨draw, cap, works.getDraw gpu ▸ drawn, capped, ?_⟩
  have room : gpu < process.metrics.outer.value.length ∧ gpu < process.metrics.inner.value.length :=
    ⟨works.outer ▸ inside, works.inner ▸ inside⟩
  simp only [copyGpu, drawn, capped, room, and_self, if_true]

/-- The server can render every GPU. -/
theorem Works.rendered (works : Works cli process) {gpu : ℕ} (inside : gpu < cli.nGpus) (out : String) :
    ∃ row, (process.metrics.outer.value.zip process.metrics.inner.value)[gpu]? = some row ∧
      renderGpu cli.display gpu process.metrics.outer.value process.metrics.inner.value out =
        some (process.metrics.outer.value, process.metrics.inner.value,
          out ++ gpuLines cli.display gpu row) := by
  have hasDraw : gpu < process.metrics.outer.value.length := works.outer ▸ inside
  have hasCap : gpu < process.metrics.inner.value.length := works.inner ▸ inside
  have drawn := List.getElem?_eq_getElem hasDraw
  have capped := List.getElem?_eq_getElem hasCap
  refine ⟨(process.metrics.outer.value[gpu], process.metrics.inner.value[gpu]),
    List.getElem?_zip_eq_some.mpr ⟨drawn, capped⟩, ?_⟩
  simp only [renderGpu, drawn, capped]

theorem works_start : Works cli cli.start where
  draws := rfl
  outer := List.length_replicate
  inner := List.length_replicate
  locks := ⟨fun i => ⟨fun held => (by cases held), fun held => (by cases i <;> cases held)⟩,
    fun i => ⟨fun held => (by cases held), fun held => (by cases i <;> cases held)⟩, rfl, rfl,
    fun i => (by cases i <;> exact Section.noConfusion)⟩
  rendering out := MetricsServer.noConfusion
  tripping gpu tripping := by cases tripping
  running stopped := by cases stopped

/-- A read of the endpoint leaves the draws as they are. -/
theorem draws_client (server : IpcServer F) (event : IpcEvent) :
    (server.step cli.ops cli.fromStr event).backend.value.draws = server.backend.value.draws := by
  rw [IpcServer.step_backend]
  cases server.received cli.fromStr event with
  | none => rfl
  | some cmd => exact (dispatch_backend cli.ops cmd server.backend).1

/-- The failsafe writes a cap of a GPU that is there. -/
theorem Works.setCap (works : Works cli process) {gpu : ℕ} (inside : gpu < cli.nGpus) :
    ∃ backend, process.endpoint.backend.value.setCap gpu cli.emergencyCap = some backend ∧
      backend.draws = process.endpoint.backend.value.draws ∧
      backend.lastCaps = process.endpoint.backend.value.lastCaps.set gpu cli.emergencyCap :=
  setCap_of_lt (works.gpuCount ▸ inside) cli.emergencyCap

/-- An action of the failsafe: it writes the emergency cap to a GPU, or moves on. -/
theorem Works.pollFailsafe_cases (works : Works cli process) :
    (∃ phase, cli.pollFailsafe process = { process with failsafe := phase } ∧
      (∀ gpu, phase = .trip gpu →
        ∃ draw, cli.backend.getDraw gpu = some draw ∧ cli.overloaded draw = true) ∧
      (phase = .stopped → process.stopping = true)) ∨
    ∃ gpu backend, process.failsafe = .trip gpu ∧
      process.endpoint.backend.value.setCap gpu cli.emergencyCap = some backend ∧
      backend.draws = process.endpoint.backend.value.draws ∧
      backend.lastCaps = process.endpoint.backend.value.lastCaps.set gpu cli.emergencyCap ∧
      cli.pollFailsafe process = { process with
        endpoint := { process.endpoint with
          backend := { process.endpoint.backend with value := backend } }
        failsafe := .poll (gpu + 1)
        trips := process.trips + 1 } := by
  unfold AgentCli.pollFailsafe
  cases phase : process.failsafe with
  | stopped =>
    refine .inl ⟨.stopped, ?_, fun gpu tripping => (by cases tripping), fun _ => works.running phase⟩
    show process = { process with failsafe := .stopped }
    rw [← phase]
  | trip gpu =>
    obtain ⟨backend, stored, draws, caps⟩ := works.setCap (works.tripping gpu phase)
    refine .inr ⟨gpu, backend, rfl, stored, draws, caps, ?_⟩
    simp only [AgentCli.setCap, stored]
  | poll gpu =>
    refine .inl ?_
    cases drawn : process.endpoint.backend.value.getDraw gpu with
    | some draw =>
      refine ⟨if cli.overloaded draw then .trip gpu else .poll (gpu + 1), by simp only [drawn],
        fun place tripping => ?_, fun stopped => ?_⟩
      · by_cases tripped : cli.overloaded draw = true
        · rw [if_pos tripped] at tripping
          cases tripping
          exact ⟨draw, works.getDraw gpu ▸ drawn, tripped⟩
        · rw [if_neg tripped] at tripping
          cases tripping
      · split at stopped <;> cases stopped
    | none =>
      refine ⟨if process.stopping then .stopped else .poll 0, by simp only [drawn],
        fun place tripping => ?_, fun stopped => ?_⟩
      · split at tripping <;> cases tripping
      · split at stopped
        · assumption
        · cases stopped

/-- What a step of the task does. -/
inductive TaskStep (cli : AgentCli F) (process : AgentProcess F) : AgentProcess F → Prop where
  | wakes (here : process.brain = .done) : TaskStep cli process { process with brain := .wants }
  | waits (here : process.brain = .wants) : TaskStep cli process process
  | takesDraws (here : process.brain = .wants) (free : process.metrics.outer.holder = none) :
    TaskStep cli process
      { process with
        brain := .locking
        metrics := { process.metrics with
          outer := { process.metrics.outer with holder := some .brain } } }
  | takesCaps (here : process.brain = .locking) (free : process.metrics.inner.holder = none) :
    TaskStep cli process
      { process with
        brain := .inside 0
        metrics := { process.metrics with
          inner := { process.metrics.inner with holder := some .brain } } }
  | copies (count : ℕ) (draw cap : F) (here : process.brain = .inside count) (more : count < cli.nGpus)
    (drawn : cli.backend.getDraw count = some draw)
    (capped : process.endpoint.backend.value.getCap count = some cap) :
    TaskStep cli process
      { process with
        brain := .inside (count + 1)
        metrics := ⟨{ process.metrics.outer with value := process.metrics.outer.value.set count draw },
          { process.metrics.inner with value := process.metrics.inner.value.set count cap }⟩ }
  | givesCaps (count : ℕ) (here : process.brain = .inside count) (ended : cli.nGpus ≤ count) :
    TaskStep cli process
      { process with
        brain := .unlocking
        metrics := { process.metrics with inner := { process.metrics.inner with holder := none } } }
  | givesDraws (here : process.brain = .unlocking) :
    TaskStep cli process
      { process with
        brain := .done
        metrics := { process.metrics with outer := { process.metrics.outer with holder := none } } }

theorem Works.stepBrain (works : Works cli process) : TaskStep cli process (cli.stepBrain process) := by
  unfold AgentCli.stepBrain
  cases here : process.brain with
  | done => exact .wakes here
  | dead => exact absurd here (works.locks.alive .brain)
  | wants =>
    dsimp only
    cases held : process.metrics.outer.holder with
    | some holder =>
      rw [TwoLocks.advance_wants_held held, ← here]
      exact .waits here
    | none =>
      rw [TwoLocks.advance_wants_free held works.locks.outerFine]
      exact .takesDraws here held
  | locking =>
    dsimp only
    have stands : process.places .brain = .locking := here
    have free := works.locks.inner_free stands
    rw [TwoLocks.advance_locking free works.locks.innerFine]
    exact .takesCaps here free
  | inside count =>
    dsimp only
    by_cases more : count < cli.nGpus
    · obtain ⟨draw, cap, drawn, capped, worked⟩ := works.copied more
      rw [TwoLocks.advance_inside more worked]
      exact .copies count draw cap here more drawn capped
    · rw [TwoLocks.advance_inside_end more]
      exact .givesCaps count here (not_lt.mp more)
  | unlocking => exact .givesDraws here

/-- What a step of the server does. -/
inductive ServerStep (cli : AgentCli F) (process : AgentProcess F) (counters : String) :
    AgentProcess F → Prop where
  | accepts (here : process.server = .accepting) :
    ServerStep cli process counters { process with server := .rendering .wants counters }
  | ends (here : process.server = .accepting) :
    ServerStep cli process counters { process with server := .ended }
  | waits (here : ∀ out, process.server ≠ .rendering .locking out) :
    ServerStep cli process counters process
  | takesDraws (out : String) (here : process.server = .rendering .wants out)
    (free : process.metrics.outer.holder = none) :
    ServerStep cli process counters
      { process with
        server := .rendering .locking out
        metrics := { process.metrics with
          outer := { process.metrics.outer with holder := some .server } } }
  | takesCaps (out : String) (here : process.server = .rendering .locking out)
    (free : process.metrics.inner.holder = none) :
    ServerStep cli process counters
      { process with
        server := .rendering (.inside 0) out
        metrics := { process.metrics with
          inner := { process.metrics.inner with holder := some .server } } }
  | renders (count : ℕ) (out : String) (row : F × F)
    (here : process.server = .rendering (.inside count) out) (more : count < cli.nGpus)
    (shown : (process.metrics.outer.value.zip process.metrics.inner.value)[count]? = some row) :
    ServerStep cli process counters
      { process with
        server := .rendering (.inside (count + 1)) (out ++ gpuLines cli.display count row) }
  | givesCaps (count : ℕ) (out : String) (here : process.server = .rendering (.inside count) out)
    (ended : cli.nGpus ≤ count) :
    ServerStep cli process counters
      { process with
        server := .rendering .unlocking out
        metrics := { process.metrics with inner := { process.metrics.inner with holder := none } } }
  | givesDraws (out : String) (here : process.server = .rendering .unlocking out) :
    ServerStep cli process counters
      { process with
        server := .writing out
        metrics := { process.metrics with outer := { process.metrics.outer with holder := none } } }
  | writes (body : String) (here : process.server = .writing body) :
    ServerStep cli process counters
      { process with server := .accepting, responses := process.responses ++ [httpResponse body] }

theorem Works.stepServer (works : Works cli process) (accepted : Bool) (counters : String) :
    ServerStep cli process counters (cli.stepServer process accepted counters) := by
  unfold AgentCli.stepServer
  cases here : process.server with
  | accepting =>
    cases accepted with
    | true => exact .accepts here
    | false => exact .ends here
  | writing body => exact .writes body here
  | ended => exact .waits fun out same => (by rw [here] at same; cases same)
  | rendering place out =>
    have stands : process.places .server = place := by
      show process.server.place = place
      rw [here]
      rfl
    cases place with
    | done => exact absurd here (works.rendering out)
    | dead => exact absurd stands (works.locks.alive .server)
    | wants =>
      dsimp only
      cases held : process.metrics.outer.holder with
      | some holder =>
        rw [TwoLocks.advance_wants_held held]
        dsimp only
        rw [if_neg Section.noConfusion, ← here]
        exact .waits fun out same => (by rw [here] at same; cases same)
      | none =>
        rw [TwoLocks.advance_wants_free held works.locks.outerFine]
        exact .takesDraws out here held
    | locking =>
      dsimp only
      have free := works.locks.inner_free stands
      rw [TwoLocks.advance_locking free works.locks.innerFine]
      exact .takesCaps out here free
    | inside count =>
      dsimp only
      by_cases more : count < cli.nGpus
      · obtain ⟨row, shown, rendered⟩ := works.rendered more out
        rw [TwoLocks.advance_inside more rendered]
        exact .renders count out row here more shown
      · rw [TwoLocks.advance_inside_end more]
        exact .givesCaps count out here (not_lt.mp more)
    | unlocking => exact .givesDraws out here

/-- The work of the task never panics. -/
theorem Works.copies (works : Works cli process) : ∀ count, process.places .brain = .inside count →
    count < cli.nGpus → (copyGpu process.endpoint.backend.value count process.metrics.outer.value
      process.metrics.inner.value ()).isSome := by
  intro count _ more
  obtain ⟨draw, cap, _, _, worked⟩ := works.copied more
  rw [worked]
  rfl

/-- Nor does that of the server. -/
theorem Works.renders (works : Works cli process) (out : String) : ∀ count,
    process.places .server = .inside count → count < cli.nGpus →
      (renderGpu cli.display count process.metrics.outer.value process.metrics.inner.value out).isSome := by
  intro count _ more
  obtain ⟨row, _, worked⟩ := works.rendered more out
  rw [worked]
  rfl

/-- Out of `done`, a step of the task is one to the locks. -/
theorem stepBrain_eq (busy : process.brain ≠ .done) :
    cli.stepBrain process = { process with
      brain := (process.metrics.advance .brain cli.nGpus (copyGpu process.endpoint.backend.value) ()
        process.brain).1
      metrics := (process.metrics.advance .brain cli.nGpus (copyGpu process.endpoint.backend.value) ()
        process.brain).2.1 } := by
  unfold AgentCli.stepBrain
  cases here : process.brain with
  | done => exact absurd here busy
  | _ => rfl

/-- Where the server renders, its step is one to the locks. -/
theorem stepServer_rendering {place : Section} {out : String} (accepted : Bool) (counters : String)
    (here : process.server = .rendering place out) :
    (cli.stepServer process accepted counters).metrics =
        (process.metrics.advance .server cli.nGpus (renderGpu cli.display) out place).2.1 ∧
      (cli.stepServer process accepted counters).server.place =
        (process.metrics.advance .server cli.nGpus (renderGpu cli.display) out place).1 := by
  unfold AgentCli.stepServer
  rw [here]
  dsimp only
  refine ⟨rfl, ?_⟩
  split
  · next done => exact done.symm
  · rfl

theorem Works.locks_stepBrain (works : Works cli process) :
    (cli.stepBrain process).metrics.Sound (cli.stepBrain process).places := by
  by_cases busy : process.brain = .done
  · have wakes : cli.stepBrain process = { process with brain := .wants } := by
      simp only [AgentCli.stepBrain, busy]
    have outer := works.locks.outer .brain
    have inner := works.locks.inner .brain
    rw [show process.places .brain = .done from busy] at outer inner
    rw [wakes, places_brain]
    exact works.locks.moved (.keeps outer) (.keeps inner) rfl rfl Section.noConfusion
  · rw [stepBrain_eq busy, places_brain]
    exact works.locks.advance works.copies

theorem places_stepServer (accepted : Bool) (counters : String) :
    (cli.stepServer process accepted counters).places = Function.update process.places .server
      (cli.stepServer process accepted counters).server.place := by
  funext party
  cases party with
  | server =>
    rw [Function.update_self]
    rfl
  | brain =>
    rw [Function.update_of_ne (show Party.brain ≠ .server from Party.noConfusion)]
    show (cli.stepServer process accepted counters).brain = process.brain
    unfold AgentCli.stepServer
    cases process.server <;> rfl

/-- Elsewhere it leaves the metrics alone. -/
theorem stepServer_idle (idle : process.server.place = .done) (accepted : Bool) (counters : String) :
    (cli.stepServer process accepted counters).metrics = process.metrics ∧
      ((cli.stepServer process accepted counters).server.place = .done ∨
        (cli.stepServer process accepted counters).server.place = .wants) := by
  unfold AgentCli.stepServer
  cases here : process.server with
  | accepting =>
    cases accepted with
    | true => exact ⟨rfl, .inr rfl⟩
    | false => exact ⟨rfl, .inl rfl⟩
  | writing body => exact ⟨rfl, .inl rfl⟩
  | ended =>
    refine ⟨rfl, .inl ?_⟩
    dsimp only
    rw [here]
    rfl
  | rendering place out =>
    rw [here] at idle
    have done : place = .done := idle
    subst done
    exact ⟨rfl, .inl rfl⟩

theorem Works.locks_stepServer (works : Works cli process) (accepted : Bool) (counters : String) :
    (cli.stepServer process accepted counters).metrics.Sound
      (cli.stepServer process accepted counters).places := by
  rw [places_stepServer]
  by_cases idle : process.server.place = .done
  · obtain ⟨same, next⟩ := @stepServer_idle F cli process idle accepted counters
    have outer := works.locks.outer .server
    have inner := works.locks.inner .server
    rw [show process.places .server = .done from idle] at outer inner
    rw [same]
    rcases next with place | place
    · rw [place]
      exact works.locks.moved (.keeps outer) (.keeps inner) rfl rfl Section.noConfusion
    · rw [place]
      exact works.locks.moved (.keeps outer) (.keeps inner) rfl rfl Section.noConfusion
  · cases here : process.server with
    | rendering place out =>
      obtain ⟨metrics, moved⟩ := @stepServer_rendering F cli process place out accepted counters here
      have stands : process.places .server = place := by
        show process.server.place = place
        rw [here]
        rfl
      rw [metrics, moved, ← stands]
      exact works.locks.advance (works.renders out)
    | _ => exact absurd (by rw [here]; rfl) idle

/-- **Every step of every thread keeps the process working.** -/
theorem Works.step (works : Works cli process) (event : ProcessEvent) :
    Works cli (cli.step process event) := by
  cases event with
  | client event =>
    exact { works with draws := (draws_client process.endpoint event).trans works.draws }
  | stop => exact { works with running := fun _ => rfl }
  | failsafe =>
    show Works cli (cli.pollFailsafe process)
    rcases works.pollFailsafe_cases with ⟨phase, same, tripping, stopped⟩ |
      ⟨gpu, backend, _, _, draws, _, same⟩
    · rw [same]
      refine { works with tripping := fun gpu trips => ?_, running := stopped }
      obtain ⟨draw, drawn, _⟩ := tripping gpu trips
      exact (List.getElem?_eq_some_iff.mp drawn).1
    · rw [same]
      exact { works with
        draws := draws.trans works.draws
        tripping := fun gpu trips => (by cases trips)
        running := fun stopped => (by cases stopped) }
  | brain =>
    have locks := works.locks_stepBrain
    show Works cli (cli.stepBrain process)
    have keeps : ∀ next, TaskStep cli process next → next.metrics.Sound next.places →
        Works cli next := by
      intro next step sound
      cases step with
      | copies count draw cap here more drawn capped =>
        exact ⟨works.draws, List.length_set.trans works.outer, List.length_set.trans works.inner, sound,
          works.rendering, works.tripping, works.running⟩
      | _ =>
        exact ⟨works.draws, works.outer, works.inner, sound, works.rendering, works.tripping,
          works.running⟩
    exact keeps _ works.stepBrain locks
  | server accepted counters =>
    have locks := works.locks_stepServer accepted counters
    show Works cli (cli.stepServer process accepted counters)
    have keeps : ∀ next, ServerStep cli process counters next → next.metrics.Sound next.places →
        Works cli next := by
      intro next step sound
      cases step with
      | waits => exact works
      | _ =>
        exact ⟨works.draws, works.outer, works.inner, sound, fun out same => (by cases same),
          works.tripping, works.running⟩
    exact keeps _ (works.stepServer accepted counters) locks

theorem works_after (schedule : List ProcessEvent) : Works cli (cli.after schedule) :=
  run_invariant (fun _ process => Works cli process) works_start
    (fun _ event _ works => works.step event) schedule

end Opendps.Agent
