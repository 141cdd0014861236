/-
**What the metrics of the agent show.**

The task copies the draws and caps of all GPUs, one GPU after another, while it holds the locks of the
metrics, and the server renders them while it holds the same locks. `Board` is the metrics without locks:
a tick of the task and a response of the server are one step each. The process follows it
(`follows_after`), a tick taking effect when the task gives back the draws and a response when the server
has both locks.

* `scrapes_show_whole_ticks`: every response shows one whole tick, the last one before it, whose caps
  were in force while it ran.
* `metrics_come_free`: whoever is at the metrics gives them back, so nobody waits for them forever.
-/

import Opendps.Agent.RustProcess

namespace Opendps.Agent

open Opendps.Lib

variable {F : Type} {cli : AgentCli F} {process : AgentProcess F}

/-! ### Without the locks -/

/-- What the metrics show, and the responses. -/
structure Board (F : Type) where
  rows : List (F × F)
  served : List String := []

/-- A whole tick of the task, or a whole response of the server. -/
inductive BoardEvent (F : Type) where
  | tick (rows : List (F × F))
  | scrape (counters : String)

/-- The lines of all GPUs. -/
def gauges (display : F → String) (rows : List (F × F)) : String :=
  (rows.mapIdx (gpuLines display)).foldl (· ++ ·) ""

def Board.step (display : F → String) (board : Board F) : BoardEvent F → Board F
  | .tick rows => { board with rows := rows }
  | .scrape counters =>
    { board with served := board.served ++ [httpResponse (counters ++ gauges display board.rows)] }

/-- The zeros of the start. -/
def Board.new (zero : F) (nGpus : ℕ) : Board F where
  rows := List.replicate nGpus (zero, zero)

/-- What a step brings about: a tick when the task gives back the draws, a response when the server has
both locks. -/
def AgentProcess.effect (process : AgentProcess F) : ProcessEvent → List (BoardEvent F)
  | .brain =>
    match process.brain with
    | .unlocking => [.tick (process.metrics.outer.value.zip process.metrics.inner.value)]
    | _ => []
  | .server _ _ =>
    match process.server, process.metrics.inner.holder with
    | .rendering .locking out, none => [.scrape out]
    | _, _ => []
  | _ => []

/-! ### The metrics, tick by tick -/

/-- What is served by the time the server is somewhere, of what it has written. -/
def Serves (display : F → String) (board : Board F) (responses : List String) : MetricsServer → Prop
  | .rendering (.inside count) out => ∃ counters, out = counters ++ gauges display (board.rows.take count) ∧
    board.served = responses ++ [httpResponse (counters ++ gauges display board.rows)]
  | .rendering .unlocking out => board.served = responses ++ [httpResponse out]
  | .writing body => board.served = responses ++ [httpResponse body]
  | _ => board.served = responses

/-- The board is what the metrics are outside of a tick. -/
structure Follows (cli : AgentCli F) (process : AgentProcess F) (board : Board F) : Prop where
  size : board.rows.length = cli.nGpus
  shown : process.brain.holdsInner = false → process.brain ≠ .unlocking →
    process.metrics.outer.value.zip process.metrics.inner.value = board.rows
  served : Serves cli.display board process.responses process.server

/-- The lines of one more GPU. -/
theorem gauges_take_succ (display : F → String) {rows : List (F × F)} {count : ℕ} {row : F × F}
    (here : rows[count]? = some row) : gauges display (rows.take (count + 1)) =
      gauges display (rows.take count) ++ gpuLines display count row := by
  obtain ⟨inside, same⟩ := List.getElem?_eq_some_iff.mp here
  have length : (rows.take count).length = count := List.length_take_of_le inside.le
  unfold gauges
  rw [List.take_add_one, here, Option.toList_some, List.mapIdx_append, List.foldl_append, length]
  simp

theorem follows_start : Follows cli cli.start (.new (cli.ops.ofU64 0) cli.nGpus) where
  size := List.length_replicate
  shown _ _ := by
    show (List.replicate _ _).zip (List.replicate _ _) = List.replicate _ _
    simp
  served := rfl

/-- Unless the server is at work on them, the rows do not matter to it. -/
theorem Serves.of_served {display : F → String} {board other : Board F} {responses : List String}
    {server : MetricsServer} (serves : Serves display board responses server)
    (same : other.served = board.served) (idle : server.place.holdsOuter = false) :
    Serves display other responses server := by
  cases server with
  | accepting => exact same.trans serves
  | writing body => exact same.trans serves
  | ended => exact same.trans serves
  | rendering place out =>
    cases place with
    | inside count => cases idle
    | unlocking => cases idle
    | locking => cases idle
    | _ => exact same.trans serves

theorem Follows.stepBrain {board : Board F} (follows : Follows cli process board)
    (works : Works cli process) : Follows cli (cli.stepBrain process)
      (run (Board.step cli.display) board (process.effect .brain)) := by
  have step := works.stepBrain
  revert step
  generalize cli.stepBrain process = next
  intro step
  have quiet : process.brain ≠ .unlocking → process.effect .brain = [] := by
    intro other
    unfold AgentProcess.effect
    cases here : process.brain with
    | unlocking => exact absurd here other
    | _ => rfl
  cases step with
  | wakes here =>
    rw [quiet (by rw [here]; exact Section.noConfusion)]
    exact ⟨follows.size,
      fun _ _ => follows.shown (by rw [here]; rfl) (by rw [here]; exact Section.noConfusion),
      follows.served⟩
  | waits here =>
    rw [quiet (by rw [here]; exact Section.noConfusion)]
    exact follows
  | takesDraws here free =>
    rw [quiet (by rw [here]; exact Section.noConfusion)]
    exact ⟨follows.size,
      fun _ _ => follows.shown (by rw [here]; rfl) (by rw [here]; exact Section.noConfusion),
      follows.served⟩
  | takesCaps here free =>
    rw [quiet (by rw [here]; exact Section.noConfusion)]
    exact ⟨follows.size, fun inside => (by cases inside), follows.served⟩
  | copies count draw cap here more drawn capped =>
    rw [quiet (by rw [here]; exact Section.noConfusion)]
    exact ⟨follows.size, fun inside => (by cases inside), follows.served⟩
  | givesCaps count here ended =>
    rw [quiet (by rw [here]; exact Section.noConfusion)]
    exact ⟨follows.size, fun _ other => absurd rfl other, follows.served⟩
  | givesDraws here =>
    have ticks : process.effect .brain =
        [.tick (process.metrics.outer.value.zip process.metrics.inner.value)] := by
      simp only [AgentProcess.effect, here]
    have idle : process.server.place.holdsOuter = false := by
      by_contra held
      have both := works.locks.unique (show (process.places .brain).holdsOuter = true by
        rw [show process.places .brain = .unlocking from here]; rfl)
        (show (process.places .server).holdsOuter = true from Bool.not_eq_false _ ▸ held)
      cases both
    rw [ticks]
    refine ⟨?_, fun _ _ => rfl, follows.served.of_served rfl idle⟩
    show (process.metrics.outer.value.zip process.metrics.inner.value).length = cli.nGpus
    rw [List.length_zip, works.outer, works.inner, min_self]

theorem Follows.stepServer {board : Board F} (follows : Follows cli process board)
    (works : Works cli process) (accepted : Bool) (counters : String) :
    Follows cli (cli.stepServer process accepted counters)
      (run (Board.step cli.display) board (process.effect (.server accepted counters))) := by
  have step := works.stepServer accepted counters
  revert step
  generalize cli.stepServer process accepted counters = next
  intro step
  have quiet : (∀ out, process.server ≠ .rendering .locking out) →
      process.effect (.server accepted counters) = [] := by
    intro other
    unfold AgentProcess.effect
    cases here : process.server with
    | rendering place out =>
      cases place with
      | locking => exact absurd here (other out)
      | _ => rfl
    | _ => rfl
  have served := follows.served
  cases step with
  | accepts here =>
    rw [quiet fun out same => (by rw [here] at same; cases same)]
    rw [here] at served
    exact ⟨follows.size, follows.shown, served⟩
  | ends here =>
    rw [quiet fun out same => (by rw [here] at same; cases same)]
    rw [here] at served
    exact ⟨follows.size, follows.shown, served⟩
  | waits other =>
    rw [quiet other]
    exact follows
  | takesDraws out here free =>
    rw [quiet fun out same => (by rw [here] at same; cases same)]
    rw [here] at served
    exact ⟨follows.size, follows.shown, served⟩
  | takesCaps out here free =>
    have scrapes : process.effect (.server accepted counters) = [.scrape out] := by
      simp only [AgentProcess.effect, here, free]
    rw [here] at served
    rw [scrapes]
    refine ⟨follows.size, follows.shown, out, ?_, ?_⟩
    · exact String.append_empty.symm
    · exact congrArg (· ++ [httpResponse (out ++ gauges cli.display board.rows)]) served
  | renders count out row here more shown =>
    rw [quiet fun out same => (by rw [here] at same; cases same)]
    rw [here] at served
    obtain ⟨counters, started, served⟩ := served
    have idle : process.brain.holdsOuter = false := by
      by_contra held
      have both := works.locks.unique (show (process.places .brain).holdsOuter = true from
        Bool.not_eq_false _ ▸ held) (show (process.places .server).holdsOuter = true by
          rw [show process.places .server = process.server.place from rfl, here]; rfl)
      cases both
    have same := follows.shown (Section.holdsInner_of_outer idle) fun unlocking =>
      (by rw [unlocking] at idle; cases idle)
    refine ⟨follows.size, follows.shown, counters, ?_, served⟩
    rw [started, gauges_take_succ cli.display (same ▸ shown), String.append_assoc]
    rfl
  | givesCaps count out here ended =>
    rw [quiet fun out same => (by rw [here] at same; cases same)]
    rw [here] at served
    obtain ⟨counters, started, served⟩ := served
    rw [List.take_of_length_le (follows.size ▸ ended)] at started
    refine ⟨follows.size, follows.shown, ?_⟩
    rw [← started] at served
    exact served
  | givesDraws out here =>
    rw [quiet fun out same => (by rw [here] at same; cases same)]
    rw [here] at served
    exact ⟨follows.size, follows.shown, served⟩
  | writes body here =>
    rw [quiet fun out same => (by rw [here] at same; cases same)]
    rw [here] at served
    exact ⟨follows.size, follows.shown, served⟩

/-- **The process follows the board**, whose ticks and responses are whole. -/
theorem follows_after (cli : AgentCli F) (schedule : List ProcessEvent) :
    Follows cli (cli.after schedule) (run (Board.step cli.display) (.new (cli.ops.ofU64 0) cli.nGpus)
      (effects cli.step AgentProcess.effect cli.start schedule)) := by
  induction schedule using List.reverseRecOn with
  | nil => exact follows_start
  | append_singleton past event ih =>
    have works : Works cli (cli.after past) := works_after past
    have next : cli.after (past ++ [event]) = cli.step (cli.after past) event :=
      run_append_singleton past event
    rw [effects_append_singleton, next, run, List.foldl_append]
    change Follows cli (cli.step (cli.after past) event)
      (run (Board.step cli.display) (run (Board.step cli.display)
      (.new (cli.ops.ofU64 0) cli.nGpus) (effects cli.step AgentProcess.effect cli.start past))
      ((cli.after past).effect event))
    cases event with
    | brain => exact ih.stepBrain works
    | server accepted counters => exact ih.stepServer works accepted counters
    | client event => exact ⟨ih.size, ih.shown, ih.served⟩
    | stop => exact ⟨ih.size, ih.shown, ih.served⟩
    | failsafe =>
      show Follows cli (cli.pollFailsafe (cli.after past)) _
      rcases works.pollFailsafe_cases with ⟨phase, same, _⟩ | ⟨gpu, backend, _, _, _, _, same⟩
      · rw [same]
        exact ⟨ih.size, ih.shown, ih.served⟩
      · rw [same]
        exact ⟨ih.size, ih.shown, ih.served⟩

/-! ### What a tick has read -/

/-- What the task read of a GPU between two moments. -/
def ReadDuring (cli : AgentCli F) (started during : List ProcessEvent) (gpu : ℕ) (row : F × F) : Prop :=
  cli.backend.getDraw gpu = some row.1 ∧ ∃ before rest, during = before ++ rest ∧
    (cli.after (started ++ before)).endpoint.backend.value.getCap gpu = some row.2

/-- A tick has the locks from one moment to another. -/
structure Ticking (cli : AgentCli F) (started during : List ProcessEvent) : Prop where
  begins : (cli.after started).brain = .inside 0
  lasts : ∀ before rest, during = before ++ rest →
    (cli.after (started ++ before)).brain.holdsOuter = true

/-- The rows of one whole tick: a draw of each GPU, and a cap that it had in the course of the tick. -/
def WholeTick (cli : AgentCli F) (past : List ProcessEvent) (rows : List (F × F)) : Prop :=
  ∃ started during, past = started ++ during ∧ Ticking cli started during ∧
    rows.length = cli.nGpus ∧ ∀ gpu row, rows[gpu]? = some row → ReadDuring cli started during gpu row

/-- What the task has copied so far was read in the course of the tick that is under way. -/
def Copied (cli : AgentCli F) (past : List ProcessEvent) (process : AgentProcess F) : Prop :=
  ∀ count, process.brain = .inside count ∨ (process.brain = .unlocking ∧ count = cli.nGpus) →
    ∃ started during, past = started ++ during ∧ Ticking cli started during ∧
      ∀ gpu < count, ∀ row,
        (process.metrics.outer.value.zip process.metrics.inner.value)[gpu]? = some row →
          ReadDuring cli started during gpu row

theorem ReadDuring.append {started during : List ProcessEvent} {gpu : ℕ} {row : F × F}
    (read : ReadDuring cli started during gpu row) (event : ProcessEvent) :
    ReadDuring cli started (during ++ [event]) gpu row := by
  obtain ⟨drawn, before, rest, split, capped⟩ := read
  exact ⟨drawn, before, rest ++ [event], by rw [split, List.append_assoc], capped⟩

theorem Ticking.append {started during : List ProcessEvent} (ticking : Ticking cli started during)
    {event : ProcessEvent}
    (still : (cli.after (started ++ (during ++ [event]))).brain.holdsOuter = true) :
    Ticking cli started (during ++ [event]) where
  begins := ticking.begins
  lasts := forall_past_append_singleton.mpr ⟨ticking.lasts, still⟩

theorem after_append_singleton (cli : AgentCli F) (past : List ProcessEvent) (event : ProcessEvent) :
    cli.after (past ++ [event]) = cli.step (cli.after past) event :=
  run_append_singleton past event

/-- Nobody but the task changes what is in the metrics. -/
theorem Works.same_of_not_brain (works : Works cli process) {event : ProcessEvent}
    (other : event ≠ .brain) : (cli.step process event).brain = process.brain ∧
      (cli.step process event).metrics.outer.value = process.metrics.outer.value ∧
      (cli.step process event).metrics.inner.value = process.metrics.inner.value := by
  cases event with
  | brain => exact absurd rfl other
  | client event => exact ⟨rfl, rfl, rfl⟩
  | stop => exact ⟨rfl, rfl, rfl⟩
  | failsafe =>
    show (cli.pollFailsafe process).brain = _ ∧ _
    rcases works.pollFailsafe_cases with ⟨phase, same, _⟩ | ⟨gpu, backend, _, _, _, _, same⟩
    · rw [show cli.step process .failsafe = cli.pollFailsafe process from rfl, same]
      exact ⟨rfl, rfl, rfl⟩
    · rw [show cli.step process .failsafe = cli.pollFailsafe process from rfl, same]
      exact ⟨rfl, rfl, rfl⟩
  | server accepted counters =>
    have keeps : ∀ next, ServerStep cli process counters next → next.brain = process.brain ∧
        next.metrics.outer.value = process.metrics.outer.value ∧
        next.metrics.inner.value = process.metrics.inner.value := by
      intro next step
      cases step <;> exact ⟨rfl, rfl, rfl⟩
    exact keeps _ (works.stepServer accepted counters)

/-- The tick under way goes on. -/
theorem Copied.extend {past : List ProcessEvent} {event : ProcessEvent} {started during : List ProcessEvent}
    (split : past = started ++ during) (ticking : Ticking cli started during)
    (still : (cli.step (cli.after past) event).brain.holdsOuter = true) :
    past ++ [event] = started ++ (during ++ [event]) ∧ Ticking cli started (during ++ [event]) := by
  refine ⟨by rw [split, List.append_assoc], ticking.append ?_⟩
  rw [← List.append_assoc, ← split, after_append_singleton]
  exact still

theorem copied_after (cli : AgentCli F) (past : List ProcessEvent) : Copied cli past (cli.after past) := by
  induction past using List.reverseRecOn with
  | nil =>
    intro count busy
    rcases busy with here | ⟨here, _⟩ <;> cases here
  | append_singleton past event ih =>
    have works : Works cli (cli.after past) := works_after past
    rw [after_append_singleton]
    by_cases other : event = .brain
    · subst other
      have step := works.stepBrain
      have next : cli.step (cli.after past) .brain = cli.stepBrain (cli.after past) := rfl
      have extend := @Copied.extend F cli past .brain
      rw [next] at extend ⊢
      revert step extend
      generalize later : cli.stepBrain (cli.after past) = process
      intro step extend count busy
      cases step with
      | wakes here => rcases busy with here | ⟨here, _⟩ <;> cases here
      | waits here => rcases busy with busy | ⟨busy, _⟩ <;> (rw [here] at busy; cases busy)
      | takesDraws here free => rcases busy with here | ⟨here, _⟩ <;> cases here
      | givesDraws here => rcases busy with here | ⟨here, _⟩ <;> cases here
      | takesCaps here free =>
        rcases busy with inside | ⟨unlocking, _⟩
        · cases inside
          have begun : (cli.after (past ++ [.brain])).brain = .inside 0 := by
            rw [after_append_singleton, next, later]
          refine ⟨past ++ [.brain], [], (List.append_nil _).symm, ⟨begun, fun before rest split => ?_⟩,
            fun gpu none => absurd none (Nat.not_lt_zero gpu)⟩
          rw [(List.append_eq_nil_iff.mp split.symm).1, List.append_nil, begun]
          rfl
        · cases unlocking
      | copies count draw cap here more drawn capped =>
        rcases busy with inside | ⟨unlocking, _⟩
        · cases inside
          obtain ⟨started, during, split, ticking, copied⟩ := ih count (.inl here)
          obtain ⟨longer, still⟩ := extend split ticking rfl
          refine ⟨started, during ++ [.brain], longer, still, fun gpu below row shown => ?_⟩
          obtain ⟨hasDraw, hasCap⟩ := List.getElem?_zip_eq_some.mp shown
          by_cases last : gpu = count
          · subst last
            rw [List.getElem?_set_self (works.outer ▸ more)] at hasDraw
            rw [List.getElem?_set_self (works.inner ▸ more)] at hasCap
            refine ⟨drawn.trans hasDraw, during, [.brain], rfl, ?_⟩
            rw [← split]
            exact capped.trans hasCap
          · rw [List.getElem?_set_ne (Ne.symm last)] at hasDraw hasCap
            exact (copied gpu (by omega) row (List.getElem?_zip_eq_some.mpr ⟨hasDraw, hasCap⟩)).append _
        · cases unlocking
      | givesCaps place here ended =>
        rcases busy with inside | ⟨_, rfl⟩
        · cases inside
        · obtain ⟨started, during, split, ticking, copied⟩ := ih place (.inl here)
          obtain ⟨longer, still⟩ := extend split ticking rfl
          refine ⟨started, during ++ [.brain], longer, still, fun gpu below row shown => ?_⟩
          exact (copied gpu (below.trans_le ended) row shown).append _
    · obtain ⟨sameBrain, sameDraws, sameCaps⟩ := works.same_of_not_brain other
      intro count busy
      rw [sameBrain] at busy
      obtain ⟨started, during, split, ticking, copied⟩ := ih count busy
      have held : (cli.step (cli.after past) event).brain.holdsOuter = true := by
        rw [sameBrain]
        rcases busy with here | ⟨here, _⟩ <;> (rw [here]; rfl)
      obtain ⟨longer, still⟩ := Copied.extend split ticking held
      refine ⟨started, during ++ [event], longer, still, fun gpu below row shown => ?_⟩
      rw [sameDraws, sameCaps] at shown
      exact (copied gpu below row shown).append _

/-- Every tick on the board is a whole one. -/
theorem wholeTick_of_mem {schedule : List ProcessEvent} {rows : List (F × F)}
    (member : .tick rows ∈ effects cli.step AgentProcess.effect cli.start schedule) :
    ∃ past rest, schedule = past ++ .brain :: rest ∧ WholeTick cli past rows := by
  induction schedule using List.reverseRecOn with
  | nil => cases member
  | append_singleton past event ih =>
    rw [effects_append_singleton, List.mem_append] at member
    rcases member with earlier | now
    · obtain ⟨before, rest, split, whole⟩ := ih earlier
      exact ⟨before, rest ++ [event], by rw [split, List.append_assoc]; rfl, whole⟩
    · change .tick rows ∈ (cli.after past).effect event at now
      have works : Works cli (cli.after past) := works_after past
      unfold AgentProcess.effect at now
      cases event with
      | brain =>
        refine ⟨past, [], rfl, ?_⟩
        cases here : (cli.after past).brain with
        | unlocking =>
          rw [here] at now
          cases List.mem_singleton.mp now
          obtain ⟨started, during, split, ticking, copied⟩ :=
            copied_after cli past cli.nGpus (.inr ⟨here, rfl⟩)
          have length : ((cli.after past).metrics.outer.value.zip
              (cli.after past).metrics.inner.value).length = cli.nGpus := by
            rw [List.length_zip, works.outer, works.inner, min_self]
          refine ⟨started, during, split, ticking, length, fun gpu row shown => ?_⟩
          obtain ⟨inside, _⟩ := List.getElem?_eq_some_iff.mp shown
          exact copied gpu (length ▸ inside) row shown
        | _ => rw [here] at now; cases now
      | server accepted counters =>
        dsimp only at now
        split at now
        · cases List.mem_singleton.mp now
        · cases now
      | _ => cases now

/-- **What a scrape shows.** In every order of the steps of all threads, whatever clients send to the
endpoint: the server has written the responses of the board, but maybe the last one, and every tick on it
is a whole tick of the task. Neither the task nor the server panics. -/
theorem scrapes_show_whole_ticks (cli : AgentCli F) (schedule : List ProcessEvent) :
    let process := cli.after schedule
    let seen := effects cli.step AgentProcess.effect cli.start schedule
    let board := run (Board.step cli.display) (.new (cli.ops.ofU64 0) cli.nGpus) seen
    (board.served = process.responses ∨ ∃ last, board.served = process.responses ++ [last]) ∧
      (∀ rows, .tick rows ∈ seen →
        ∃ past rest, schedule = past ++ .brain :: rest ∧ WholeTick cli past rows) ∧
      process.brain ≠ .dead ∧ process.server.place ≠ .dead := by
  intro process seen board
  have works : Works cli process := works_after schedule
  have served := (follows_after cli schedule).served
  refine ⟨?_, fun rows member => wholeTick_of_mem member, works.locks.alive .brain,
    works.locks.alive .server⟩
  change Serves cli.display board process.responses process.server at served
  cases here : process.server with
  | accepting =>
    rw [here] at served
    exact .inl served
  | ended =>
    rw [here] at served
    exact .inl served
  | writing body =>
    rw [here] at served
    exact .inr ⟨_, served⟩
  | rendering place out =>
    rw [here] at served
    cases place with
    | inside count =>
      obtain ⟨counters, _, served⟩ := served
      exact .inr ⟨_, served⟩
    | unlocking => exact .inr ⟨_, served⟩
    | _ => exact .inl served

/-! ### Nobody waits forever -/

/-- Whose step an event is, of the two at the metrics. -/
def ProcessEvent.isOf : ProcessEvent → Party → Bool
  | .brain, .brain => true
  | .server _ _, .server => true
  | _, _ => false

theorem ProcessEvent.isOf_unique {event : ProcessEvent} {i j : Party} (first : event.isOf i = true)
    (second : event.isOf j = true) : i = j := by
  cases event with
  | brain =>
    cases i with
    | server => cases first
    | brain =>
      cases j with
      | server => cases second
      | brain => rfl
  | server accepted counters =>
    cases i with
    | brain => cases first
    | server =>
      cases j with
      | brain => cases second
      | server => rfl
  | _ => cases first

/-- What is left of the section that has the metrics. -/
def AgentProcess.left (n : ℕ) (party : Party) (process : AgentProcess F) : ℕ :=
  if process.metrics.outer.holder = none then 0 else (process.places party).remaining n

/-- A step of another thread leaves a party where it is. -/
theorem Works.places_of_not_isOf (works : Works cli process) {event : ProcessEvent} {party : Party}
    (other : event.isOf party = false) : (cli.step process event).places party = process.places party := by
  cases event with
  | client event => rfl
  | stop => rfl
  | failsafe =>
    rw [show cli.step process .failsafe = cli.pollFailsafe process from rfl]
    rcases works.pollFailsafe_cases with ⟨phase, same, _⟩ | ⟨gpu, backend, _, _, _, _, same⟩
    · rw [same]
      rfl
    · rw [same]
      rfl
  | brain =>
    cases party with
    | brain => cases other
    | server =>
      have keeps : ∀ next, TaskStep cli process next → next.places .server = process.places .server := by
        intro next step
        cases step <;> rfl
      exact keeps _ works.stepBrain
  | server accepted counters =>
    cases party with
    | server => cases other
    | brain =>
      show (cli.stepServer process accepted counters).places .brain = process.places .brain
      rw [places_stepServer, Function.update_of_ne (show Party.brain ≠ .server from Party.noConfusion)]

/-- Its own step brings it closer to the end of its section. -/
theorem Works.remaining_step (works : Works cli process) {event : ProcessEvent} {party : Party}
    (own : event.isOf party = true) (inside : (process.places party).holdsOuter = true) :
    ((cli.step process event).places party).remaining cli.nGpus + 1 =
      (process.places party).remaining cli.nGpus := by
  have some := (@Section.remaining_pos_iff cli.nGpus _).mpr inside
  cases event with
  | brain =>
    cases party with
    | server => cases own
    | brain =>
      have busy : process.brain ≠ .done := by
        intro done
        rw [show process.places .brain = .done from done] at inside
        cases inside
      rw [show cli.step process .brain = cli.stepBrain process from rfl, stepBrain_eq busy]
      exact works.locks.remaining_advance works.copies some
  | server accepted counters =>
    cases party with
    | brain => cases own
    | server =>
      cases here : process.server with
      | rendering place out =>
        have stands : process.places .server = place := by
          show process.server.place = place
          rw [here]
          rfl
        obtain ⟨_, moved⟩ := @stepServer_rendering F cli process place out accepted counters here
        show (cli.stepServer process accepted counters).server.place.remaining cli.nGpus + 1 = _
        rw [moved, ← stands]
        exact works.locks.remaining_advance (works.renders out) some
      | _ =>
        have done : process.places .server = .done := by
          show process.server.place = .done
          rw [here]
          rfl
        rw [done] at inside
        cases inside
  | _ => cases own

/-- One step of any thread, where one party has the metrics. -/
theorem Works.countdown (works : Works cli process) {party : Party}
    (holds : process.metrics.outer.holder = some party) (event : ProcessEvent) :
    ((cli.step process event).metrics.outer.holder = some party ∨
        (cli.step process event).metrics.outer.holder = none) ∧
      (cli.step process event).left cli.nGpus party + (if event.isOf party then 1 else 0) ≤
        process.left cli.nGpus party := by
  have later := works.step event
  have inside := (works.locks.outer party).mp holds
  have before : process.left cli.nGpus party = (process.places party).remaining cli.nGpus := by
    rw [AgentProcess.left, if_neg (by rw [holds]; exact Option.some_ne_none party)]
  have after : (cli.step process event).left cli.nGpus party ≤
      ((cli.step process event).places party).remaining cli.nGpus := by
    unfold AgentProcess.left
    split
    · exact Nat.zero_le _
    · exact le_rfl
  cases own : event.isOf party with
  | false =>
    have same := works.places_of_not_isOf own
    refine ⟨.inl ((later.locks.outer party).mpr (same ▸ inside)), ?_⟩
    rw [same] at after
    simpa [before] using after
  | true =>
    have closer := works.remaining_step own inside
    refine ⟨?_, by rw [before, if_pos rfl]; omega⟩
    cases held : (cli.step process event).metrics.outer.holder with
    | none => exact .inr rfl
    | some holder =>
      refine .inl (congrArg some ?_)
      by_contra other
      have notIts : event.isOf holder = false :=
        Bool.eq_false_iff.mpr fun its => other (ProcessEvent.isOf_unique its own)
      have stays := (later.locks.outer holder).mp held
      rw [works.places_of_not_isOf notIts] at stays
      exact other (works.locks.unique stays inside)

/-- **The metrics come free.** Whoever has them gives both locks back within `n + 3` steps of its own,
for `n` GPUs, whatever all other threads do meanwhile. -/
theorem metrics_come_free (cli : AgentCli F) {past more : List ProcessEvent} {party : Party}
    (holds : (cli.after past).metrics.outer.holder = some party)
    (enough : cli.nGpus + 3 ≤ more.countP (·.isOf party)) :
    ∃ during rest, more = during ++ rest ∧
      (cli.after (past ++ during)).metrics.outer.holder = none ∧
      (cli.after (past ++ during)).metrics.inner.holder = none := by
  have bounded : (cli.after past).left cli.nGpus party ≤ cli.nGpus + 3 := by
    unfold AgentProcess.left
    split
    · exact Nat.zero_le _
    · exact Section.remaining_le cli.nGpus _
  obtain ⟨during, rest, split, ⟨works, held⟩, nothing⟩ := @exists_zero_of_countdown _ _ cli.step
    (cli.after past) (fun process => Works cli process ∧ (process.metrics.outer.holder = some party ∨
      process.metrics.outer.holder = none)) (fun process => process.left cli.nGpus party)
    (fun event => event.isOf party) (fun process event inv some => by
      obtain ⟨works, held | free⟩ := inv
      · obtain ⟨still, fewer⟩ := works.countdown held event
        exact ⟨⟨works.step event, still⟩, fewer⟩
      · rw [AgentProcess.left, if_pos free] at some
        cases some) ⟨works_after past, .inl holds⟩ more (bounded.trans enough)
  have free : (run cli.step (cli.after past) during).metrics.outer.holder = none := by
    rcases held with still | free
    · rw [AgentProcess.left, if_neg (by rw [still]; exact Option.some_ne_none party)] at nothing
      have inside := (@Section.remaining_pos_iff cli.nGpus _).mpr ((works.locks.outer party).mp still)
      omega
    · exact free
  have same : cli.after (past ++ during) = run cli.step (cli.after past) during := List.foldl_append
  refine ⟨during, rest, split, ?_, ?_⟩
  · rw [same]
    exact free
  · rw [same]
    exact works.locks.both_free free

/-! ### Two GPUs

One draws 1200 W. A client sets a cap of a third one and ends the service of the endpoint. -/

/-- The start there. -/
def twoGpus : AgentCli ℤ where
  ops := wholeFloats
  fromStr := parseStray
  display := toString
  overloaded draw := 1000 < draw
  emergencyCap := 800
  backend := .new wholeFloats [700, 1200]

/-- The task gives the metrics back next to the server, the failsafe and that client. -/
theorem metrics_come_free_two : ∃ during rest,
    [.brain, .server true "", .brain, .failsafe, .client ⟨0, .line strayLine, true⟩, .server true "",
        .brain, .brain, .brain] = during ++ rest ∧
      (twoGpus.after ([.brain, .brain] ++ during)).metrics.outer.holder = none ∧
      (twoGpus.after ([.brain, .brain] ++ during)).metrics.inner.holder = none :=
  @metrics_come_free _ twoGpus [.brain, .brain] _ .brain (by decide +kernel) (by decide +kernel)

end Opendps.Agent
