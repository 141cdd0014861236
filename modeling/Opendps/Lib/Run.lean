/-
**Runs of a deterministic machine.**

A machine is a step function on states, driven by events; every choice of its surroundings (what an
input reads, which party moves next, whether a call fails) is part of the event. A run is the fold
of the step over a list of events.

* `run_invariant` is the induction over runs: a relation between the past and the state that holds
  at the start and is kept by each step holds after every run.
* `Along` says that something holds at every moment of a run, of the events so far, the state, and
  the event that comes next. It is decided one event at a time (`along_append_singleton`).
* `cost` adds up a price for every step. `cost_le_of_potential` is the amortised bound: what a step
  costs is paid by its event or by a potential of the state.
* `effects` collects what the steps bring about. `exists_zero_of_countdown` finds the moment at which
  what is left of something has been worked off.
-/

import Mathlib.Data.List.Induction

namespace Opendps.Lib

variable {σ ε : Type*} {step : σ → ε → σ} {start : σ}

/-- The state after a list of events. -/
def run (step : σ → ε → σ) (start : σ) (events : List ε) : σ := events.foldl step start

@[simp] theorem run_nil : run step start [] = start := rfl

@[simp] theorem run_append_singleton (events : List ε) (event : ε) :
    run step start (events ++ [event]) = step (run step start events) event := by
  rw [run, List.foldl_append]
  rfl

theorem run_cons (event : ε) (events : List ε) :
    run step start (event :: events) = run step (step start event) events := rfl

/-- What holds at the start and is kept by every step holds after every run. -/
theorem run_invariant (inv : List ε → σ → Prop) (init : inv [] start)
    (next : ∀ past event state, inv past state → inv (past ++ [event]) (step state event))
    (events : List ε) : inv events (run step start events) := by
  induction events using List.reverseRecOn with
  | nil => exact init
  | append_singleton past event ih =>
    rw [run_append_singleton]
    exact next past event _ ih

/-- Two machines that step alike wherever an invariant of the first one holds run alike. -/
theorem run_congr {other : σ → ε → σ} {inv : σ → Prop} {events : List ε} (init : inv start)
    (next : ∀ state event, inv state → inv (step state event))
    (alike : ∀ state, inv state → ∀ event ∈ events, step state event = other state event) :
    run step start events = run other start events := by
  induction events generalizing start with
  | nil => rfl
  | cons event rest ih =>
    rw [run_cons, run_cons, ← alike start init event List.mem_cons_self]
    exact ih (next start event init) fun state holds later member =>
      alike state holds later (List.mem_cons_of_mem event member)

/-- Two machines driven by the same events stay in a relation that every event keeps. -/
theorem run_related {τ : Type*} {other : τ → ε → τ} {otherStart : τ} (related : σ → τ → Prop)
    (init : related start otherStart)
    (next : ∀ first second event, related first second →
      related (step first event) (other second event))
    (events : List ε) : related (run step start events) (run other otherStart events) := by
  induction events using List.reverseRecOn with
  | nil => exact init
  | append_singleton past event ih =>
    rw [run_append_singleton, run_append_singleton]
    exact next _ _ event ih

/-! ### At every moment of a run -/

/-- At every moment: of the past, the state it led to, and the next event. -/
def Along (step : σ → ε → σ) (start : σ) (holds : List ε → σ → ε → Prop) (events : List ε) :
    Prop :=
  ∀ past event rest, events = past ++ event :: rest → holds past (run step start past) event

/-- Where one event stands in a list that is one event longer. -/
theorem split_append_singleton {events past rest : List ε} {last event : ε} :
    events ++ [last] = past ++ event :: rest ↔
      (event = last ∧ past = events ∧ rest = []) ∨
        ∃ shorter, rest = shorter ++ [last] ∧ events = past ++ event :: shorter := by
  constructor
  · intro split
    cases rest using List.reverseRecOn with
    | nil =>
      obtain ⟨same, final⟩ := List.append_inj' split rfl
      exact .inl ⟨(List.singleton_inj.mp final).symm, same.symm, rfl⟩
    | append_singleton shorter final =>
      have regroup : past ++ event :: (shorter ++ [final]) = (past ++ event :: shorter) ++ [final] := by
        simp
      rw [regroup] at split
      obtain ⟨same, ends⟩ := List.append_inj' split rfl
      exact .inr ⟨shorter, by rw [List.singleton_inj.mp ends], same⟩
  · rintro (⟨rfl, rfl, rfl⟩ | ⟨shorter, rfl, rfl⟩)
    · rfl
    · simp

/-- What holds of every past of a list that is one event longer. -/
theorem forall_past_append_singleton {holds : List ε → Prop} {events : List ε} {last : ε} :
    (∀ past rest, events ++ [last] = past ++ rest → holds past) ↔
      (∀ past rest, events = past ++ rest → holds past) ∧ holds (events ++ [last]) := by
  constructor
  · intro every
    refine ⟨fun past rest split => every past (rest ++ [last]) (by simp [split]), ?_⟩
    exact every _ [] (List.append_nil _).symm
  · rintro ⟨before, now⟩ past rest split
    cases rest using List.reverseRecOn with
    | nil =>
      rw [List.append_nil] at split
      exact split ▸ now
    | append_singleton shorter final =>
      rw [← List.append_assoc] at split
      exact before past shorter (List.append_inj' split rfl).1

variable {holds : List ε → σ → ε → Prop}

theorem along_nil : Along step start holds [] := by
  intro past event rest split
  have lengths := congrArg List.length split
  simp at lengths

theorem along_append_singleton {events : List ε} {last : ε} :
    Along step start holds (events ++ [last]) ↔
      Along step start holds events ∧ holds events (run step start events) last := by
  constructor
  · intro along
    refine ⟨fun past event rest split => along past event (rest ++ [last]) (by simp [split]), ?_⟩
    exact along events last [] rfl
  · rintro ⟨before, now⟩ past event rest split
    rcases split_append_singleton.mp split with ⟨rfl, rfl, _⟩ | ⟨shorter, _, earlier⟩
    · exact now
    · exact before past event shorter earlier

/-- Two conditions that agree wherever an invariant of the run holds, hold along the same runs. -/
theorem along_congr_of_invariant {other : List ε → σ → ε → Prop} (inv : List ε → σ → Prop)
    (init : inv [] start)
    (next : ∀ past event state, inv past state → inv (past ++ [event]) (step state event))
    {events : List ε}
    (agree : ∀ past event state, event ∈ events → inv past state →
      (holds past state event ↔ other past state event)) :
    Along step start holds events ↔ Along step start other events := by
  refine forall_congr' fun past => forall_congr' fun event => forall_congr' fun rest =>
    imp_congr_right fun split => ?_
  have member : event ∈ events := split ▸ List.mem_append_right past List.mem_cons_self
  exact agree past event _ member (run_invariant inv init next past)

/-- What depends on the state and the event only is decided from the front, too. -/
theorem along_cons {now : σ → ε → Prop} {event : ε} {events : List ε} :
    Along step start (fun _ => now) (event :: events) ↔
      now start event ∧ Along step (step start event) (fun _ => now) events := by
  constructor
  · intro along
    refine ⟨along [] event events rfl, fun past next rest split => ?_⟩
    exact along (event :: past) next rest (by rw [split, List.cons_append])
  · rintro ⟨first, later⟩ past next rest split
    cases past with
    | nil =>
      rw [List.nil_append, List.cons.injEq] at split
      exact split.1 ▸ first
    | cons other past =>
      rw [List.cons_append, List.cons.injEq] at split
      exact split.1 ▸ later past next rest split.2

theorem along_append {now : σ → ε → Prop} {first second : List ε} :
    Along step start (fun _ => now) (first ++ second) ↔
      Along step start (fun _ => now) first ∧
        Along step (run step start first) (fun _ => now) second := by
  induction first generalizing start with
  | nil => exact (and_iff_right along_nil).symm
  | cons event rest ih => rw [List.cons_append, along_cons, along_cons, ih, and_assoc, run_cons]

/-- What holds along a longer run holds along its past. -/
theorem Along.past {events more : List ε} (along : Along step start holds (events ++ more)) :
    Along step start holds events := fun past event rest split =>
  along past event (rest ++ more) (by rw [split, List.append_assoc, List.cons_append])

/-- An invariant kept by every step that meets a condition, along a run that meets it throughout. -/
theorem run_invariant_of_along (inv : List ε → σ → Prop) (init : inv [] start)
    (next : ∀ past event state, inv past state → holds past state event →
      inv (past ++ [event]) (step state event))
    {events : List ε} (along : Along step start holds events) :
    inv events (run step start events) := by
  induction events using List.reverseRecOn with
  | nil => exact init
  | append_singleton past event ih =>
    obtain ⟨before, now⟩ := along_append_singleton.mp along
    rw [run_append_singleton]
    exact next past event _ (ih before) now

/-- Two machines stay in a relation along a run of the first one whose steps meet a condition under
which every event keeps it. -/
theorem run_related_of_along {τ : Type*} {other : τ → ε → τ} {otherStart : τ}
    (related : σ → τ → Prop) (init : related start otherStart)
    (next : ∀ past first second event, related first second → holds past first event →
      related (step first event) (other second event))
    {events : List ε} (along : Along step start holds events) :
    related (run step start events) (run other otherStart events) := by
  induction events using List.reverseRecOn with
  | nil => exact init
  | append_singleton past event ih =>
    obtain ⟨before, now⟩ := along_append_singleton.mp along
    rw [run_append_singleton, run_append_singleton]
    exact next past _ _ event (ih before) now

/-! ### What a run costs -/

/-- The prices of the steps of a run, added up. -/
def cost (step : σ → ε → σ) (price : σ → ε → ℕ) (start : σ) : List ε → ℕ
  | [] => 0
  | event :: rest => price start event + cost step price (step start event) rest

theorem cost_append_singleton (price : σ → ε → ℕ) (events : List ε) (last : ε) :
    cost step price start (events ++ [last]) =
      cost step price start events + price (run step start events) last := by
  induction events generalizing start with
  | nil => exact (Nat.zero_add _).symm
  | cons event rest ih => rw [List.cons_append, cost, cost, ih, run_cons, Nat.add_assoc]

/-- Where the price of a step and the potential after it are covered by the potential before it and
by one for an event that pays, the cost of a run is covered by the first potential and by one for
each event that pays. -/
theorem cost_le_of_potential {price : σ → ε → ℕ} (potential : σ → ℕ) (pays : ε → Bool)
    (covered : ∀ state event, price state event + potential (step state event) ≤
      potential state + if pays event then 1 else 0)
    (start : σ) (events : List ε) :
    cost step price start events + potential (run step start events) ≤
      potential start + events.countP pays := by
  induction events generalizing start with
  | nil => simp [cost]
  | cons event rest ih =>
    have here := covered start event
    have later := ih (step start event)
    rw [cost, run_cons, List.countP_cons]
    omega

/-! ### What a run brings about -/

/-- What the steps of a run bring about, in their order. -/
def effects {τ : Type*} (step : σ → ε → σ) (effect : σ → ε → List τ) (start : σ) : List ε → List τ
  | [] => []
  | event :: rest => effect start event ++ effects step effect (step start event) rest

theorem effects_append_singleton {τ : Type*} (effect : σ → ε → List τ) (events : List ε) (last : ε) :
    effects step effect start (events ++ [last]) =
      effects step effect start events ++ effect (run step start events) last := by
  induction events generalizing start with
  | nil => exact List.append_nil _
  | cons event rest ih =>
    rw [List.cons_append, effects, effects, ih, run_cons, List.append_assoc]

/-- Where some events make what is left one less and no other makes it more, there is a moment at which
nothing is left, once there have been enough of them. -/
theorem exists_zero_of_countdown {inv : σ → Prop} (left : σ → ℕ) (counts : ε → Bool)
    (less : ∀ state event, inv state → 0 < left state → inv (step state event) ∧
      left (step state event) + (if counts event then 1 else 0) ≤ left state)
    (init : inv start) {events : List ε} (enough : left start ≤ events.countP counts) :
    ∃ past rest, events = past ++ rest ∧ inv (run step start past) ∧ left (run step start past) = 0 := by
  induction events generalizing start with
  | nil => exact ⟨[], [], rfl, init, Nat.le_zero.mp enough⟩
  | cons event rest ih =>
    rcases Nat.eq_zero_or_pos (left start) with nothing | some
    · exact ⟨[], event :: rest, rfl, init, nothing⟩
    · obtain ⟨still, fewer⟩ := less start event init some
      rw [List.countP_cons] at enough
      obtain ⟨past, later, split, ends⟩ := ih still (by omega)
      exact ⟨event :: past, later, by rw [split, List.cons_append], ends⟩

end Opendps.Lib
