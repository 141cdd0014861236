/-
**Programs that call on a shared world, alone or next to others.**

A `Prog` returns a value or makes a call and goes on with the answer; which calls there are, and what
type of answer each has, is a parameter. Programs compose with `bind`, and `handle` says what a call
does to a world. A program can be run alone (`run`) or one call at a time, in a pool of programs
whose calls fall in any order, between changes of the surroundings (`Pool`).

Reasoning is by rely and guarantee. `Safe handle rely guar post prog world` says of a program and the
present world: however others change the world (within `rely`) before each of its calls, every call
changes the world within `guar`, and the world meets `post` once the program has returned. `guar`
also sees the value the program returns right after the call, so it can tell the call that completes
it. `Safe` composes along `bind` (`Safe.bind`), and programs whose guarantees are within each
other's relies are safe together (`Pool.safe_run`).
-/

import Opendps.Lib.Run

set_option linter.unusedSectionVars false

namespace Opendps.Lib

/-- A program over calls `Req` with answers `Ans`. -/
inductive Prog {Req : Type} (Ans : Req → Type) (α : Type) where
  | ret (value : α)
  | call (req : Req) (resume : Ans req → Prog Ans α)

namespace Prog

variable {Req : Type} {Ans : Req → Type} {α β W : Type}

/-- Run a program, then another one on its result. -/
def bind (next : α → Prog Ans β) : Prog Ans α → Prog Ans β
  | ret value => next value
  | call req resume => call req fun answer => (resume answer).bind next

@[simp] theorem bind_ret (value : α) (next : α → Prog Ans β) :
    (ret value : Prog Ans α).bind next = next value := rfl

@[simp] theorem bind_call (req : Req) (resume : Ans req → Prog Ans α) (next : α → Prog Ans β) :
    (call req resume).bind next = call req fun answer => (resume answer).bind next := rfl

theorem bind_bind {γ : Type} (prog : Prog Ans α) (next : α → Prog Ans β) (last : β → Prog Ans γ) :
    (prog.bind next).bind last = prog.bind fun value => (next value).bind last := by
  induction prog with
  | ret value => rfl
  | call req resume ih =>
    rw [bind_call, bind_call, bind_call]
    exact congrArg (call req) (funext ih)

/-- What a program has returned, if it has. -/
def result? : Prog Ans α → Option α
  | ret value => some value
  | call _ _ => none

theorem result?_eq_some {prog : Prog Ans α} {value : α} :
    prog.result? = some value ↔ prog = ret value := by
  cases prog with
  | ret other => simp [result?]
  | call req resume => simp [result?]

/-- Run a program to its end with nobody else around. -/
def run (handle : (req : Req) → W → Ans req × W) : Prog Ans α → W → α × W
  | ret value, world => (value, world)
  | call req resume, world =>
    (resume (handle req world).1).run handle (handle req world).2

theorem run_bind (handle : (req : Req) → W → Ans req × W) (prog : Prog Ans α)
    (next : α → Prog Ans β) (world : W) :
    (prog.bind next).run handle world =
      (next (prog.run handle world).1).run handle (prog.run handle world).2 := by
  induction prog generalizing world with
  | ret value => rfl
  | call req resume ih => exact ih _ _

/-- Make the next call. -/
def step (handle : (req : Req) → W → Ans req × W) : Prog Ans α → W → Prog Ans α × W
  | ret value, world => (ret value, world)
  | call req resume, world => (resume (handle req world).1, (handle req world).2)

/-- Whether the next call makes the program return a value that counts. -/
def finishes (counts : α → Bool) (handle : (req : Req) → W → Ans req × W) :
    Prog Ans α → W → Bool
  | ret _, _ => false
  | call req resume, world => (resume (handle req world).1).result?.any counts

/-! ### How many calls a program makes -/

/-- However its calls are answered, the program returns after at most so many of them. -/
def ReturnsWithin : Prog Ans α → ℕ → Prop
  | ret _, _ => True
  | call _ _, 0 => False
  | call _ resume, n + 1 => ∀ answer, (resume answer).ReturnsWithin n

/-- One call less is left after each call. -/
theorem ReturnsWithin.step {handle : (req : Req) → W → Ans req × W} {prog : Prog Ans α} {n : ℕ}
    (within : prog.ReturnsWithin n) (world : W) :
    (prog.step handle world).1.ReturnsWithin (n - 1) := by
  cases prog with
  | ret value => exact trivial
  | call req resume =>
    cases n with
    | zero => exact within.elim
    | succ n => exact within _

theorem ReturnsWithin.returned {prog : Prog Ans α} (within : prog.ReturnsWithin 0) :
    ∃ value, prog = ret value := by
  cases prog with
  | ret value => exact ⟨value, rfl⟩
  | call req resume => exact within.elim

/-! ### Rely and guarantee -/

section Safe

variable (handle : (req : Req) → W → Ans req × W) (rely : W → W → Prop)

/-- Safe from the present world on. -/
def Safe (guar : W → W → Option α → Prop) (post : α → W → Prop) : Prog Ans α → W → Prop
  | ret value, world => ∀ later, rely world later → post value later
  | call req resume, world => ∀ later, rely world later →
      guar later (handle req later).2 (resume (handle req later).1).result? ∧
        (resume (handle req later).1).Safe guar post (handle req later).2

variable {handle rely} {guar : W → W → Option α → Prop} {post : α → W → Prop}

/-- What others may do keeps a program safe. -/
theorem Safe.stable (trans : ∀ a b c, rely a b → rely b c → rely a c) {prog : Prog Ans α}
    {world later : W} (safe : prog.Safe handle rely guar post world) (changed : rely world later) :
    prog.Safe handle rely guar post later := by
  cases prog with
  | ret value => exact fun last more => safe last (trans _ _ _ changed more)
  | call req resume => exact fun last more => safe last (trans _ _ _ changed more)

/-- Programs in sequence: the first is safe up to a world from which the second one is. -/
theorem Safe.bind (refl : ∀ a, rely a a) {first : Prog Ans β} {next : β → Prog Ans α} {world : W}
    (safe : first.Safe handle rely
      (fun before after result => guar before after (result.bind fun value => (next value).result?))
      (fun value later => (next value).Safe handle rely guar post later) world) :
    (first.bind next).Safe handle rely guar post world := by
  induction first generalizing world with
  | ret value => exact safe world (refl world)
  | call req resume ih =>
    intro later changed
    obtain ⟨within, rest⟩ := safe later changed
    refine ⟨?_, ih _ rest⟩
    show guar later _ ((resume (handle req later).1).bind next).result?
    cases reached : resume (handle req later).1 with
    | ret value =>
      rw [reached] at within
      exact within
    | call nextReq nextResume =>
      rw [reached] at within
      exact within

/-- A stronger guarantee and a stronger postcondition. -/
theorem Safe.mono {strongGuar : W → W → Option α → Prop} {strongPost : α → W → Prop}
    (guarImp : ∀ before after result, strongGuar before after result → guar before after result)
    (postImp : ∀ value world, strongPost value world → post value world) {prog : Prog Ans α}
    {world : W} (safe : prog.Safe handle rely strongGuar strongPost world) :
    prog.Safe handle rely guar post world := by
  induction prog generalizing world with
  | ret value => exact fun later changed => postImp _ _ (safe later changed)
  | call req resume ih =>
    intro later changed
    obtain ⟨within, rest⟩ := safe later changed
    exact ⟨guarImp _ _ _ within, ih _ rest⟩

/-- The next call of a safe program is within its guarantee. -/
theorem Safe.guar_call (refl : ∀ a, rely a a) {req : Req} {resume : Ans req → Prog Ans α}
    {world : W} (safe : (call req resume).Safe handle rely guar post world) :
    guar world (handle req world).2 (resume (handle req world).1).result? :=
  (safe world (refl world)).1

/-- The next call of a safe program leaves it safe. -/
theorem Safe.step (refl : ∀ a, rely a a) {prog : Prog Ans α} {world : W}
    (safe : prog.Safe handle rely guar post world) :
    (prog.step handle world).1.Safe handle rely guar post (prog.step handle world).2 := by
  cases prog with
  | ret value => exact safe
  | call req resume => exact (safe world (refl world)).2

end Safe

end Prog

/-! ### Pools -/

/-- A world and the programs that work on it. -/
structure Pool {Req : Type} (Ans : Req → Type) (ι α W : Type) where
  world : W
  progs : ι → Prog Ans α

/-- The next call of one program, or a change of the surroundings. -/
inductive PoolEvent (ι ε : Type) where
  | thread (i : ι)
  | change (event : ε)

/-- Whether an event is a call of a program. -/
def PoolEvent.isThread {ι ε : Type} [DecidableEq ι] : PoolEvent ι ε → ι → Bool
  | .thread j, i => decide (j = i)
  | .change _, _ => false

namespace Pool

variable {Req : Type} {Ans : Req → Type} {ι α ε W : Type} [DecidableEq ι]

def step (handle : (req : Req) → W → Ans req × W) (surroundings : W → ε → W)
    (pool : Pool Ans ι α W) : PoolEvent ι ε → Pool Ans ι α W
  | .thread i =>
    let (next, world) := (pool.progs i).step handle pool.world
    ⟨world, Function.update pool.progs i next⟩
  | .change event => { pool with world := surroundings pool.world event }

variable {handle : (req : Req) → W → Ans req × W} {surroundings : W → ε → W}
  {pool : Pool Ans ι α W}

theorem step_thread (i : ι) : pool.step handle surroundings (.thread i) =
    ⟨((pool.progs i).step handle pool.world).2,
      Function.update pool.progs i ((pool.progs i).step handle pool.world).1⟩ := rfl

/-- A program that has returned makes no more calls. -/
theorem step_thread_of_returned {i : ι} {value : α} (returned : pool.progs i = .ret value) :
    pool.step handle surroundings (.thread i) = pool := by
  rw [step_thread, returned]
  show (⟨pool.world, Function.update pool.progs i (.ret value)⟩ : Pool Ans ι α W) = pool
  rw [← returned, Function.update_eq_self]

theorem progs_step_thread_self (i : ι) : (pool.step handle surroundings (.thread i)).progs i =
    ((pool.progs i).step handle pool.world).1 := by
  rw [step_thread]
  exact Function.update_self ..

theorem progs_step_thread_of_ne {i j : ι} (different : j ≠ i) :
    (pool.step handle surroundings (.thread i)).progs j = pool.progs j := by
  rw [step_thread]
  exact Function.update_of_ne different _ _

/-- A program has returned once it has made as many calls as it returns within. -/
theorem returnsWithin_run {i : ι} {n : ℕ} (within : (pool.progs i).ReturnsWithin n)
    (events : List (PoolEvent ι ε)) :
    ((Lib.run (Pool.step handle surroundings) pool events).progs i).ReturnsWithin
      (n - events.countP (·.isThread i)) := by
  induction events using List.reverseRecOn with
  | nil => exact within
  | append_singleton past event ih =>
    rw [run_append_singleton, List.countP_append, List.countP_singleton, ← Nat.sub_sub]
    cases event with
    | change event => exact ih
    | thread j =>
      by_cases own : j = i
      · subst own
        rw [progs_step_thread_self]
        simpa [PoolEvent.isThread] using ih.step _
      · rw [progs_step_thread_of_ne (Ne.symm own)]
        simpa [PoolEvent.isThread, own] using ih

variable {rely : W → W → Prop} {guar : ι → W → W → Option α → Prop}
  {post : ι → α → W → Prop}

/-- Every program of the pool is safe. -/
def Safe (handle : (req : Req) → W → Ans req × W) (rely : W → W → Prop)
    (guar : ι → W → W → Option α → Prop) (post : ι → α → W → Prop) (pool : Pool Ans ι α W) : Prop :=
  ∀ i, (pool.progs i).Safe handle rely (guar i) (post i) pool.world

/-- A step of one program, or of surroundings within the rely, keeps the pool safe. -/
theorem Safe.step (refl : ∀ a, rely a a) (trans : ∀ a b c, rely a b → rely b c → rely a c)
    (compatible : ∀ i before after result, guar i before after result → rely before after)
    (surroundingsRely : ∀ world event, rely world (surroundings world event))
    (safe : pool.Safe handle rely guar post) (event : PoolEvent ι ε) :
    (pool.step handle surroundings event).Safe handle rely guar post := by
  intro j
  cases event with
  | change event => exact (safe j).stable trans (surroundingsRely _ _)
  | thread i =>
    by_cases same : j = i
    · subst same
      rw [progs_step_thread_self, step_thread]
      exact (safe j).step refl
    · rw [progs_step_thread_of_ne same, step_thread]
      refine (safe j).stable trans ?_
      cases current : pool.progs i with
      | ret value => exact refl _
      | call req resume =>
        have own := safe i
        rw [current] at own
        exact compatible i _ _ _ (own.guar_call refl)

/-- Programs that are safe together stay so along every run. -/
theorem Safe.run (refl : ∀ a, rely a a) (trans : ∀ a b c, rely a b → rely b c → rely a c)
    (compatible : ∀ i before after result, guar i before after result → rely before after)
    (surroundingsRely : ∀ world event, rely world (surroundings world event))
    (safe : pool.Safe handle rely guar post) (events : List (PoolEvent ι ε)) :
    (Lib.run (Pool.step handle surroundings) pool events).Safe handle rely guar post :=
  run_invariant (fun _ (pool : Pool Ans ι α W) => pool.Safe handle rely guar post) safe
    (fun _ event _ before => before.step refl trans compatible surroundingsRely event) events

/-! ### Programs whose guarantee depends on where they start -/

section Starts

/-- The world in which a program makes its first call. -/
def startedAt (handle : (req : Req) → W → Ans req × W) (surroundings : W → ε → W)
    (pool : Pool Ans ι α W) : List (PoolEvent ι ε) → ι → Option W
  | [], _ => none
  | event :: rest, i =>
    if event.isThread i then some pool.world
    else startedAt handle surroundings (pool.step handle surroundings event) rest i

theorem startedAt_append_singleton (events : List (PoolEvent ι ε)) (event : PoolEvent ι ε) (i : ι) :
    pool.startedAt handle surroundings (events ++ [event]) i =
      (pool.startedAt handle surroundings events i).or
        (if event.isThread i then
          some (Lib.run (Pool.step handle surroundings) pool events).world else none) := by
  induction events generalizing pool with
  | nil => rfl
  | cons first rest ih =>
    rw [List.cons_append, startedAt, startedAt, run_cons]
    split
    · rfl
    · exact ih

/-- A program that has not started is as it was. -/
theorem progs_of_not_started {events : List (PoolEvent ι ε)} {i : ι}
    (fresh : pool.startedAt handle surroundings events i = none) :
    (Lib.run (Pool.step handle surroundings) pool events).progs i = pool.progs i := by
  induction events using List.reverseRecOn with
  | nil => rfl
  | append_singleton past event ih =>
    rw [startedAt_append_singleton, Option.or_eq_none_iff] at fresh
    rw [run_append_singleton]
    cases event with
    | change event => exact ih fresh.1
    | thread j =>
      have other : i ≠ j := by
        rintro rfl
        simp [PoolEvent.isThread] at fresh
      rw [progs_step_thread_of_ne other]
      exact ih fresh.1

variable {startGuar : ι → W → W → W → Option α → Prop} {startPost : ι → W → α → W → Prop}

/-- A program that, started in any world, keeps to a guarantee that may depend on that world. -/
def StartsSafe (handle : (req : Req) → W → Ans req × W) (rely : W → W → Prop)
    (guar : W → W → W → Option α → Prop) (post : W → α → W → Prop) (prog : Prog Ans α) : Prop :=
  ∀ world, guar world world (prog.step handle world).2 (prog.step handle world).1.result? ∧
    (prog.step handle world).1.Safe handle rely (guar world) (post world)
      (prog.step handle world).2

/-- **Programs that start safe are safe once they have started**, each with the guarantee of the
world it started in. -/
theorem run_startsSafe (refl : ∀ a, rely a a) (trans : ∀ a b c, rely a b → rely b c → rely a c)
    (compatible : ∀ i start before after result,
      startGuar i start before after result → rely before after)
    (surroundingsRely : ∀ world event, rely world (surroundings world event))
    (starts : ∀ i, StartsSafe handle rely (startGuar i) (startPost i) (pool.progs i))
    (events : List (PoolEvent ι ε)) (i : ι) (start : W)
    (started : pool.startedAt handle surroundings events i = some start) :
    ((Lib.run (Pool.step handle surroundings) pool events).progs i).Safe handle rely
      (startGuar i start) (startPost i start)
      (Lib.run (Pool.step handle surroundings) pool events).world := by
  induction events using List.reverseRecOn generalizing i start with
  | nil => cases started
  | append_singleton past event ih =>
    rw [run_append_singleton]
    rw [startedAt_append_singleton] at started
    cases event with
    | change event =>
      simp only [PoolEvent.isThread, Bool.false_eq_true, if_false, Option.or_none] at started
      exact (ih i start started).stable trans (surroundingsRely _ _)
    | thread j =>
      by_cases same : i = j
      · subst same
        rw [progs_step_thread_self, step_thread]
        simp only [PoolEvent.isThread, decide_true, if_true] at started
        cases earlier : pool.startedAt handle surroundings past i with
        | none =>
          rw [earlier, Option.none_or, Option.some.injEq] at started
          subst started
          rw [progs_of_not_started earlier]
          exact (starts i _).2
        | some first =>
          rw [earlier, Option.some_or, Option.some.injEq] at started
          subst started
          exact (ih i first earlier).step refl
      · simp only [PoolEvent.isThread, Ne.symm same, decide_false, Bool.false_eq_true, if_false,
          Option.or_none] at started
        rw [progs_step_thread_of_ne same, step_thread]
        refine (ih i start started).stable trans ?_
        -- the step of the other program is within the rely, started or not
        cases earlier : pool.startedAt handle surroundings past j with
        | none =>
          rw [progs_of_not_started earlier]
          exact compatible j _ _ _ _ (starts j _).1
        | some first =>
          have safe := ih j first earlier
          cases current : (Lib.run (Pool.step handle surroundings) pool past).progs j with
          | ret value => exact refl _
          | call req resume =>
            rw [current] at safe
            exact compatible j _ _ _ _ (safe.guar_call refl)

end Starts

/-! ### Completions -/

section Completions

variable (counts : α → Bool)

/-- The program an event completes, if it returns a value that counts. -/
def completes (handle : (req : Req) → W → Ans req × W) (pool : Pool Ans ι α W) :
    PoolEvent ι ε → Option ι
  | .change _ => none
  | .thread i => if (pool.progs i).finishes counts handle pool.world then some i else none

/-- The programs that return a value that counts, in the order in which they do. -/
def completions (handle : (req : Req) → W → Ans req × W) (surroundings : W → ε → W)
    (pool : Pool Ans ι α W) : List (PoolEvent ι ε) → List ι
  | [] => []
  | event :: rest => (pool.completes counts handle event).toList ++
      completions handle surroundings (pool.step handle surroundings event) rest

theorem completes_thread (i : ι) :
    (pool.completes counts handle (.thread i : PoolEvent ι ε)).toList =
      if (pool.progs i).finishes counts handle pool.world then [i] else [] := by
  rw [completes]
  split <;> rfl

theorem completions_append (first second : List (PoolEvent ι ε)) :
    pool.completions counts handle surroundings (first ++ second) =
      pool.completions counts handle surroundings first ++
        (Lib.run (Pool.step handle surroundings) pool first).completions counts handle
          surroundings second := by
  induction first generalizing pool with
  | nil => rfl
  | cons event rest ih =>
    rw [List.cons_append, completions, completions, ih, List.append_assoc, run_cons]

theorem completions_append_singleton (events : List (PoolEvent ι ε)) (event : PoolEvent ι ε) :
    pool.completions counts handle surroundings (events ++ [event]) =
      pool.completions counts handle surroundings events ++
        ((Lib.run (Pool.step handle surroundings) pool events).completes counts handle
          event).toList := by
  rw [completions_append, completions, completions, List.append_nil]

/-- What an event does to the programs that have returned a value that counts. -/
theorem returned_step (event : PoolEvent ι ε) (i : ι) :
    (∃ value, counts value = true ∧
        (pool.step handle surroundings event).progs i = .ret value) ↔
      (∃ value, counts value = true ∧ pool.progs i = .ret value) ∨
        pool.completes counts handle event = some i := by
  cases event with
  | change event => simp [step, completes]
  | thread j =>
    by_cases same : i = j
    · subst same
      rw [progs_step_thread_self]
      cases current : pool.progs i with
      | ret value => simp [Prog.step, completes, current, Prog.finishes]
      | call req resume =>
        simp only [Prog.step, completes, current, Prog.finishes]
        cases resume (handle req pool.world).1 with
        | ret value => by_cases counted : counts value = true <;> simp [Prog.result?, counted]
        | call nextReq nextResume => simp [Prog.result?]
    · rw [progs_step_thread_of_ne same]
      have other : pool.completes counts handle (.thread j : PoolEvent ι ε) ≠ some i := by
        simp only [completes, ne_eq, Option.ite_none_right_eq_some, Option.some.injEq, not_and]
        exact fun _ => Ne.symm same
      simp [other]

/-- A program that has returned does not complete again. -/
theorem not_completes_of_returned {event : PoolEvent ι ε} {i : ι} {value : α}
    (returned : pool.progs i = .ret value) : pool.completes counts handle event ≠ some i := by
  cases event with
  | change event => simp [completes]
  | thread j =>
    simp only [completes, ne_eq, Option.ite_none_right_eq_some, Option.some.injEq, not_and]
    rintro finished rfl
    rw [returned] at finished
    cases finished

/-- **The completions of a run** are exactly the programs that have returned a value that counts,
each once. -/
theorem completions_spec (fresh : ∀ i value, pool.progs i ≠ .ret value)
    (events : List (PoolEvent ι ε)) :
    (pool.completions counts handle surroundings events).Nodup ∧
      ∀ i, i ∈ pool.completions counts handle surroundings events ↔
        ∃ value, counts value = true ∧
          (Lib.run (Pool.step handle surroundings) pool events).progs i = .ret value := by
  induction events using List.reverseRecOn with
  | nil => exact ⟨List.nodup_nil, fun i => by simp [completions, fresh]⟩
  | append_singleton past event ih =>
    obtain ⟨nodup, members⟩ := ih
    rw [completions_append_singleton, run_append_singleton]
    refine ⟨List.nodup_append.mpr ⟨nodup, ?_, ?_⟩, fun i => ?_⟩
    · cases completes counts handle _ event <;> simp
    · rintro i before _ now rfl
      obtain ⟨value, _, returned⟩ := (members i).mp before
      exact not_completes_of_returned counts returned (Option.mem_toList.mp now)
    · rw [List.mem_append, members, returned_step, Option.mem_toList]

end Completions

end Pool

end Opendps.Lib
