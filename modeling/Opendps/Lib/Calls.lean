/-
**Programs that make allowed calls only.**

`Makes allowed prog` says that whatever its calls are answered, a program makes no other call than those
allowed. It composes along `bind`. What every allowed call keeps, a pool of such programs keeps, whoever
comes first (`Pool.invariant_of_makes`).

A program may see a part of the world only, its `view`. Where its surroundings leave this part alone, a
program comes to what it comes to by itself, whenever they step in (`Pool.run_view`).
-/

import Opendps.Lib.Prog

namespace Opendps.Lib

namespace Prog

variable {Req : Type} {Ans : Req → Type} {α β W : Type} {allowed : Req → Prop}

/-- Every call is an allowed one. -/
def Makes (allowed : Req → Prop) : Prog Ans α → Prop
  | ret _ => True
  | call req resume => allowed req ∧ ∀ answer, (resume answer).Makes allowed

theorem Makes.bind {first : Prog Ans β} {next : β → Prog Ans α} (makes : first.Makes allowed)
    (later : ∀ value, (next value).Makes allowed) : (first.bind next).Makes allowed := by
  induction first with
  | ret value => exact later value
  | call req resume ih => exact ⟨makes.1, fun answer => ih answer (makes.2 answer)⟩

/-- After a call, too. -/
theorem Makes.step {handle : (req : Req) → W → Ans req × W} {prog : Prog Ans α}
    (makes : prog.Makes allowed) (world : W) : (prog.step handle world).1.Makes allowed := by
  cases prog with
  | ret value => exact trivial
  | call req resume => exact makes.2 _

/-- What every allowed call keeps, the next call keeps. -/
theorem Makes.invariant_step {handle : (req : Req) → W → Ans req × W} {inv : W → Prop}
    (kept : ∀ req, allowed req → ∀ world, inv world → inv (handle req world).2) {prog : Prog Ans α}
    (makes : prog.Makes allowed) {world : W} (before : inv world) :
    inv (prog.step handle world).2 := by
  cases prog with
  | ret value => exact before
  | call req resume => exact kept req makes.1 world before

theorem Makes.mono {more : Req → Prop} {prog : Prog Ans α} (makes : prog.Makes allowed)
    (wider : ∀ req, allowed req → more req) : prog.Makes more := by
  induction prog with
  | ret value => exact trivial
  | call req resume ih => exact ⟨wider req makes.1, fun answer => ih answer (makes.2 answer)⟩

/-- However its calls are answered, what a program returns is of a kind. -/
def Yields (post : α → Prop) : Prog Ans α → Prop
  | ret value => post value
  | call _ resume => ∀ answer, (resume answer).Yields post

theorem Yields.bind {post : α → Prop} {mid : β → Prop} {first : Prog Ans β} {next : β → Prog Ans α}
    (yields : first.Yields mid) (later : ∀ value, mid value → (next value).Yields post) :
    (first.bind next).Yields post := by
  induction first with
  | ret value => exact later value yields
  | call req resume ih => exact fun answer => ih answer (yields answer)

theorem yields_true (prog : Prog Ans α) : prog.Yields fun _ => True := by
  induction prog with
  | ret value => exact trivial
  | call req resume ih => exact ih

theorem Yields.mono {strong post : α → Prop} {prog : Prog Ans α} (yields : prog.Yields strong)
    (weaker : ∀ value, strong value → post value) : prog.Yields post := by
  induction prog with
  | ret value => exact weaker value yields
  | call req resume ih => exact fun answer => ih answer (yields answer)

theorem Makes.bind_of_yields {mid : β → Prop} {first : Prog Ans β} {next : β → Prog Ans α}
    (makes : first.Makes allowed) (yields : first.Yields mid)
    (later : ∀ value, mid value → (next value).Makes allowed) : (first.bind next).Makes allowed := by
  induction first with
  | ret value => exact later value yields
  | call req resume ih => exact ⟨makes.1, fun answer => ih answer (makes.2 answer) (yields answer)⟩

/-- However its calls are answered, a program makes at most so many calls that count. -/
def AtMost (counts : Req → Bool) : Prog Ans α → ℕ → Prop
  | ret _, _ => True
  | call req resume, n =>
    if counts req then 0 < n ∧ ∀ answer, (resume answer).AtMost counts (n - 1)
    else ∀ answer, (resume answer).AtMost counts n

section AtMost

variable {counts : Req → Bool} {m n : ℕ}

theorem AtMost.mono {prog : Prog Ans α} (bound : prog.AtMost counts m) (more : m ≤ n) :
    prog.AtMost counts n := by
  induction prog generalizing m n with
  | ret value => exact trivial
  | call req resume ih =>
    unfold AtMost at bound ⊢
    split
    · next counted =>
      rw [if_pos counted] at bound
      exact ⟨by omega, fun answer => ih answer (bound.2 answer) (by omega)⟩
    · next free =>
      rw [if_neg free] at bound
      exact fun answer => ih answer (bound answer) more

theorem AtMost.bind_of_yields {mid : β → Prop} {first : Prog Ans β} {next : β → Prog Ans α}
    (bound : first.AtMost counts m) (yields : first.Yields mid)
    (later : ∀ value, mid value → (next value).AtMost counts n) :
    (first.bind next).AtMost counts (m + n) := by
  induction first generalizing m with
  | ret value => exact (later value yields).mono (Nat.le_add_left n m)
  | call req resume ih =>
    unfold AtMost at bound
    rw [bind_call, AtMost]
    split
    · next counted =>
      rw [if_pos counted] at bound
      refine ⟨by omega, fun answer => ?_⟩
      have rest := ih answer (bound.2 answer) (yields answer)
      rwa [show m + n - 1 = m - 1 + n by omega]
    · next free =>
      rw [if_neg free] at bound
      exact fun answer => ih answer (bound answer) (yields answer)

/-- A call that counts uses up one. -/
theorem AtMost.step {req : Req} {resume : Ans req → Prog Ans α}
    (bound : (call req resume).AtMost counts n) (handle : (req : Req) → W → Ans req × W) (world : W) :
    ((resume (handle req world).1).AtMost counts (n - if counts req then 1 else 0)) ∧
      (if counts req then 1 else 0) ≤ n := by
  unfold AtMost at bound
  cases counted : counts req with
  | true =>
    rw [if_pos counted] at bound
    exact ⟨bound.2 _, bound.1⟩
  | false =>
    rw [if_neg (by rw [counted]; exact Bool.false_ne_true)] at bound
    exact ⟨bound _, Nat.zero_le n⟩

end AtMost

/-- Run alone, a program that sees a part of the world comes to what the part makes of it. -/
theorem run_view {V : Type} {view : W → V} {seen : (req : Req) → V → Ans req × V}
    {handle : (req : Req) → W → Ans req × W} {inv : W → Prop}
    (sees : ∀ req, allowed req → ∀ world, inv world →
      seen req (view world) = ((handle req world).1, view (handle req world).2))
    (kept : ∀ req, allowed req → ∀ world, inv world → inv (handle req world).2) {prog : Prog Ans α}
    (makes : prog.Makes allowed) {world : W} (before : inv world) :
    prog.run seen (view world) = ((prog.run handle world).1, view (prog.run handle world).2) := by
  induction prog generalizing world with
  | ret value => rfl
  | call req resume ih =>
    rw [run, sees req makes.1 world before]
    exact ih _ (makes.2 _) (kept req makes.1 world before)

/-- What the calls of a program keep, whatever the others do, it ends with. -/
theorem safe_of_makes {handle : (req : Req) → W → Ans req × W} {rely : W → W → Prop} {inv : W → Prop}
    {post : α → Prop} (stable : ∀ world later, inv world → rely world later → inv later)
    (kept : ∀ req, allowed req → ∀ world, inv world → inv (handle req world).2) {prog : Prog Ans α}
    (makes : prog.Makes allowed) (yields : prog.Yields post) {world : W} (before : inv world) :
    prog.Safe handle rely (fun _ _ _ => True) (fun value later => post value ∧ inv later) world := by
  induction prog generalizing world with
  | ret value => exact fun later changed => ⟨yields, stable world later before changed⟩
  | call req resume ih =>
    intro later changed
    have still := stable world later before changed
    exact ⟨trivial, ih _ (makes.2 _) (yields _) (kept req makes.1 later still)⟩

/-- A program whose first call is answered goes on with the answer. -/
theorem run_call {handle : (req : Req) → W → Ans req × W} {req : Req} {answer : Ans req}
    {world next : W} (answered : handle req world = (answer, next)) (resume : Ans req → Prog Ans α) :
    (call req resume).run handle world = (resume answer).run handle next := by
  rw [run, answered]

end Prog

namespace Pool

variable {Req : Type} {Ans : Req → Type} {ι α ε W : Type} [DecidableEq ι] {allowed : Req → Prop}

/-- **What every allowed call keeps, a pool keeps**, in any order of its calls and among changes that
keep it. -/
theorem invariant_of_makes {handle : (req : Req) → W → Ans req × W} {surroundings : W → ε → W}
    {inv : W → Prop} {pool : Pool Ans ι α W}
    (kept : ∀ req, allowed req → ∀ world, inv world → inv (handle req world).2)
    (changed : ∀ world event, inv world → inv (surroundings world event))
    (makes : ∀ i, (pool.progs i).Makes allowed) (before : inv pool.world)
    (events : List (PoolEvent ι ε)) :
    inv (Lib.run (Pool.step handle surroundings) pool events).world := by
  have every : inv (Lib.run (Pool.step handle surroundings) pool events).world ∧
      ∀ i, ((Lib.run (Pool.step handle surroundings) pool events).progs i).Makes allowed := by
    refine run_invariant (fun _ (state : Pool Ans ι α W) => inv state.world ∧
      ∀ i, (state.progs i).Makes allowed) ⟨before, makes⟩ (fun _ event state holds => ?_) events
    obtain ⟨stands, only⟩ := holds
    cases event with
    | change event => exact ⟨changed state.world event stands, only⟩
    | thread i =>
      refine ⟨(only i).invariant_step kept stands, fun j => ?_⟩
      by_cases same : j = i
      · subst same
        rw [progs_step_thread_self]
        exact (only j).step state.world
      · rw [progs_step_thread_of_ne same]
        exact only j
  exact every.1

/-- What safe programs rely on and keep, a pool keeps. -/
theorem invariant_of_safe {handle : (req : Req) → W → Ans req × W} {surroundings : W → ε → W}
    {inv : W → Prop} {post : ι → α → W → Prop} {pool : Pool Ans ι α W}
    (changed : ∀ world event, inv world → inv (surroundings world event))
    (safe : pool.Safe handle (fun earlier later => inv earlier → inv later)
      (fun _ earlier later _ => inv earlier → inv later) post) (before : inv pool.world)
    (events : List (PoolEvent ι ε)) :
    inv (Lib.run (Pool.step handle surroundings) pool events).world := by
  have every : inv (Lib.run (Pool.step handle surroundings) pool events).world ∧
      (Lib.run (Pool.step handle surroundings) pool events).Safe handle
        (fun earlier later => inv earlier → inv later)
        (fun _ earlier later _ => inv earlier → inv later) post := by
    refine run_invariant (fun _ (state : Pool Ans ι α W) => inv state.world ∧ state.Safe handle
      (fun earlier later => inv earlier → inv later)
      (fun _ earlier later _ => inv earlier → inv later) post) ⟨before, safe⟩
      (fun _ event state holds => ?_) events
    obtain ⟨stands, still⟩ := holds
    refine ⟨?_, Safe.step ?_ ?_ ?_ ?_ still event⟩
    rotate_left
    · exact fun _ stays => stays
    · exact fun _ _ _ first second stays => second (first stays)
    · exact fun _ _ _ _ keeps => keeps
    · exact changed
    cases event with
    | change event => exact changed state.world event stands
    | thread i =>
      rw [step_thread]
      cases current : state.progs i with
      | ret value => exact stands
      | call req resume =>
        have own := still i
        rw [current] at own
        exact own.guar_call (fun _ stays => stays) stands
  exact every.1

/-- A program that is left alone for long enough gets its first part done. -/
theorem exists_alone {β : Type} {handle : (req : Req) → W → Ans req × W} {surroundings : W → ε → W}
    {i : ι} {first : Prog Ans β} {next : β → Prog Ans α} {pool : Pool Ans ι α W}
    (here : pool.progs i = first.bind next) :
    ∃ count, Lib.run (Pool.step handle surroundings) pool (List.replicate count (.thread i)) =
      ⟨(first.run handle pool.world).2,
        Function.update pool.progs i (next (first.run handle pool.world).1)⟩ := by
  induction first generalizing pool with
  | ret value =>
    refine ⟨0, ?_⟩
    have same : Function.update pool.progs i (next value) = pool.progs := by
      rw [← Prog.bind_ret value next, ← here, Function.update_eq_self]
    rw [Prog.run, same]
    rfl
  | call req resume ih =>
    have answered : (pool.step handle surroundings (.thread i)).progs i =
        (resume (handle req pool.world).1).bind next := by
      rw [progs_step_thread_self, here]
      rfl
    obtain ⟨count, rest⟩ := ih _ answered
    have world : (pool.step handle surroundings (.thread i)).world = (handle req pool.world).2 := by
      rw [step_thread, here]
      rfl
    refine ⟨count + 1, ?_⟩
    rw [List.replicate_succ, run_cons, rest, world, step_thread, Function.update_idem]
    rfl

/-- One program is safe among surroundings within its rely, whatever it does itself. -/
theorem safe_run_of_one {handle : (req : Req) → W → Ans req × W} {surroundings : W → ε → W}
    {rely : W → W → Prop} {guar : W → W → Option α → Prop} {post : α → W → Prop}
    {pool : Pool Ans Unit α W} (refl : ∀ a, rely a a)
    (trans : ∀ a b c, rely a b → rely b c → rely a c)
    (surroundingsRely : ∀ world event, rely world (surroundings world event))
    (safe : (pool.progs ()).Safe handle rely guar post pool.world)
    (events : List (PoolEvent Unit ε)) :
    ((Lib.run (Pool.step handle surroundings) pool events).progs ()).Safe handle rely guar post
      (Lib.run (Pool.step handle surroundings) pool events).world := by
  refine run_invariant (fun _ (state : Pool Ans Unit α W) =>
    (state.progs ()).Safe handle rely guar post state.world) safe (fun _ event state before => ?_) events
  cases event with
  | change event => exact before.stable trans (surroundingsRely state.world event)
  | thread i =>
    rw [progs_step_thread_self, step_thread]
    exact before.step refl

/-- **What a program comes to, seeing a part of the world.** At every moment of a run: with nobody else
around it would come to the same as from the start. -/
theorem run_view {V : Type} {view : W → V} {seen : (req : Req) → V → Ans req × V}
    {handle : (req : Req) → W → Ans req × W} {surroundings : W → ε → W} {inv : W → Prop}
    {pool : Pool Ans Unit α W}
    (sees : ∀ req, allowed req → ∀ world, inv world →
      seen req (view world) = ((handle req world).1, view (handle req world).2))
    (unseen : ∀ world event, inv world → view (surroundings world event) = view world)
    (kept : ∀ req, allowed req → ∀ world, inv world → inv (handle req world).2)
    (changed : ∀ world event, inv world → inv (surroundings world event))
    (makes : (pool.progs ()).Makes allowed) (before : inv pool.world)
    (events : List (PoolEvent Unit ε)) :
    ((Lib.run (Pool.step handle surroundings) pool events).progs ()).run seen
        (view (Lib.run (Pool.step handle surroundings) pool events).world) =
      (pool.progs ()).run seen (view pool.world) := by
  have every := @run_invariant _ _ (Pool.step handle surroundings) pool
    (fun _ (state : Pool Ans Unit α W) => inv state.world ∧ (state.progs ()).Makes allowed ∧
      (state.progs ()).run seen (view state.world) = (pool.progs ()).run seen (view pool.world))
    ⟨before, makes, rfl⟩ (fun _ event state holds => ?_) events
  · exact every.2.2
  · obtain ⟨stands, only, same⟩ := holds
    cases event with
    | change event =>
      refine ⟨changed state.world event stands, only, ?_⟩
      show (state.progs ()).run seen (view (surroundings state.world event)) = _
      rw [unseen state.world event stands, same]
    | thread i =>
      rw [progs_step_thread_self, step_thread]
      refine ⟨only.invariant_step kept stands, only.step state.world, ?_⟩
      rw [← same]
      cases current : state.progs () with
      | ret value => rfl
      | call req resume =>
        rw [current] at only
        rw [Prog.run_call (sees req only.1 state.world stands)]
        rfl

end Pool

end Opendps.Lib
