/-
**What the fallback of the linear-program brain has seen.**

A tick that the solver does not decide goes to a PRS brain of its own. That brain is called at those
ticks only, and the constructor does not hand it the reclaim threshold, so it is a PRS brain with the
default threshold that has seen the failing ticks (`CVXPYBrain.fallback_run`). What it holds for a GPU is
the blend of the draws at these ticks (`PRSBrain.heldEwma_calls`).

`CVXPYBrain.Shape` is what a run looks like from outside: the domain of every tick, the GPUs that
reported, and whether the solver decided it. Where a shape misses nothing (`NothingMissed`), the fallback
decides like a PRS brain that has seen every tick (`CVXPYBrain.followsPrs_of_nothingMissed`).
-/

import Opendps.Brain.Cvxpy
import Opendps.Brain.TenantBrains

namespace Opendps.Brain

open Opendps.Lib Opendps.Pdn

/-! ### What a blend keeps of the draws -/

section Blends

variable {alpha low high : ℚ} {draws : List ℚ} {held : ℚ}

/-- What every draw has and a blend keeps, the blend of all draws has. -/
theorem blends_induction {holds : ℚ → Prop}
    (kept : ∀ draw previous, holds draw → holds previous → holds (blend alpha draw previous))
    (each : ∀ draw ∈ draws, holds draw) (blended : blends alpha draws = some held) : holds held := by
  induction draws using List.reverseRecOn generalizing held with
  | nil => cases blended
  | append_singleton earlier last ih =>
    rw [blends_append_singleton, Option.some.injEq] at blended
    have now := each last (List.mem_append_right _ (List.mem_singleton_self _))
    rw [← blended]
    refine kept _ _ now ?_
    cases found : blends alpha earlier with
    | none => exact now
    | some value => exact ih (fun draw member => each draw (List.mem_append_left _ member)) found

theorem le_blend (pos : 0 < alpha) (atMost : alpha ≤ 1) {draw previous : ℚ} (new : low ≤ draw)
    (old : low ≤ previous) : low ≤ blend alpha draw previous := by
  have weighted : low = alpha * low + (1 - alpha) * low := by ring
  rw [blend, weighted]
  exact add_le_add (mul_le_mul_of_nonneg_left new pos.le)
    (mul_le_mul_of_nonneg_left old (sub_nonneg.mpr atMost))

theorem blend_le (pos : 0 < alpha) (atMost : alpha ≤ 1) {draw previous : ℚ} (new : draw ≤ high)
    (old : previous ≤ high) : blend alpha draw previous ≤ high := by
  have weighted : high = alpha * high + (1 - alpha) * high := by ring
  rw [blend, weighted]
  exact add_le_add (mul_le_mul_of_nonneg_left new pos.le)
    (mul_le_mul_of_nonneg_left old (sub_nonneg.mpr atMost))

/-- A blend with something larger is larger, where both count. -/
theorem lt_blend_of_previous (pos : 0 < alpha) (smooths : alpha < 1) {draw previous : ℚ}
    (new : low ≤ draw) (old : low < previous) : low < blend alpha draw previous := by
  have weighted : low = alpha * low + (1 - alpha) * low := by ring
  rw [blend, weighted]
  exact add_lt_add_of_le_of_lt (mul_le_mul_of_nonneg_left new pos.le)
    (mul_lt_mul_of_pos_left old (sub_pos.mpr smooths))

theorem lt_blend_of_draw (pos : 0 < alpha) (atMost : alpha ≤ 1) {draw previous : ℚ}
    (new : low < draw) (old : low ≤ previous) : low < blend alpha draw previous := by
  have weighted : low = alpha * low + (1 - alpha) * low := by ring
  rw [blend, weighted]
  exact add_lt_add_of_lt_of_le (mul_lt_mul_of_pos_left new pos)
    (mul_le_mul_of_nonneg_left old (sub_nonneg.mpr atMost))

/-- Some draws have a blend. -/
theorem blends_isSome (alpha : ℚ) {draw : ℚ} (member : draw ∈ draws) :
    ∃ value, blends alpha draws = some value := by
  cases draws using List.reverseRecOn with
  | nil => cases member
  | append_singleton earlier last => exact ⟨_, blends_append_singleton alpha earlier last⟩

/-- **One larger draw is never forgotten**, where the draws are smoothed. -/
theorem lt_blends (pos : 0 < alpha) (smooths : alpha < 1) (bounds : ∀ draw ∈ draws, low ≤ draw)
    {larger : ℚ} (member : larger ∈ draws) (above : low < larger)
    (blended : blends alpha draws = some held) : low < held := by
  induction draws using List.reverseRecOn generalizing held with
  | nil => cases blended
  | append_singleton earlier last ih =>
    have lower : ∀ draw ∈ earlier, low ≤ draw :=
      fun draw inside => bounds draw (List.mem_append_left _ inside)
    have lastLow := bounds last (List.mem_append_right _ (List.mem_singleton_self _))
    rw [blends_append_singleton, Option.some.injEq] at blended
    rw [← blended]
    rcases List.mem_append.mp member with before | now
    · obtain ⟨value, found⟩ := blends_isSome alpha before
      rw [found]
      exact lt_blend_of_previous pos smooths lastLow (ih lower before found)
    · rw [List.mem_singleton] at now
      refine lt_blend_of_draw pos smooths.le (now ▸ above) ?_
      cases found : blends alpha earlier with
      | none => exact lastLow
      | some value => exact blends_induction (fun _ _ => le_blend pos smooths.le) lower found

end Blends

/-! ### Two ticks with the same smoothed draws -/

namespace Tick

variable {tick : Tick} {ewma last : Dict GpuIndex ℚ} {gpu : GpuIndex}

/-- Without a limiter the caps depend on the smoothed draws of the tick's GPUs only. -/
theorem get?_caps_congr (unlimited : tick.params.capRaiseRateWPerTick = 0)
    (same : ∀ gpu ∈ tick.gpus, ewma.getD gpu 0 = tick.smoothed gpu) :
    ({ tick with ewma := ewma, last := last } : Tick).caps.get? gpu = tick.caps.get? gpu := by
  generalize renamed : ({ tick with ewma := ewma, last := last } : Tick) = other
  have gpus : other.gpus = tick.gpus := by rw [← renamed]; rfl
  have hwMax : other.hwMax = tick.hwMax := by rw [← renamed]; rfl
  have params : other.params = tick.params := by rw [← renamed]
  have budget : other.budget = tick.budget := by rw [← renamed]
  have smoothed : ∀ gpu ∈ tick.gpus, other.smoothed gpu = tick.smoothed gpu := by
    rw [← renamed]
    exact same
  have isHot : ∀ gpu ∈ tick.gpus, other.isHot gpu = tick.isHot gpu := by
    intro gpu present
    have equal := smoothed gpu present
    rw [← renamed] at equal ⊢
    unfold Tick.isHot
    rw [equal]
    rfl
  have hot : other.hot = tick.hot := by
    rw [Tick.hot, gpus]
    exact List.filter_congr isHot
  have idle : other.idle = tick.idle := by
    rw [Tick.idle, gpus]
    exact List.filter_congr fun gpu present => by rw [isHot gpu present]
  have idleFloor : ∀ gpu ∈ tick.gpus, other.idleFloor gpu = tick.idleFloor gpu := by
    intro gpu present
    rw [Tick.idleFloor, Tick.idleFloor, params, hwMax, smoothed gpu present]
  have idleTotal : other.idleTotal = tick.idleTotal := by
    rw [idleTotal_eq, idleTotal_eq, idle]
    exact congrArg List.sum
      (List.map_congr_left fun gpu member => idleFloor gpu (List.mem_of_mem_filter member))
  have totalHotEwma : other.totalHotEwma = tick.totalHotEwma := by
    rw [Tick.totalHotEwma, Tick.totalHotEwma, hot]
    exact congrArg List.sum
      (List.map_congr_left fun gpu member => smoothed gpu (List.mem_of_mem_filter member))
  have hotCap : ∀ gpu ∈ tick.gpus, other.hotCap gpu = tick.hotCap gpu := by
    intro gpu present
    rw [Tick.hotCap, Tick.hotCap, Tick.raw, Tick.raw, Tick.hotBudget, Tick.hotBudget, params, hwMax,
      totalHotEwma, hot, smoothed gpu present, budget, idleTotal]
  by_cases present : gpu ∈ tick.gpus
  · have unlimited' : other.params.capRaiseRateWPerTick = 0 := params ▸ unlimited
    rw [get?_caps_of_unlimited unlimited' (gpus ▸ present), get?_caps_of_unlimited unlimited present,
      target, target, isHot gpu present, hotCap gpu present, idleFloor gpu present]
  · rw [Dict.get?_eq_none_iff.mpr fun member => present (gpus ▸ mem_keys_caps.mp member),
      Dict.get?_eq_none_iff.mpr fun member => present (mem_keys_caps.mp member)]

end Tick

/-! ### The history of a PRS brain -/

/-- A call of the brain: the topology as it is then, the domain, its telemetry, and the library if it is
installed. -/
structure LpCall where
  topology : PDNTopology
  domainName : String
  state : DomainState
  cp : Option Solver

/-- The call, as a PRS brain gets it. -/
def LpCall.prs (call : LpCall) : PRSCall := .decide call.topology call.domainName call.state

/-- The draws of a GPU at the calls for a domain that its topology has. -/
def drawsOf (domainName : String) (gpu : GpuIndex) (calls : List LpCall) : List ℚ :=
  calls.filterMap fun call =>
    if call.domainName = domainName ∧ call.topology.domains.contains domainName then
      call.state.gpuDraws.get? gpu
    else none

namespace PRSBrain

/-- What a call does to the tables, one that raises included. -/
theorem ewma_step (brain : PRSBrain) (call : LpCall) :
    (brain.step call.prs).ewma =
      if call.topology.domains.contains call.domainName then
        brain.ewma.set call.domainName (updateEwma brain.params.ewmaAlpha
          (brain.ewma.getD call.domainName .empty) call.state.gpuDraws)
      else brain.ewma := by
  rw [LpCall.prs]
  cases present : call.topology.domain call.domainName with
  | error exc =>
    have raises := brain.decide_error call.state (PDNTopology.domainBudgetW_error present)
    simp only [step, raises, PDNTopology.not_contains_of_domain present, Bool.false_eq_true, if_false]
  | ok found =>
    obtain ⟨budget, answer⟩ := PDNTopology.domainBudgetW_isOk present
    obtain ⟨decision, next, decided⟩ := brain.decide_isOk call.state answer
    rw [step_decide decided, (decide_ok answer decided).2.2.1,
      if_pos (PDNTopology.contains_of_domain present)]
    rfl

/-- What a call does to the draw that is held for a GPU. -/
theorem heldEwma_step (brain : PRSBrain) (call : LpCall) (domainName : String) (gpu : GpuIndex) :
    (brain.step call.prs).heldEwma domainName gpu =
      if call.domainName = domainName ∧ call.topology.domains.contains domainName then
        ((call.state.gpuDraws.get? gpu).map fun draw =>
          blend brain.params.ewmaAlpha draw ((brain.heldEwma domainName gpu).getD draw)).or
            (brain.heldEwma domainName gpu)
      else brain.heldEwma domainName gpu := by
  rw [heldEwma, ewma_step]
  by_cases seen : call.domainName = domainName ∧ call.topology.domains.contains domainName = true
  · obtain ⟨rfl, known⟩ := seen
    rw [if_pos known, if_pos ⟨rfl, known⟩, Dict.getD_set_self]
    exact get?_updateEwma _ _ _ _
  · rw [if_neg seen]
    split
    · next known =>
      have elsewhere : domainName ≠ call.domainName := by
        rintro rfl
        exact seen ⟨rfl, known⟩
      rw [Dict.getD_set_of_ne _ _ _ elsewhere]
      rfl
    · rfl

/-- A PRS brain holds the blend of the draws of the calls. -/
theorem heldEwma_calls (params : PRSParams) (calls : List LpCall) (domainName : String)
    (gpu : GpuIndex) :
    (run step { params := params } (calls.map LpCall.prs)).heldEwma domainName gpu =
      blends params.ewmaAlpha (drawsOf domainName gpu calls) := by
  induction calls using List.reverseRecOn with
  | nil => rfl
  | append_singleton earlier last ih =>
    rw [List.map_append, List.map_singleton, run_append_singleton, heldEwma_step, ih, params_run]
    have split : drawsOf domainName gpu (earlier ++ [last]) =
        drawsOf domainName gpu earlier ++ drawsOf domainName gpu [last] := List.filterMap_append ..
    rw [split]
    by_cases seen : last.domainName = domainName ∧ last.topology.domains.contains domainName = true
    · rw [if_pos seen]
      cases drawn : last.state.gpuDraws.get? gpu with
      | none => simp [drawsOf, drawn]
      | some draw => simp [drawsOf, drawn, seen, blends_append_singleton]
    · simp [drawsOf, seen]

end PRSBrain

/-! ### The brain next to its fallback -/

namespace CVXPYBrain

/-- The solver path decides a call: the library is there, the domain exists, every maximum is known, and
the answer counts. -/
def solves (self : CVXPYBrain) (call : LpCall) : Bool :=
  match call.cp, call.topology.domain call.domainName with
  | some solve, .ok domain =>
    ((self.tick domain call.domainName call.state).gpus.all fun gpu =>
        call.state.gpuMaxCaps.contains gpu) &&
      (solve.point (self.tick domain call.domainName call.state).problem).isSome
  | _, _ => false

/-- The brain after a call, one that raises included. -/
def step (self : CVXPYBrain) (call : LpCall) : CVXPYBrain :=
  match self.decide call.topology call.domainName call.state call.cp with
  | .ok (_, next) => next
  | .error _ =>
    match call.cp with
    | none => self
    | some solve => (self.decideCvxpy call.topology call.domainName call.state solve).2

/-- A call falls back as a PRS brain decides: with the same caps. -/
def FallsBackAs (self : CVXPYBrain) (reference : PRSBrain) (call : LpCall) : Prop :=
  ∀ decision next,
    self.decide call.topology call.domainName call.state call.cp = .ok (decision, next) →
      ∃ other after, reference.decide call.topology call.domainName call.state = .ok (other, after) ∧
        ∀ gpu, decision.caps.get? gpu = other.caps.get? gpu

section Fallback

variable {self : CVXPYBrain} {topology : PDNTopology} {domainName : String} {state : DomainState}
  {solve : Solver}

/-- The outcomes of the solver path: a decision of its own, one of the fallback, or an exception. -/
theorem decideCvxpy_cases (self : CVXPYBrain) (topology : PDNTopology) (domainName : String)
    (state : DomainState) (solve : Solver) :
    (self.solves ⟨topology, domainName, state, solve⟩ = true ∧ ∃ decision next,
      self.decideCvxpy topology domainName state solve = (.ok decision, next) ∧
        next.fallback = self.fallback) ∨
    (self.solves ⟨topology, domainName, state, solve⟩ = false ∧ ∃ decision after next,
      self.fallback.decide topology domainName state = .ok (decision, after) ∧
        self.decideCvxpy topology domainName state solve = (.ok decision, next) ∧
        next.fallback = after) ∨
    (self.solves ⟨topology, domainName, state, solve⟩ = false ∧ ∃ exc next,
      self.decideCvxpy topology domainName state solve = (.error exc, next) ∧
        next.fallback = self.fallback) := by
  unfold decideCvxpy solves
  cases present : topology.domain domainName with
  | error exc => exact .inr (.inr ⟨rfl, exc, self, rfl, rfl⟩)
  | ok domain =>
    dsimp only
    cases missing : (self.tick domain domainName state).gpus.find?
        fun gpu => !state.gpuMaxCaps.contains gpu with
    | some gpu =>
      have unknown : ((self.tick domain domainName state).gpus.all
          fun gpu => state.gpuMaxCaps.contains gpu) = false := by
        rw [List.all_eq_false]
        have absent := List.find?_some missing
        refine ⟨gpu, List.mem_of_find?_eq_some missing, ?_⟩
        simpa using absent
      rw [unknown]
      exact .inr (.inr ⟨rfl, _, _, rfl, rfl⟩)
    | none =>
      have known : ((self.tick domain domainName state).gpus.all
          fun gpu => state.gpuMaxCaps.contains gpu) = true := by
        rw [List.all_eq_true]
        intro gpu listed
        have present := List.find?_eq_none.mp missing gpu listed
        simpa using present
      rw [known, Bool.true_and]
      unfold Solver.point
      cases answer : solve (self.tick domain domainName state).problem with
      | error exc => exact .inr (.inr ⟨rfl, _, _, rfl, rfl⟩)
      | ok solution =>
        dsimp only
        cases solution.accepted with
        | some point => exact .inl ⟨rfl, _, _, rfl, rfl⟩
        | none =>
          cases self.fallback.decide topology domainName state with
          | ok result => exact .inr (.inl ⟨rfl, result.1, result.2, _, rfl, rfl, rfl⟩)
          | error exc => exact .inr (.inr ⟨rfl, _, _, rfl, rfl⟩)

/-- What falling back does to the fallback and to the rest. -/
theorem fallBack_cases (self : CVXPYBrain) (topology : PDNTopology) (domainName : String)
    (state : DomainState) :
    (∃ decision after, self.fallback.decide topology domainName state = .ok (decision, after) ∧
      self.fallBack topology domainName state = .ok (decision, { self with fallback := after })) ∨
    ∃ exc, self.fallback.decide topology domainName state = .error exc ∧
      self.fallBack topology domainName state = .error exc := by
  unfold fallBack
  cases self.fallback.decide topology domainName state with
  | ok result => exact .inl ⟨result.1, result.2, rfl, rfl⟩
  | error exc => exact .inr ⟨exc, rfl, rfl⟩

/-- **One call.** The solver path decides it and leaves the fallback alone, or the fallback decides. -/
theorem decide_cases (self : CVXPYBrain) (call : LpCall) :
    (self.solves call = true ∧ (self.step call).fallback = self.fallback) ∨
    self.solves call = false ∧ (self.step call).fallback = self.fallback.step call.prs ∧
      ∀ decision next,
        self.decide call.topology call.domainName call.state call.cp = .ok (decision, next) →
          ∃ after, self.fallback.decide call.topology call.domainName call.state =
            .ok (decision, after) := by
  obtain ⟨topology, domainName, state, cp⟩ := call
  unfold step LpCall.prs PRSBrain.step decide
  cases cp with
  | none =>
    refine .inr ⟨rfl, ?_⟩
    rcases self.fallBack_cases topology domainName state with
      ⟨decision, after, decided, falls⟩ | ⟨exc, raised, falls⟩
    · simp only [decided, falls]
      exact ⟨trivial, fun other next same => by cases same; exact ⟨after, rfl⟩⟩
    · simp only [raised, falls]
      exact ⟨trivial, fun other next same => by cases same⟩
  | some solve =>
    rcases self.decideCvxpy_cases topology domainName state solve with
      ⟨solved, decision, next, path, kept⟩ | ⟨unsolved, decision, after, next, decided, path, kept⟩ |
        ⟨unsolved, exc, next, path, kept⟩
    · refine .inl ⟨solved, ?_⟩
      simp only [path]
      exact kept
    · refine .inr ⟨unsolved, ?_⟩
      simp only [path, decided]
      exact ⟨kept, fun other next same => by cases same; exact ⟨after, rfl⟩⟩
    · refine .inr ⟨unsolved, ?_⟩
      simp only [path]
      rcases next.fallBack_cases topology domainName state with
        ⟨decision, after, decided, falls⟩ | ⟨exc, raised, falls⟩
      · rw [kept] at decided
        simp only [decided, falls]
        exact ⟨trivial, fun other next same => by cases same; exact ⟨after, rfl⟩⟩
      · rw [kept] at raised
        simp only [raised, falls]
        exact ⟨kept, fun other next same => by cases same⟩

/-! ### The ticks of a run -/

/-- The calls of a run, each with whether the solver path decided it. -/
def marked (self : CVXPYBrain) : List LpCall → List (LpCall × Bool)
  | [] => []
  | call :: rest => (call, self.solves call) :: (self.step call).marked rest

/-- The calls of a run that the solver path did not decide. -/
def failing (self : CVXPYBrain) (calls : List LpCall) : List LpCall :=
  ((self.marked calls).filter fun tick => !tick.2).map Prod.fst

theorem map_fst_marked (self : CVXPYBrain) (calls : List LpCall) :
    (self.marked calls).map Prod.fst = calls := by
  induction calls generalizing self with
  | nil => rfl
  | cons call rest ih => rw [marked, List.map_cons, ih]

theorem marked_append (self : CVXPYBrain) (first second : List LpCall) :
    self.marked (first ++ second) = self.marked first ++ (run step self first).marked second := by
  induction first generalizing self with
  | nil => rfl
  | cons call rest ih => rw [List.cons_append, marked, marked, ih, run_cons, List.cons_append]

theorem failing_append_singleton (self : CVXPYBrain) (past : List LpCall) (call : LpCall) :
    self.failing (past ++ [call]) =
      self.failing past ++ if (run step self past).solves call = true then [] else [call] := by
  rw [failing, marked_append, List.filter_append, List.map_append, ← failing, marked, marked]
  cases (run step self past).solves call <;> rfl

/-- **The fallback is a PRS brain that has seen the failing ticks.** -/
theorem fallback_run (self : CVXPYBrain) (calls : List LpCall) :
    (run step self calls).fallback =
      run PRSBrain.step self.fallback ((self.failing calls).map LpCall.prs) := by
  induction calls using List.reverseRecOn with
  | nil => rfl
  | append_singleton past call ih =>
    rw [run_append_singleton, failing_append_singleton]
    rcases (run step self past).decide_cases call with ⟨solved, kept⟩ | ⟨unsolved, stepped, _⟩
    · rw [solved, if_pos rfl, List.append_nil, kept, ih]
    · rw [unsolved, if_neg Bool.false_ne_true, List.map_append, List.map_singleton,
        run_append_singleton, stepped, ih]

end Fallback

end CVXPYBrain

/-! ### The shape of a run -/

/-- What a tick looks like from outside. -/
structure TickShape where
  domainName : String
  gpus : List GpuIndex
  solved : Bool
  deriving DecidableEq

/-- The shape of a marked tick. -/
def shapeOf (tick : LpCall × Bool) : TickShape where
  domainName := tick.1.domainName
  gpus := tick.1.state.gpuDraws.keys
  solved := tick.2

/-- The shape of a run. -/
def CVXPYBrain.Shape (self : CVXPYBrain) (calls : List LpCall) : List TickShape :=
  (self.marked calls).map shapeOf

/-- At every failing tick that reports a GPU the threshold is the default one, and the draws are not
smoothed or no GPU of a failing tick was seen at an earlier tick of the domain that the solver
decided. -/
structure NothingMissed (alpha threshold : ℚ) (shape : List TickShape) : Prop where
  threshold : ∀ tick ∈ shape, tick.solved = false → tick.gpus ≠ [] → threshold = 6 / 10
  draws : alpha = 1 ∨ ∀ past tick rest, shape = past ++ tick :: rest → tick.solved = false →
    ∀ earlier ∈ past, earlier.solved = true → earlier.domainName = tick.domainName →
      ∀ gpu ∈ tick.gpus, gpu ∉ earlier.gpus

namespace PRSBrain

/-- The smoothed draw a tick works on, after some calls. -/
theorem smoothed_calls (params : PRSParams) (calls : List LpCall) (budget : ℚ) (domainName : String)
    {state : DomainState} {gpu : GpuIndex} {draw : ℚ} (drawn : state.gpuDraws.get? gpu = some draw) :
    ((run step { params := params } (calls.map LpCall.prs)).tick budget domainName state).smoothed gpu
      = blend params.ewmaAlpha draw
          ((blends params.ewmaAlpha (drawsOf domainName gpu calls)).getD draw) := by
  rw [Tick.smoothed, Dict.getD, ewma_tick, drawn, heldEwma_calls, params_run]
  rfl

/-- **Two histories with the same blends.** After them, two brains with the same parameters and no
limiter return the same caps. -/
theorem get?_caps_of_histories (params : PRSParams) (unlimited : params.capRaiseRateWPerTick = 0)
    {first second : List LpCall} (budget : ℚ) (domainName : String) (state : DomainState)
    (same : ∀ gpu draw, state.gpuDraws.get? gpu = some draw →
      blend params.ewmaAlpha draw
          ((blends params.ewmaAlpha (drawsOf domainName gpu first)).getD draw) =
        blend params.ewmaAlpha draw
          ((blends params.ewmaAlpha (drawsOf domainName gpu second)).getD draw)) (gpu : GpuIndex) :
    ((run step { params := params } (first.map LpCall.prs)).tick budget domainName state).caps.get? gpu
      = ((run step { params := params } (second.map LpCall.prs)).tick budget domainName
          state).caps.get? gpu := by
  have firstParams : (run step { params := params } (first.map LpCall.prs)).params = params :=
    params_run params (first.map LpCall.prs)
  have secondParams : (run step { params := params } (second.map LpCall.prs)).params = params :=
    params_run params (second.map LpCall.prs)
  have smoothed : ∀ gpu ∈ state.gpuDraws.keys,
      ((run step { params := params } (first.map LpCall.prs)).tick budget domainName state).smoothed gpu
        = ((run step { params := params } (second.map LpCall.prs)).tick budget domainName
            state).smoothed gpu := by
    intro gpu present
    obtain ⟨draw, drawn⟩ := Dict.mem_keys_iff.mp present
    rw [smoothed_calls _ _ _ _ drawn, smoothed_calls _ _ _ _ drawn, same gpu draw drawn]
  generalize run step { params := params } (first.map LpCall.prs) = one at *
  generalize run step { params := params } (second.map LpCall.prs) = two at *
  have other : one.tick budget domainName state = { two.tick budget domainName state with
      ewma := (one.tick budget domainName state).ewma
      last := (one.tick budget domainName state).last } := by
    unfold PRSBrain.tick
    rw [firstParams, secondParams]
  have limiter : (two.tick budget domainName state).params.capRaiseRateWPerTick = 0 := by
    rw [PRSBrain.tick, secondParams]
    exact unlimited
  rw [other]
  exact Tick.get?_caps_congr limiter smoothed

end PRSBrain

/-! ### The fallback next to a PRS brain that sees every tick -/

/-- The parameters of a PRS brain that is given three of them. -/
def prsParams (minCapW ewmaAlpha reclaimThreshold : ℚ) (pos : 0 < ewmaAlpha) (atMost : ewmaAlpha ≤ 1) :
    PRSParams :=
  ⟨minCapW, ewmaAlpha, reclaimThreshold, 3 / 10, 0, pos, atMost, Rat.le_refl⟩

theorem PRSBrain.eq_of_init {minCapW ewmaAlpha reclaimThreshold : ℚ} {reference : PRSBrain}
    (built : PRSBrain.init minCapW ewmaAlpha reclaimThreshold = .ok reference) :
    ∃ pos atMost, reference = { params := prsParams minCapW ewmaAlpha reclaimThreshold pos atMost } := by
  unfold PRSBrain.init at built
  split at built
  · next alpha =>
    rw [dif_pos le_rfl] at built
    cases built
    exact ⟨alpha.1, alpha.2, rfl⟩
  · cases built

/-- The constructor hands two parameters on. -/
theorem CVXPYBrain.eq_of_init {minCapW ewmaAlpha reclaimThreshold idleReclaimCeil : ℚ}
    {self : CVXPYBrain}
    (built : CVXPYBrain.init minCapW ewmaAlpha reclaimThreshold idleReclaimCeil = .ok self) :
    ∃ pos atMost, self.fallback = { params := prsParams minCapW ewmaAlpha (6 / 10) pos atMost } := by
  obtain ⟨fallback, made, rest⟩ := ok_of_bind built
  cases rest
  exact PRSBrain.eq_of_init made

namespace CVXPYBrain

/-- **The fallback follows PRS**: at every tick the solver path does not decide, the caps are those of a
PRS brain that has seen every tick so far. -/
def FollowsPrs (self : CVXPYBrain) (reference : PRSBrain) (calls : List LpCall) : Prop :=
  Along step self (fun past brain call => brain.solves call = false →
    brain.FallsBackAs (run PRSBrain.step reference (past.map LpCall.prs)) call) calls

/-- The failing ticks are all ticks at which a GPU was seen, where none of these was solved. -/
theorem drawsOf_failing {self : CVXPYBrain} {past : List LpCall} {domainName : String} {gpu : GpuIndex}
    (unseen : ∀ tick ∈ self.marked past, tick.2 = true → tick.1.domainName = domainName →
      gpu ∉ tick.1.state.gpuDraws.keys) :
    drawsOf domainName gpu (self.failing past) = drawsOf domainName gpu past := by
  have all := self.map_fst_marked past
  rw [failing, ← congrArg (drawsOf domainName gpu) all]
  clear all
  generalize self.marked past = ticks at unseen ⊢
  induction ticks with
  | nil => rfl
  | cons tick rest ih =>
    have later := ih fun other member => unseen other (List.mem_cons_of_mem _ member)
    cases solved : tick.2 with
    | false =>
      rw [List.filter_cons_of_pos (by rw [solved]; rfl), List.map_cons, List.map_cons]
      unfold drawsOf at later ⊢
      rw [List.filterMap_cons, List.filterMap_cons, later]
    | true =>
      rw [List.filter_cons_of_neg (by rw [solved]; decide), later, List.map_cons]
      have none : (if tick.1.domainName = domainName ∧
          tick.1.topology.domains.contains domainName = true then tick.1.state.gpuDraws.get? gpu
          else Option.none) = Option.none := by
        split
        · next here =>
          exact Dict.get?_eq_none_iff.mpr (unseen tick List.mem_cons_self solved here.1)
        · rfl
      unfold drawsOf
      rw [List.filterMap_cons, none]

variable {minCapW ewmaAlpha reclaimThreshold idleReclaimCeil : ℚ} {self : CVXPYBrain}
  {reference : PRSBrain}

/-- Where nothing is missed, the fallback is the PRS brain. -/
theorem followsPrs_of_nothingMissed
    (built : CVXPYBrain.init minCapW ewmaAlpha reclaimThreshold idleReclaimCeil = .ok self)
    (same : PRSBrain.init minCapW ewmaAlpha reclaimThreshold = .ok reference) {calls : List LpCall}
    (nothing : NothingMissed ewmaAlpha reclaimThreshold (self.Shape calls)) :
    self.FollowsPrs reference calls := by
  obtain ⟨pos, atMost, fallback⟩ := eq_of_init built
  obtain ⟨_, _, rfl⟩ := PRSBrain.eq_of_init same
  intro past call rest split unsolved decision next decided
  -- where the tick stands in the shape
  have shape : self.Shape calls = self.Shape past ++ shapeOf (call, false) ::
      ((run step self past).step call).Shape rest := by
    rw [split, Shape, marked_append, List.map_append, marked, List.map_cons, unsolved]
    rfl
  have present : shapeOf (call, false) ∈ self.Shape calls := by
    rw [shape]
    exact List.mem_append_right _ List.mem_cons_self
  rcases (run step self past).decide_cases call with ⟨solved, _⟩ | ⟨_, _, answers⟩
  · rw [unsolved] at solved
    cases solved
  obtain ⟨after, answered⟩ := answers decision next decided
  obtain ⟨budget, answer⟩ := PRSBrain.budget_of_decide answered
  obtain ⟨other, final, replied⟩ := PRSBrain.decide_isOk
    (run PRSBrain.step { params := prsParams minCapW ewmaAlpha reclaimThreshold pos atMost }
      (past.map LpCall.prs)) call.state answer
  refine ⟨other, final, replied, fun gpu => ?_⟩
  rw [(PRSBrain.decide_ok answer answered).1, (PRSBrain.decide_ok answer replied).1, fallback_run,
    fallback]
  by_cases reports : call.state.gpuDraws.keys = []
  · have silent : ∀ tick : Tick, tick.state.gpuDraws.keys = [] → tick.caps.get? gpu = none := by
      intro tick empty
      refine Dict.get?_eq_none_iff.mpr fun member => ?_
      have listed : gpu ∈ tick.state.gpuDraws.keys := Tick.mem_keys_caps.mp member
      rw [empty] at listed
      cases listed
    rw [silent _ reports, silent _ reports]
  · have default := nothing.threshold _ present rfl reports
    subst default
    refine PRSBrain.get?_caps_of_histories _ rfl budget call.domainName call.state ?_ gpu
    intro gpu draw drawn
    show blend ewmaAlpha draw _ = blend ewmaAlpha draw _
    rcases nothing.draws with unsmoothed | unseen
    · simp only [blend, unsmoothed, sub_self, zero_mul]
    · have agree : drawsOf call.domainName gpu (self.failing past) = drawsOf call.domainName gpu past := by
        refine drawsOf_failing fun tick member solved here listed => ?_
        exact unseen _ _ _ shape rfl (shapeOf tick) (List.mem_map_of_mem member) solved here gpu
          (Dict.mem_keys_iff.mpr ⟨draw, drawn⟩) listed
      rw [agree]

end CVXPYBrain

end Opendps.Brain
