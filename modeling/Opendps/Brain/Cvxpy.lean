/-
**The linear-program brain.**

`CVXPYBrain.decideCvxpy` blends the draws, splits the GPUs into hot and idle, builds a linear program
over their caps and returns the point the solver answers. What it builds is one record, `LpTick`, and
the program is a box with a budget (`LpTick.problem_isBox`).

The solver is a parameter: a function from programs to solutions that may raise. An answer counts when
its status says that it is optimal; `Solver.point` is the answer that counts.

* `hot_cap_ge_draw_iff`: with optimal answers, no hot GPU gets less than it draws exactly when none
  draws more than `min_cap_w`. The objective adds up the hot caps and nothing keeps a cap above the
  draw, so every optimum leaves every hot GPU at its floor.
* `cvxpy_total_le_budget_iff`: with feasible answers, the caps stay within the domain's effective
  budget exactly when the static budget, against which the program is built, or the sum of the upper
  bounds does.
-/

import Opendps.Brain.Prs
import Opendps.Lib.LinearProgram

namespace Opendps.Brain

open Opendps.Lib Opendps.Pdn

structure CVXPYMetrics where
  hotGpus : List GpuIndex
  idleGpus : List GpuIndex
  idleStrandedW : ℚ
  domainDrawW : ℚ
  domainCapW : ℚ
  solverStatus : String
  solveTimeMs : ℚ

structure CVXPYBrain where
  minCap : ℚ
  alpha : ℚ
  threshold : ℚ
  idleCeil : ℚ
  fallback : PRSBrain
  ewma : Dict String (Dict GpuIndex ℚ) := .empty
  lastMetrics : Dict String CVXPYMetrics := .empty

/-- The constructor, with its default arguments. The PRS brain it falls back on checks the range of
`ewma_alpha`. -/
def CVXPYBrain.init (minCapW : ℚ := 200) (ewmaAlpha : ℚ := 3 / 10) (reclaimThreshold : ℚ := 6 / 10)
    (idleReclaimCeil : ℚ := 13 / 10) : Except PyError CVXPYBrain := do
  let fallback ← PRSBrain.init minCapW ewmaAlpha
  pure { minCap := minCapW, alpha := ewmaAlpha, threshold := reclaimThreshold
         idleCeil := idleReclaimCeil, fallback := fallback }

/-! ### The solver -/

/-- What is left of a problem after `solve`: its status, the values of the variables if it has any,
and the time it took. -/
structure Solution where
  status : String
  value : Option (GpuIndex → ℚ)
  solveMs : ℚ

/-- Building and solving a problem may raise. -/
abbrev Solver := LinearProgram GpuIndex ℚ → Except PyError Solution

/-- The values of a solution whose status is accepted. -/
def Solution.accepted (solution : Solution) : Option (GpuIndex → ℚ) :=
  if solution.status = "optimal" ∨ solution.status = "optimal_inaccurate" then solution.value
  else none

/-- The point a solver answers, when it answers one that counts. -/
def Solver.point (solve : Solver) (problem : LinearProgram GpuIndex ℚ) : Option (GpuIndex → ℚ) :=
  match solve problem with
  | .ok solution => solution.accepted
  | .error _ => none

/-- Accepted answers satisfy the constraints. -/
def Solver.Feasible (solve : Solver) : Prop :=
  ∀ problem point, solve.point problem = some point → problem.Feasible point

/-- Accepted answers are optimal. -/
def Solver.Optimal (solve : Solver) : Prop :=
  ∀ problem point, solve.point problem = some point → problem.Optimal point

/-- A solver that knows one program and its answer. -/
def Solver.only (known : LinearProgram GpuIndex ℚ) (point : GpuIndex → ℚ) : Solver := fun problem =>
  if problem = known then .ok { status := "optimal", value := some point, solveMs := 0 }
  else .error (.valueError "The solver does not know this problem.")

theorem Solver.point_only (known : LinearProgram GpuIndex ℚ) (point : GpuIndex → ℚ) :
    (Solver.only known point).point known = some point := by
  simp [Solver.point, Solver.only, Solution.accepted]

/-- What it answers is the point it knows, to the program it knows. -/
theorem Solver.eq_of_point_only {known problem : LinearProgram GpuIndex ℚ} {point other : GpuIndex → ℚ}
    (answers : (Solver.only known point).point problem = some other) :
    problem = known ∧ other = point := by
  by_cases same : problem = known
  · rw [same, Solver.point_only] at answers
    exact ⟨same, (Option.some.inj answers).symm⟩
  · simp [Solver.point, Solver.only, same] at answers

theorem Solver.feasible_only {known : LinearProgram GpuIndex ℚ} {point : GpuIndex → ℚ}
    (feasible : known.Feasible point) : (Solver.only known point).Feasible := by
  intro problem other answers
  obtain ⟨rfl, rfl⟩ := Solver.eq_of_point_only answers
  exact feasible

theorem Solver.optimal_only {known : LinearProgram GpuIndex ℚ} {point : GpuIndex → ℚ}
    (optimal : known.Optimal point) : (Solver.only known point).Optimal := by
  intro problem other answers
  obtain ⟨rfl, rfl⟩ := Solver.eq_of_point_only answers
  exact optimal

/-! ### The program of one tick -/

/-- Everything the program depends on once the draws are blended. -/
structure LpTick where
  minCap : ℚ
  threshold : ℚ
  idleCeil : ℚ
  budget : ℚ
  state : DomainState
  ewma : Dict GpuIndex ℚ

namespace LpTick

/-- The GPUs that reported a draw, sorted. The variable of a GPU is the entry of `caps_var` at its
place in this list. -/
def gpus (tick : LpTick) : List GpuIndex := sortedBy id tick.state.gpuDraws.keys

def draw (tick : LpTick) (gpu : GpuIndex) : ℚ := tick.state.gpuDraws.getD gpu 0

/-- The hardware maximum. The program is only built when every GPU has one. -/
def maxCap (tick : LpTick) (gpu : GpuIndex) : ℚ := tick.state.gpuMaxCaps.getD gpu 0

/-- The smoothed draw. The blend has stored one for every GPU of the tick. -/
def smoothed (tick : LpTick) (gpu : GpuIndex) : ℚ := tick.ewma.getD gpu 0

def isHot (tick : LpTick) (gpu : GpuIndex) : Bool :=
  decide (tick.threshold ≤ tick.smoothed gpu / max (tick.maxCap gpu) 1)

def hot (tick : LpTick) : List GpuIndex := tick.gpus.filter tick.isHot

def idle (tick : LpTick) : List GpuIndex := tick.gpus.filter fun gpu => !tick.isHot gpu

/-- The ceiling of an idle GPU. -/
def ceiling (tick : LpTick) (gpu : GpuIndex) : ℚ :=
  max tick.minCap (tick.smoothed gpu * tick.idleCeil)

/-- The headroom of the hot GPUs, or all caps when no GPU is hot. -/
def objective (tick : LpTick) : Affine GpuIndex ℚ :=
  if tick.hot = [] then .sum tick.gpus
  else { Affine.sum tick.hot with constant := -(tick.hot.map tick.draw).sum }

def constraints (tick : LpTick) : List (Affine GpuIndex ℚ × Affine GpuIndex ℚ) :=
  -- the variable is declared with `nonneg=True`
  tick.gpus.map (fun gpu => (.const 0, .var gpu)) ++
    [(.sum tick.gpus, .const tick.budget)] ++
    tick.gpus.map (fun gpu => (.const tick.minCap, .var gpu)) ++
    tick.gpus.map (fun gpu => (.var gpu, .const (tick.maxCap gpu))) ++
    tick.idle.map fun gpu => (.var gpu, .const (tick.ceiling gpu))

def problem (tick : LpTick) : LinearProgram GpuIndex ℚ where
  objective := tick.objective
  constraints := tick.constraints

/-- The caps of a point. -/
def caps (tick : LpTick) (point : GpuIndex → ℚ) : Dict GpuIndex ℚ := .ofKeys tick.gpus point

/-- The diagnostics of a solved tick. -/
def metrics (tick : LpTick) (point : GpuIndex → ℚ) (solution : Solution) : CVXPYMetrics where
  hotGpus := tick.hot
  idleGpus := tick.idle
  idleStrandedW := (tick.idle.map fun gpu => tick.maxCap gpu - point gpu).sum
  domainDrawW := (tick.gpus.map tick.draw).sum
  domainCapW := (tick.caps point).values.sum
  solverStatus := solution.status
  solveTimeMs := solution.solveMs

/-- The diagnostics of a tick the PRS brain decided: what it left stranded before is carried on. -/
def fallbackMetrics (tick : LpTick) (before : Option PRSMetrics) (result : BrainDecision)
    (solution : Solution) : CVXPYMetrics where
  hotGpus := tick.hot
  idleGpus := tick.idle
  idleStrandedW := match before with
    | some metrics => metrics.idleStrandedW
    | none => 0
  domainDrawW := (tick.gpus.map tick.draw).sum
  domainCapW := result.caps.values.sum
  solverStatus := "fallback:" ++ solution.status
  solveTimeMs := solution.solveMs

/-! ### The program is a box with a budget -/

/-- The bounds of a cap: `min_cap_w`, and no less than zero; -/
def lower (tick : LpTick) : ℚ := max 0 tick.minCap

/-- the hardware maximum, and the ceiling of an idle GPU. -/
def upper (tick : LpTick) (gpu : GpuIndex) : ℚ :=
  if tick.isHot gpu = true then tick.maxCap gpu else min (tick.maxCap gpu) (tick.ceiling gpu)

theorem problem_isBox (tick : LpTick) :
    tick.problem.IsBox tick.gpus (fun _ => tick.lower) tick.upper tick.budget := by
  intro point
  simp only [LinearProgram.Feasible, problem, constraints, List.forall_mem_append, List.forall_mem_map,
    List.forall_mem_singleton, Affine.eval_const, Affine.eval_var, Affine.eval_sum, idle,
    List.mem_filter, Bool.not_eq_true', and_imp, lower, max_le_iff]
  constructor
  · rintro ⟨⟨⟨⟨nonneg, total⟩, floor⟩, maximum⟩, ceiling⟩
    refine ⟨fun gpu listed => ⟨⟨nonneg gpu listed, floor gpu listed⟩, ?_⟩, total⟩
    rw [upper]
    split
    · exact maximum gpu listed
    · next cold =>
      exact le_min (maximum gpu listed) (ceiling gpu listed (Bool.eq_false_of_not_eq_true cold))
  · rintro ⟨bounds, total⟩
    have below : ∀ gpu ∈ tick.gpus, point gpu ≤ tick.maxCap gpu := by
      intro gpu listed
      have bound := (bounds gpu listed).2
      rw [upper] at bound
      split at bound
      · exact bound
      · exact bound.trans (min_le_left _ _)
    refine ⟨⟨⟨⟨fun gpu listed => (bounds gpu listed).1.1, total⟩,
      fun gpu listed => (bounds gpu listed).1.2⟩, below⟩, fun gpu listed cold => ?_⟩
    have bound := (bounds gpu listed).2
    rw [upper, if_neg (by rw [cold]; exact Bool.false_ne_true)] at bound
    exact bound.trans (min_le_right _ _)

/-- With a hot GPU, the objective adds up the hot caps. -/
theorem eval_objective {tick : LpTick} (someHot : tick.hot ≠ []) (point : GpuIndex → ℚ) :
    tick.problem.objective.eval point =
      (tick.hot.map point).sum + -(tick.hot.map tick.draw).sum := by
  have sum := Affine.eval_sum tick.hot point
  simp only [Affine.eval, Affine.sum, add_zero] at sum
  simp only [problem, objective, if_neg someHot, Affine.eval, Affine.sum, sum]

/-- **With a hot GPU, the optima are the points that leave every hot GPU at its floor.** -/
theorem optimal_iff {tick : LpTick} {point : GpuIndex → ℚ} (someHot : tick.hot ≠ []) :
    tick.problem.Optimal point ↔
      tick.problem.Feasible point ∧ ∀ gpu ∈ tick.hot, point gpu = tick.lower :=
  tick.problem_isBox.optimal_iff (fun _ listed => List.mem_of_mem_filter listed)
    (eval_objective someHot)

/-- The bounds of every cap are in order and the floors fit the budget. -/
def Solvable (tick : LpTick) : Prop :=
  (∀ gpu ∈ tick.gpus, tick.lower ≤ tick.upper gpu) ∧ tick.gpus.length * tick.lower ≤ tick.budget

theorem solvable_iff {tick : LpTick} :
    tick.Solvable ↔ ∃ point, tick.problem.Feasible point := by
  rw [tick.problem_isBox.exists_feasible_iff, List.map_const', List.sum_replicate, nsmul_eq_mul]
  rfl

theorem gpus_nodup (tick : LpTick) : tick.gpus.Nodup :=
  (sortedBy_perm id _).nodup_iff.mpr tick.state.gpuDraws.keys_nodup

theorem mem_gpus {tick : LpTick} {gpu : GpuIndex} :
    gpu ∈ tick.gpus ↔ gpu ∈ tick.state.gpuDraws.keys := mem_sortedBy

theorem get?_caps (tick : LpTick) (point : GpuIndex → ℚ) (gpu : GpuIndex) :
    (tick.caps point).get? gpu = if gpu ∈ tick.gpus then some (point gpu) else none :=
  Dict.get?_ofKeys tick.gpus_nodup point gpu

theorem sum_caps (tick : LpTick) (point : GpuIndex → ℚ) :
    (tick.caps point).values.sum = (tick.gpus.map point).sum := by
  rw [caps, Dict.values_ofKeys tick.gpus_nodup]

end LpTick

/-! ### The calls -/

namespace CVXPYBrain

/-- The tick a call works on. A domain seen for the first time is smoothed from its draws. -/
def tick (self : CVXPYBrain) (domain : PowerDomain) (domainName : String) (state : DomainState) :
    LpTick where
  minCap := self.minCap
  threshold := self.threshold
  idleCeil := self.idleCeil
  budget := domain.budgetW
  state := state
  ewma := updateEwma self.alpha (self.ewma.getD domainName state.gpuDraws) state.gpuDraws

/-- What the solver makes of a program, and the brain as an error leaves it. -/
def decideCvxpy (self : CVXPYBrain) (topology : PDNTopology) (domainName : String)
    (state : DomainState) (solve : Solver) : Except PyError BrainDecision × CVXPYBrain :=
  match topology.domain domainName with
  | .error exc => (.error exc, self)
  | .ok domain =>
    let tick := self.tick domain domainName state
    let updated := { self with ewma := self.ewma.set domainName tick.ewma }
    match tick.gpus.find? fun gpu => !state.gpuMaxCaps.contains gpu with
    | some gpu => (.error (.keyError (toString gpu)), updated)
    | none =>
      match solve tick.problem with
      | .error exc => (.error exc, updated)
      | .ok solution =>
        match solution.accepted with
        | some point =>
          (.ok { domain := domainName, caps := tick.caps point, ts := state.ts
                 reason := "cvxpy:" ++ solution.status ++ ":" ++ formatFixed1 solution.solveMs
                   ++ "ms" },
            { updated with
              lastMetrics := self.lastMetrics.set domainName (tick.metrics point solution) })
        | none =>
          match self.fallback.decide topology domainName state with
          | .error exc => (.error exc, updated)
          | .ok (result, fallback) =>
            (.ok result, { updated with
              fallback := fallback
              lastMetrics := self.lastMetrics.set domainName (tick.fallbackMetrics
                (self.fallback.lastMetrics.get? domainName) result solution) })

/-- The PRS brain decides instead. -/
def fallBack (self : CVXPYBrain) (topology : PDNTopology) (domainName : String)
    (state : DomainState) : Except PyError (BrainDecision × CVXPYBrain) := do
  let (decision, fallback) ← self.fallback.decide topology domainName state
  pure (decision, { self with fallback := fallback })

/-- Fall back when the library is missing or anything is raised. -/
def decide (self : CVXPYBrain) (topology : PDNTopology) (domainName : String)
    (state : DomainState) (cp : Option Solver) : Except PyError (BrainDecision × CVXPYBrain) :=
  match cp with
  | none => self.fallBack topology domainName state
  | some solve =>
    match self.decideCvxpy topology domainName state solve with
    | (.ok decision, next) => .ok (decision, next)
    | (.error _, next) => next.fallBack topology domainName state

section Calls

variable {self next : CVXPYBrain} {topology : PDNTopology} {domainName : String}
  {domain : PowerDomain} {state : DomainState} {solve : Solver} {decision : BrainDecision}
  {point : GpuIndex → ℚ}

/-- A decision made with a solution has the caps of its point. -/
theorem decideCvxpy_ok (present : topology.domain domainName = .ok domain)
    (solved : solve.point (self.tick domain domainName state).problem = some point)
    (call : self.decideCvxpy topology domainName state solve = (.ok decision, next)) :
    decision.caps = (self.tick domain domainName state).caps point := by
  unfold decideCvxpy at call
  rw [present] at call
  dsimp only at call
  split at call
  · cases call
  · cases answer : solve (self.tick domain domainName state).problem with
    | error exc =>
      rw [answer] at call
      cases call
    | ok solution =>
      have accepted : solution.accepted = some point := by
        rw [Solver.point, answer] at solved
        exact solved
      simp only [answer, accepted] at call
      cases call
      rfl

/-- When every maximum is known, an accepted answer is decided. -/
theorem decideCvxpy_isOk (present : topology.domain domainName = .ok domain)
    (known : ∀ gpu ∈ state.gpuDraws.keys, gpu ∈ state.gpuMaxCaps.keys)
    (solved : solve.point (self.tick domain domainName state).problem = some point) :
    ∃ decision next, self.decideCvxpy topology domainName state solve = (.ok decision, next) := by
  have found : ((self.tick domain domainName state).gpus.find? fun gpu =>
      !state.gpuMaxCaps.contains gpu) = none := by
    rw [List.find?_eq_none]
    intro gpu listed
    have inMaxima : state.gpuMaxCaps.contains gpu = true :=
      Dict.contains_iff.mpr (known gpu (LpTick.mem_gpus.mp listed))
    rw [inMaxima]
    exact Bool.false_ne_true
  unfold decideCvxpy
  rw [present]
  dsimp only
  rw [found]
  cases answer : solve (self.tick domain domainName state).problem with
  | error exc =>
    rw [Solver.point, answer] at solved
    cases solved
  | ok solution =>
    have accepted : solution.accepted = some point := by
      rw [Solver.point, answer] at solved
      exact solved
    simp only [accepted]
    exact ⟨_, _, rfl⟩

/-- Only a tick whose maxima are all known is decided. -/
theorem known_of_decideCvxpy (present : topology.domain domainName = .ok domain)
    (call : self.decideCvxpy topology domainName state solve = (.ok decision, next)) :
    ∀ gpu ∈ state.gpuDraws.keys, gpu ∈ state.gpuMaxCaps.keys := by
  intro gpu listed
  unfold decideCvxpy at call
  rw [present] at call
  dsimp only at call
  split at call
  · cases call
  · next found =>
    have inMaxima := List.find?_eq_none.mp found gpu (LpTick.mem_gpus.mpr listed)
    rw [Bool.not_eq_true', Bool.not_eq_false] at inMaxima
    exact Dict.contains_iff.mp inMaxima

/-! ### What hot GPUs get, and within which budget -/

/-- **No hot GPU is throttled, exactly when none draws more than the floor.** For every brain and
telemetry and every solver with optimal answers. -/
theorem hot_cap_ge_draw_iff (optimal : solve.Optimal)
    (present : topology.domain domainName = .ok domain)
    (solved : solve.point (self.tick domain domainName state).problem = some point)
    (call : self.decideCvxpy topology domainName state solve = (.ok decision, next)) :
    (∀ gpu ∈ (self.tick domain domainName state).hot, ∀ cap, decision.caps.get? gpu = some cap →
      state.gpuDraws.getD gpu 0 ≤ cap) ↔
      ∀ gpu ∈ (self.tick domain domainName state).hot,
        state.gpuDraws.getD gpu 0 ≤ max 0 self.minCap := by
  have cap : ∀ gpu ∈ (self.tick domain domainName state).hot,
      decision.caps.get? gpu = some (max 0 self.minCap) := by
    intro gpu member
    have someHot := List.ne_nil_of_mem member
    have floor := ((LpTick.optimal_iff someHot).mp (optimal _ _ solved)).2 gpu member
    rw [decideCvxpy_ok present solved call, LpTick.get?_caps,
      if_pos (List.mem_of_mem_filter member), floor]
    rfl
  refine forall₂_congr fun gpu member => ?_
  simp only [cap gpu member, Option.some.injEq, forall_eq']

/-- Whatever feasible point a solver answers, the caps add up to at most a bound, if and only if the
largest total that the program allows does. -/
theorem total_le_iff (bound : ℚ) (present : topology.domain domainName = .ok domain) :
    (∀ (solve : Solver) (point : GpuIndex → ℚ) (decision : BrainDecision) (next : CVXPYBrain),
      solve.Feasible → solve.point (self.tick domain domainName state).problem = some point →
      self.decideCvxpy topology domainName state solve = (.ok decision, next) →
      decision.total ≤ bound) ↔
    ((∀ gpu ∈ state.gpuDraws.keys, gpu ∈ state.gpuMaxCaps.keys) →
      (self.tick domain domainName state).Solvable →
      min domain.budgetW (((self.tick domain domainName state).gpus.map
        (self.tick domain domainName state).upper).sum) ≤ bound) := by
  constructor
  · intro within known solvable
    obtain ⟨some, feasible⟩ := LpTick.solvable_iff.mp solvable
    obtain ⟨point, reaches, total⟩ :=
      (self.tick domain domainName state).problem_isBox.exists_feasible_sum feasible
    have solved := Solver.point_only (self.tick domain domainName state).problem point
    obtain ⟨decision, next, call⟩ := decideCvxpy_isOk present known solved
    have reached := within _ point decision next (Solver.feasible_only reaches) solved call
    rwa [BrainDecision.total, decideCvxpy_ok present solved call, LpTick.sum_caps, total] at reached
  · intro condition solve point decision next feasible solved call
    have reaches := feasible _ _ solved
    rw [BrainDecision.total, decideCvxpy_ok present solved call, LpTick.sum_caps]
    exact ((self.tick domain domainName state).problem_isBox.sum_le reaches).trans
      (condition (known_of_decideCvxpy present call) (LpTick.solvable_iff.mpr ⟨point, reaches⟩))

/-- **The caps stay within the effective budget, exactly when the static one or the upper bounds do.**
For every brain, topology and telemetry, over all solvers with feasible answers. -/
theorem cvxpy_total_le_budget_iff (present : topology.domain domainName = .ok domain) :
    ∃ budget, topology.domainBudgetW domainName = .ok budget ∧
      ((∀ (solve : Solver) (point : GpuIndex → ℚ) (decision : BrainDecision) (next : CVXPYBrain),
        solve.Feasible → solve.point (self.tick domain domainName state).problem = some point →
        self.decideCvxpy topology domainName state solve = (.ok decision, next) →
        decision.total ≤ budget) ↔
      ((∀ gpu ∈ state.gpuDraws.keys, gpu ∈ state.gpuMaxCaps.keys) →
        (self.tick domain domainName state).Solvable →
        min domain.budgetW (((self.tick domain domainName state).gpus.map
          (self.tick domain domainName state).upper).sum) ≤ budget)) := by
  obtain ⟨budget, answer⟩ := PDNTopology.domainBudgetW_isOk present
  exact ⟨budget, answer, total_le_iff budget present⟩

end Calls

/-! ### A hot GPU next to an idle one, on a node with overhead -/

def sharedDomain : PowerDomain where
  name := "domain-0"
  budgetW := 1500
  gpuIndices := [0, 1]
  pduName := "pdu-A"
  nodeOverheadW := 700

def sharedTopology : PDNTopology where
  pdus := .ofList [("pdu-A", { name := "pdu-A", capacityW := 10000 })]
  domains := .ofList [("domain-0", sharedDomain)]

/-- A brain as the constructor makes it. -/
def newBrain : CVXPYBrain where
  minCap := 200
  alpha := 3 / 10
  threshold := 6 / 10
  idleCeil := 13 / 10
  fallback := { params := defaultParams }

/-- GPU 0 draws 700 W of 1000 W, GPU 1 500 W. -/
def sharedState : DomainState where
  domainName := "domain-0"
  gpuDraws := .ofList [(0, 700), (1, 500)]
  gpuCaps := .ofList [(0, 1000), (1, 1000)]
  gpuMaxCaps := .ofList [(0, 1000), (1, 1000)]
  ts := 0

/-- An optimum: the hot GPU at its floor, the idle one at its ceiling. -/
def cornerPoint : GpuIndex → ℚ := fun gpu => if gpu = 0 then 200 else 650

theorem domain_shared : sharedTopology.domain "domain-0" = .ok sharedDomain := rfl

theorem init_newBrain : CVXPYBrain.init = .ok newBrain := by
  rw [CVXPYBrain.init, PRSBrain.init, dif_pos ⟨by norm_num, by norm_num⟩, dif_pos le_rfl]
  rfl

theorem hot_shared : (newBrain.tick sharedDomain "domain-0" sharedState).hot = [0] := by
  decide +kernel

theorem optimal_cornerPoint :
    (newBrain.tick sharedDomain "domain-0" sharedState).problem.Optimal cornerPoint := by
  refine (LpTick.optimal_iff (by rw [hot_shared]; exact List.cons_ne_nil _ _)).mpr ⟨?_, ?_⟩
  · decide +kernel
  · rw [hot_shared]
    decide +kernel

/-- The solver that answers that optimum. -/
def cornerSolver : Solver :=
  .only (newBrain.tick sharedDomain "domain-0" sharedState).problem cornerPoint

theorem optimal_cornerSolver : cornerSolver.Optimal := Solver.optimal_only optimal_cornerPoint

theorem point_cornerSolver :
    cornerSolver.point (newBrain.tick sharedDomain "domain-0" sharedState).problem =
      some cornerPoint := Solver.point_only _ _

theorem known_shared : ∀ gpu ∈ sharedState.gpuDraws.keys, gpu ∈ sharedState.gpuMaxCaps.keys := by
  decide +kernel

/-- The draw of GPU 0 and the floor of GPU 1 need 900 W of 1500 W, and GPU 0 gets 200 W. -/
theorem hot_gpu_throttled :
    CVXPYBrain.init = .ok newBrain ∧ cornerSolver.Optimal ∧
      (newBrain.tick sharedDomain "domain-0" sharedState).hot = [0] ∧
      (∀ gpu ∈ sharedState.gpuDraws.keys, newBrain.minCap ≤ sharedState.gpuMaxCaps.getD gpu 0 ∧
        sharedState.gpuDraws.getD gpu 0 ≤ sharedState.gpuMaxCaps.getD gpu 0) ∧
      max (sharedState.gpuDraws.getD 0 0) newBrain.minCap + newBrain.minCap ≤ sharedDomain.budgetW ∧
      ∃ decision next,
        newBrain.decideCvxpy sharedTopology "domain-0" sharedState cornerSolver =
          (.ok decision, next) ∧
        decision.caps.get? 0 = some 200 ∧ 200 < sharedState.gpuDraws.getD 0 0 := by
  refine ⟨init_newBrain, optimal_cornerSolver, hot_shared, by decide +kernel, by decide +kernel, ?_⟩
  obtain ⟨decision, next, call⟩ := decideCvxpy_isOk domain_shared known_shared point_cornerSolver
  refine ⟨decision, next, call, ?_, by decide +kernel⟩
  rw [decideCvxpy_ok domain_shared point_cornerSolver call]
  decide +kernel

theorem hot_cap_ge_draw_iff_corner :
    ∃ decision next,
      newBrain.decideCvxpy sharedTopology "domain-0" sharedState cornerSolver =
        (.ok decision, next) ∧
      ((∀ gpu ∈ (newBrain.tick sharedDomain "domain-0" sharedState).hot, ∀ cap,
          decision.caps.get? gpu = some cap → sharedState.gpuDraws.getD gpu 0 ≤ cap) ↔
        ∀ gpu ∈ (newBrain.tick sharedDomain "domain-0" sharedState).hot,
          sharedState.gpuDraws.getD gpu 0 ≤ max 0 newBrain.minCap) := by
  obtain ⟨decision, next, call⟩ := decideCvxpy_isOk domain_shared known_shared point_cornerSolver
  exact ⟨decision, next, call,
    hot_cap_ge_draw_iff optimal_cornerSolver domain_shared point_cornerSolver call⟩

/-- The node's overhead leaves 800 W for the GPUs, and an optimum hands out 850 W. -/
theorem cvxpy_exceeds_effective :
    CVXPYBrain.init = .ok newBrain ∧ cornerSolver.Optimal ∧ cornerSolver.Feasible ∧
      sharedTopology.domainBudgetW "domain-0" = .ok 800 ∧
      ∃ decision next,
        newBrain.decideCvxpy sharedTopology "domain-0" sharedState cornerSolver =
          (.ok decision, next) ∧
        decision.total = 850 ∧ 800 < decision.total := by
  refine ⟨init_newBrain, optimal_cornerSolver, Solver.feasible_only optimal_cornerPoint.1,
    by decide +kernel, ?_⟩
  obtain ⟨decision, next, call⟩ := decideCvxpy_isOk domain_shared known_shared point_cornerSolver
  have total : decision.total = 850 := by
    rw [BrainDecision.total, decideCvxpy_ok domain_shared point_cornerSolver call]
    decide +kernel
  exact ⟨decision, next, call, total, by rw [total]; norm_num⟩

theorem cvxpy_total_le_budget_iff_shared :
    ∃ budget, sharedTopology.domainBudgetW "domain-0" = .ok budget ∧
      ((∀ (solve : Solver) (point : GpuIndex → ℚ) (decision : BrainDecision) (next : CVXPYBrain),
        solve.Feasible →
        solve.point (newBrain.tick sharedDomain "domain-0" sharedState).problem = some point →
        newBrain.decideCvxpy sharedTopology "domain-0" sharedState solve = (.ok decision, next) →
        decision.total ≤ budget) ↔
      ((∀ gpu ∈ sharedState.gpuDraws.keys, gpu ∈ sharedState.gpuMaxCaps.keys) →
        (newBrain.tick sharedDomain "domain-0" sharedState).Solvable →
        min sharedDomain.budgetW (((newBrain.tick sharedDomain "domain-0" sharedState).gpus.map
          (newBrain.tick sharedDomain "domain-0" sharedState).upper).sum) ≤ budget)) :=
  cvxpy_total_le_budget_iff domain_shared

end CVXPYBrain

end Opendps.Brain
