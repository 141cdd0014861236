/-
**The range of a PRS cap.**

A GPU whose maximum is known and not below `min_cap_w` is asked to stay in `[min_cap_w, maximum]`,
whether it is hot or idle and although the two clamps stand in opposite orders (`Tick.target_mem`). The
raise limiter comes after the clamps: from a baseline that is below the floor by more than the rate, the
limited cap is below the floor, too (`Tick.cap_mem_iff`).

`PRSCall` and `PRSBrain.step` are the calls a brain answers, and the runs of this machine from a new
brain are the reachable brains (`PRSBrain.reachable_iff_run`). `prs_envelope_iff` compares every call of
a run with the condition on the baselines it meets.
-/

import Opendps.Brain.PrsDemand

namespace Opendps.Brain

open Opendps.Lib Opendps.Pdn

/-! ### One tick -/

namespace Tick

variable {tick : Tick} {gpu : GpuIndex} {hwMax : ℚ}

/-- Hot or idle, what is asked for is in the range. -/
theorem target_mem (maximum : tick.state.gpuMaxCaps.get? gpu = some hwMax)
    (ordered : tick.params.minCapW ≤ hwMax) :
    tick.params.minCapW ≤ tick.target gpu ∧ tick.target gpu ≤ hwMax := by
  have ceiling : tick.hwMax gpu = hwMax := by
    rw [Tick.hwMax, Dict.getD_of_some maximum]
  unfold target
  split
  · unfold hotCap clamp
    rw [ceiling]
    exact ⟨le_max_left _ _, max_le ordered (min_le_left _ _)⟩
  · unfold idleFloor
    rw [ceiling]
    exact ⟨le_min (le_max_left _ _) ordered, min_le_right _ _⟩

/-- The limiter reaches the floor from the baseline of a GPU, or does not hold it back. -/
def ReachesFloor (tick : Tick) (gpu : GpuIndex) : Prop :=
  0 < tick.params.capRaiseRateWPerTick → ∀ previous, tick.baseline gpu = some previous →
    tick.params.minCapW ≤ previous + tick.params.capRaiseRateWPerTick

/-- **One GPU at one tick.** Its cap is in the range exactly when the limiter reaches the floor from the
baseline. -/
theorem cap_mem_iff (maximum : tick.state.gpuMaxCaps.get? gpu = some hwMax)
    (ordered : tick.params.minCapW ≤ hwMax) {cap : ℚ} (decided : tick.caps.get? gpu = some cap) :
    tick.params.minCapW ≤ cap ∧ cap ≤ hwMax ↔ tick.ReachesFloor gpu := by
  obtain ⟨above, below⟩ := target_mem maximum ordered
  unfold ReachesFloor
  rcases tick.params.rate_nonneg.eq_or_lt with off | limited
  · have present : gpu ∈ tick.gpus := mem_keys_caps.mp (Dict.mem_keys_iff.mpr ⟨cap, decided⟩)
    rw [get?_caps_of_unlimited off.symm present, Option.some.injEq] at decided
    rw [← decided, ← off]
    exact iff_of_true ⟨above, below⟩ fun positive => absurd positive (lt_irrefl 0)
  · rw [get?_caps limited decided]
    cases start : tick.baseline gpu with
    | none =>
      have free : tick.limitRaise gpu (tick.target gpu) = tick.target gpu := by
        unfold limitRaise
        rw [start]
      rw [free]
      exact iff_of_true ⟨above, below⟩ fun _ previous found => nomatch found
    | some previous =>
      rw [limitRaise_of_baseline start, le_min_iff]
      constructor
      · rintro ⟨⟨_, reached⟩, _⟩ _ other found
        cases found
        exact reached
      · intro reaches
        exact ⟨⟨above, reaches limited previous rfl⟩, (min_le_left _ _).trans below⟩

end Tick

/-! ### The calls of a brain -/

/-- A call of a brain, and what it is called with. -/
inductive PRSCall where
  | decide (topology : PDNTopology) (domainName : String) (state : DomainState)
  | noteAppliedCaps (domainName : String) (caps : Dict GpuIndex ℚ)
  | resetEwma (domainName : Option String)

namespace PRSBrain

/-- The brain after a call; one that raises leaves it as it is. -/
def step (brain : PRSBrain) : PRSCall → PRSBrain
  | .decide topology domainName state =>
    match brain.decide topology domainName state with
    | .ok (_, next) => next
    | .error _ => brain
  | .noteAppliedCaps domainName caps => brain.noteAppliedCaps domainName caps
  | .resetEwma domainName => brain.resetEwma domainName

theorem step_decide {brain next : PRSBrain} {topology : PDNTopology} {domainName : String}
    {state : DomainState} {decision : BrainDecision}
    (call : brain.decide topology domainName state = .ok (decision, next)) :
    brain.step (.decide topology domainName state) = next := by
  simp only [step, call]

/-- The reachable brains are those at the end of a run. -/
theorem reachable_iff_run {params : PRSParams} {brain : PRSBrain} :
    Reachable params brain ↔ ∃ calls, run step { params := params } calls = brain := by
  constructor
  · intro reachable
    induction reachable with
    | init => exact ⟨[], rfl⟩
    | @decide brain next topology domainName state decision before call ih =>
      obtain ⟨calls, rfl⟩ := ih
      exact ⟨calls ++ [.decide topology domainName state],
        (run_append_singleton _ _).trans (step_decide call)⟩
    | noteAppliedCaps domainName caps before ih =>
      obtain ⟨calls, rfl⟩ := ih
      exact ⟨calls ++ [.noteAppliedCaps domainName caps], run_append_singleton _ _⟩
    | resetEwma domainName before ih =>
      obtain ⟨calls, rfl⟩ := ih
      exact ⟨calls ++ [.resetEwma domainName], run_append_singleton _ _⟩
  · rintro ⟨calls, rfl⟩
    refine run_invariant (fun _ => Reachable params) .init (fun past call brain before => ?_) calls
    cases call with
    | decide topology domainName state =>
      cases answer : brain.decide topology domainName state with
      | error exc =>
        have unchanged : brain.step (.decide topology domainName state) = brain := by
          simp only [step, answer]
        rwa [unchanged]
      | ok result =>
        rw [step_decide answer]
        exact .decide before answer
    | noteAppliedCaps domainName caps => exact .noteAppliedCaps domainName caps before
    | resetEwma domainName => exact .resetEwma domainName before

/-- A run keeps the parameters. -/
theorem params_run (params : PRSParams) (calls : List PRSCall) :
    (run step { params := params } calls).params = params :=
  (reachable_iff_run.mpr ⟨calls, rfl⟩).params_eq

/-! ### The range along a run -/

/-- The caps of a call are in the range, for every GPU whose maximum leaves one. -/
def InEnvelope (brain : PRSBrain) : PRSCall → Prop
  | .decide topology domainName state =>
    ∀ decision next, brain.decide topology domainName state = .ok (decision, next) →
      ∀ gpu cap hwMax, decision.caps.get? gpu = some cap →
        state.gpuMaxCaps.get? gpu = some hwMax → brain.params.minCapW ≤ hwMax →
          brain.params.minCapW ≤ cap ∧ cap ≤ hwMax
  | .noteAppliedCaps .. => True
  | .resetEwma .. => True

/-- For every such GPU the limiter is off, or the remembered cap, or the reported one where none is
remembered, is below the floor by at most the rate. -/
def BaselinesReachFloor (brain : PRSBrain) : PRSCall → Prop
  | .decide topology domainName state =>
    ∀ budget, topology.domainBudgetW domainName = .ok budget →
      ∀ gpu ∈ state.gpuDraws.keys, ∀ hwMax, state.gpuMaxCaps.get? gpu = some hwMax →
        brain.params.minCapW ≤ hwMax → (brain.tick budget domainName state).ReachesFloor gpu
  | .noteAppliedCaps .. => True
  | .resetEwma .. => True

/-- One call of any brain. -/
theorem inEnvelope_iff (brain : PRSBrain) (call : PRSCall) :
    brain.InEnvelope call ↔ brain.BaselinesReachFloor call := by
  cases call with
  | noteAppliedCaps domainName caps => exact .rfl
  | resetEwma domainName => exact .rfl
  | decide topology domainName state =>
    constructor
    · intro envelope budget answer gpu present hwMax maximum ordered
      obtain ⟨decision, next, call⟩ := brain.decide_isOk state answer
      have caps := (decide_ok answer call).1
      obtain ⟨cap, decided⟩ := Dict.mem_keys_iff.mp
        (Tick.mem_keys_caps.mpr (show gpu ∈ (brain.tick budget domainName state).gpus from present))
      exact (Tick.cap_mem_iff maximum ordered decided).mp
        (envelope decision next call gpu cap hwMax (caps ▸ decided) maximum ordered)
    · intro reaches decision next call gpu cap hwMax decided maximum ordered
      obtain ⟨budget, answer⟩ := budget_of_decide call
      rw [(decide_ok answer call).1] at decided
      have present : gpu ∈ state.gpuDraws.keys :=
        Tick.mem_keys_caps.mp (Dict.mem_keys_iff.mpr ⟨cap, decided⟩)
      exact (Tick.cap_mem_iff maximum ordered decided).mpr
        (reaches budget answer gpu present hwMax maximum ordered)

/-- **The PRS range, exactly.** Along every run of calls from a new brain with any rate, over any
topologies and telemetry, every decision keeps every GPU whose maximum is at least `min_cap_w` in
`[min_cap_w, maximum]` if and only if at every decision the limiter is off or reaches the floor from the
baseline of each such GPU. -/
theorem prs_envelope_iff (params : PRSParams) (calls : List PRSCall) :
    Along step { params := params } (fun _ => InEnvelope) calls ↔
      Along step { params := params } (fun _ => BaselinesReachFloor) calls := by
  constructor
  · intro envelope past call rest split
    exact (inEnvelope_iff _ call).mp (envelope past call rest split)
  · intro reaches past call rest split
    exact (inEnvelope_iff _ call).mpr (reaches past call rest split)

end PRSBrain

/-! ### A cap below the floor

A GPU runs at 100 W, and the rate is 10 W. -/

def slowParams : PRSParams :=
  { defaultParams with capRaiseRateWPerTick := 10, rate_nonneg := by norm_num }

def lowCapState : DomainState where
  domainName := "domain-0"
  gpuDraws := .ofList [(0, 500)]
  gpuCaps := .ofList [(0, 100)]
  gpuMaxCaps := .ofList [(0, 1000)]
  ts := 0

theorem drawsNonneg_lowCapState : DrawsNonneg lowCapState := by
  intro gpu draw found
  have member : (gpu, draw) ∈ [((0 : GpuIndex), (500 : ℚ))] := Dict.get?_eq_some_iff.mp found
  rw [List.mem_singleton, Prod.mk.injEq] at member
  rw [member.2]
  norm_num

/-- A new brain hands out 110 W where the floor is 200 W and the maximum 1000 W. -/
theorem prs_cap_below_floor :
    PRSBrain.Reachable slowParams { params := slowParams } ∧ DrawsNonneg lowCapState ∧
      lowCapState.gpuMaxCaps.get? 0 = some 1000 ∧ slowParams.minCapW = 200 ∧
      ∃ decision next,
        PRSBrain.decide { params := slowParams } skewedTopology "domain-0" lowCapState =
            .ok (decision, next) ∧
          decision.caps.get? 0 = some 110 ∧ (110 : ℚ) < slowParams.minCapW := by
  refine ⟨.init, drawsNonneg_lowCapState, by decide +kernel, rfl, ?_⟩
  obtain ⟨decision, next, call⟩ :=
    PRSBrain.decide_isOk { params := slowParams } lowCapState domainBudgetW_skewed
  refine ⟨decision, next, call, ?_, by decide +kernel⟩
  rw [(PRSBrain.decide_ok domainBudgetW_skewed call).1]
  decide +kernel

end Opendps.Brain
