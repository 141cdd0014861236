/-
**A brain in the loop.**

At every tick a brain is told the caps in force, and what it returns is in force from then on
(`LoopState.step`). The loop is the same for every brain of the family, with a `decide` of its own; it
keeps the caps in force and, apart from the ones found at the start, those the brain has returned.
`RisesWithin` is what a raise limiter promises of one tick: no cap is more than the rate above the one
returned before.

A wrapping brain that tells its PRS brain what it returned keeps the two in step (`RemembersReturned`,
`Synced`): the cap a raise is measured from is the one returned before (`Synced.baseline`), so what PRS
proposes rises by at most the rate (`Synced.proposal_le`), and whether the wrapper does is a question
about its own pass over the proposals only.
-/

import Opendps.Brain.Family
import Opendps.Brain.RaiseLimiter
import Opendps.Lib.Run

namespace Opendps.Brain

open Opendps.Lib Opendps.Pdn

/-- A call of `decide` on some kind of brain. -/
abbrev DecideCall (β : Type) :=
  β → PDNTopology → String → DomainState → Surroundings → Except PyError (BrainDecision × β)

/-- What one tick reads besides the caps in force. -/
structure LoopTick where
  topology : PDNTopology
  domainName : String
  draws : Dict GpuIndex ℚ
  maxCaps : Dict GpuIndex ℚ
  ts : ℚ
  flags : Dict GpuIndex Bool
  around : Surroundings

/-- A brain, the caps in force for each domain, and those of them that the brain has returned. -/
structure LoopState (β : Type) where
  brain : β
  inForce : Dict String (Dict GpuIndex ℚ)
  returned : Dict String (Dict GpuIndex ℚ)

namespace LoopState

variable {β : Type} {decide : DecideCall β}

/-- A brain before its first tick, with the caps found in force. -/
def start (brain : β) (inForce : Dict String (Dict GpuIndex ℚ)) : LoopState β where
  brain := brain
  inForce := inForce
  returned := .empty

/-- The caps of one domain. -/
def ofDomain (table : Dict String (Dict GpuIndex ℚ)) (domainName : String) : Dict GpuIndex ℚ :=
  table.getD domainName .empty

/-- Write the caps of a decision over those of its domain. -/
def push (table : Dict String (Dict GpuIndex ℚ)) (domainName : String) (caps : Dict GpuIndex ℚ) :
    Dict String (Dict GpuIndex ℚ) :=
  table.set domainName ((ofDomain table domainName).update caps)

/-- The telemetry of a tick reports the caps in force. -/
def observed (loop : LoopState β) (tick : LoopTick) : DomainState where
  domainName := tick.domainName
  gpuDraws := tick.draws
  gpuCaps := ofDomain loop.inForce tick.domainName
  gpuMaxCaps := tick.maxCaps
  ts := tick.ts
  gpuThermalThrottled := tick.flags

/-- One tick; one that raises leaves everything as it is. -/
def step (decide : DecideCall β) (loop : LoopState β) (tick : LoopTick) : LoopState β :=
  match decide loop.brain tick.topology tick.domainName (loop.observed tick) tick.around with
  | .ok (decision, brain) =>
    { brain := brain
      inForce := push loop.inForce tick.domainName decision.caps
      returned := push loop.returned tick.domainName decision.caps }
  | .error _ => loop

/-- A tick raises the caps of the given GPUs by at most the rate above those returned before. -/
def RisesWithin (decide : DecideCall β) (covers : LoopTick → GpuIndex → Prop) (rate : ℚ)
    (loop : LoopState β) (tick : LoopTick) : Prop :=
  ∀ decision brain,
    decide loop.brain tick.topology tick.domainName (loop.observed tick) tick.around =
        .ok (decision, brain) →
      ∀ gpu before after, covers tick gpu →
        (ofDomain loop.returned tick.domainName).get? gpu = some before →
          decision.caps.get? gpu = some after → after ≤ before + rate

theorem get?_push (table : Dict String (Dict GpuIndex ℚ)) (domainName other : String)
    (caps : Dict GpuIndex ℚ) (gpu : GpuIndex) :
    (ofDomain (push table domainName caps) other).get? gpu =
      if other = domainName then (caps.get? gpu).or ((ofDomain table other).get? gpu)
      else (ofDomain table other).get? gpu := by
  unfold ofDomain push
  by_cases same : other = domainName
  · subst same
    rw [if_pos rfl, Dict.getD_set_self, Dict.get?_update]
    rfl
  · rw [if_neg same, Dict.getD_set_of_ne _ _ _ same]

/-- What a tick does: nothing, or what its call says. -/
theorem step_cases (decide : DecideCall β) (loop : LoopState β) (tick : LoopTick) :
    loop.step decide tick = loop ∨
      ∃ decision brain,
        decide loop.brain tick.topology tick.domainName (loop.observed tick) tick.around =
            .ok (decision, brain) ∧
          loop.step decide tick =
            { brain := brain
              inForce := push loop.inForce tick.domainName decision.caps
              returned := push loop.returned tick.domainName decision.caps } := by
  cases answer :
      decide loop.brain tick.topology tick.domainName (loop.observed tick) tick.around with
  | error exc => exact .inl (by simp only [step, answer])
  | ok result => exact .inr ⟨result.1, result.2, rfl, by simp only [step, answer]⟩

/-- A violation at the last tick of a run is one of the run. -/
theorem not_along_of_last {covers : LoopTick → GpuIndex → Prop} {rate : ℚ} {first : LoopState β}
    {past : List LoopTick} {last : LoopTick} (gpu : GpuIndex) (before after : ℚ)
    (covered : covers last gpu)
    (returned : (ofDomain (run (step decide) first past).returned last.domainName).get? gpu =
      some before)
    (decided : ((decide (run (step decide) first past).brain last.topology last.domainName
      ((run (step decide) first past).observed last) last.around).toOption.bind fun result =>
        result.1.caps.get? gpu) = some after)
    (exceeds : before + rate < after) :
    ¬ Along (step decide) first (fun _ => RisesWithin decide covers rate) (past ++ [last]) := by
  intro rises
  have within := (along_append_singleton.mp rises).2
  unfold RisesWithin at within
  cases answer : decide (run (step decide) first past).brain last.topology last.domainName
      ((run (step decide) first past).observed last) last.around with
  | error exc =>
    rw [answer] at decided
    cases decided
  | ok result =>
    rw [answer] at decided
    have bound := within result.1 result.2 answer gpu before after covered returned decided
    exact absurd bound (not_le.mpr exceeds)

/-- What a brain has returned is in force. -/
def Consistent (loop : LoopState β) : Prop :=
  ∀ domainName gpu cap, (ofDomain loop.returned domainName).get? gpu = some cap →
    (ofDomain loop.inForce domainName).get? gpu = some cap

theorem Consistent.start (brain : β) (inForce : Dict String (Dict GpuIndex ℚ)) :
    Consistent (start brain inForce) := fun _ _ _ found => nomatch found

theorem Consistent.step {loop : LoopState β} (consistent : Consistent loop) (tick : LoopTick) :
    Consistent (loop.step decide tick) := by
  rcases step_cases decide loop tick with same | ⟨decision, brain, _, next⟩
  · rw [same]
    exact consistent
  · rw [next]
    intro domainName gpu cap found
    rw [get?_push] at found ⊢
    split
    · next here =>
      rw [if_pos here] at found
      cases decided : decision.caps.get? gpu with
      | some watts =>
        rw [decided] at found
        exact found
      | none =>
        rw [decided] at found
        exact consistent domainName gpu cap found
    · next elsewhere =>
      rw [if_neg elsewhere] at found
      exact consistent domainName gpu cap found

/-! ### Wrappers that report back -/

/-- A call has its PRS brain remember what it returns for the domain, and nothing else. -/
def RemembersReturned (decide : DecideCall β) (prsOf : β → PRSBrain) : Prop :=
  ∀ brain topology domainName state around decision next,
    decide brain topology domainName state around = .ok (decision, next) →
      (prsOf next).params = (prsOf brain).params ∧
        ofDomain (prsOf next).lastCaps domainName = decision.caps ∧
        ∀ other ≠ domainName,
          ofDomain (prsOf next).lastCaps other = ofDomain (prsOf brain).lastCaps other

/-- The PRS brain has its parameters, and remembers only caps that were returned. -/
structure Synced (prsOf : β → PRSBrain) (params : PRSParams) (loop : LoopState β) : Prop where
  params_eq : (prsOf loop.brain).params = params
  consistent : Consistent loop
  remembered : ∀ domainName gpu cap,
    (ofDomain (prsOf loop.brain).lastCaps domainName).get? gpu = some cap →
      (ofDomain loop.returned domainName).get? gpu = some cap

section Synced

variable {prsOf : β → PRSBrain} {params : PRSParams} {loop : LoopState β}

theorem Synced.start {brain : β} (fresh : prsOf brain = { params := params })
    (inForce : Dict String (Dict GpuIndex ℚ)) : Synced prsOf params (start brain inForce) := by
  refine ⟨?_, .start brain inForce, fun domainName gpu cap found => ?_⟩
  · show (prsOf brain).params = params
    rw [fresh]
  · have nothing : ofDomain (prsOf brain).lastCaps domainName = .empty := by
      rw [fresh]
      rfl
    have looked : (ofDomain (prsOf brain).lastCaps domainName).get? gpu = some cap := found
    rw [nothing] at looked
    cases looked

/-- **One tick keeps the two in step.** -/
theorem Synced.step (reports : RemembersReturned decide prsOf) (synced : Synced prsOf params loop)
    (tick : LoopTick) : Synced prsOf params (loop.step decide tick) := by
  refine ⟨?_, synced.consistent.step tick, ?_⟩ <;>
  rcases step_cases decide loop tick with same | ⟨decision, brain, call, next⟩
  · rw [same]
    exact synced.params_eq
  · rw [next]
    exact (reports _ _ _ _ _ _ _ call).1.trans synced.params_eq
  · rw [same]
    exact synced.remembered
  · obtain ⟨_, noted, elsewhere⟩ := reports _ _ _ _ _ _ _ call
    rw [next]
    intro domainName gpu cap found
    rw [get?_push]
    by_cases here : domainName = tick.domainName
    · rw [if_pos here]
      have decided : decision.caps.get? gpu = some cap := by
        rw [← noted, ← here]
        exact found
      rw [decided]
      rfl
    · rw [if_neg here]
      refine synced.remembered domainName gpu cap ?_
      rw [← elsewhere domainName here]
      exact found

/-- A raise is measured from the cap returned before. -/
theorem Synced.baseline (synced : Synced prsOf params loop) (tick : LoopTick) (budget : ℚ)
    {gpu : GpuIndex} {before : ℚ}
    (returned : (ofDomain loop.returned tick.domainName).get? gpu = some before) :
    ((prsOf loop.brain).tick budget tick.domainName (loop.observed tick)).baseline gpu =
      some before := by
  have inForce : (loop.observed tick).gpuCaps.get? gpu = some before :=
    synced.consistent tick.domainName gpu before returned
  unfold Tick.baseline PRSBrain.tick
  rw [inForce]
  cases memory : ((prsOf loop.brain).lastCaps.getD tick.domainName .empty).get? gpu with
  | none => rfl
  | some cap =>
    have same := synced.remembered tick.domainName gpu cap memory
    rw [returned] at same
    cases same
    rfl

/-- What PRS proposes is at most the rate above the cap returned before. -/
theorem Synced.proposal_le (synced : Synced prsOf params loop)
    (limited : 0 < params.capRaiseRateWPerTick) (tick : LoopTick) (budget : ℚ) {gpu : GpuIndex}
    {before proposed : ℚ}
    (returned : (ofDomain loop.returned tick.domainName).get? gpu = some before)
    (decided : ((prsOf loop.brain).inputs budget tick.domainName
      (loop.observed tick)).caps.get? gpu = some proposed) :
    proposed ≤ before + params.capRaiseRateWPerTick := by
  rw [PRSBrain.caps_inputs] at decided
  have sameParams :
      ((prsOf loop.brain).tick budget tick.domainName (loop.observed tick)).params = params :=
    synced.params_eq
  rw [Tick.get?_caps (sameParams ▸ limited) decided,
    Tick.limitRaise_of_baseline (synced.baseline tick budget returned), sameParams]
  exact min_le_right _ _

end Synced

end LoopState

end Opendps.Brain
