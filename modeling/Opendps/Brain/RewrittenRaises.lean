/-
**The raise limiter under brains that rewrite its caps.**

The priority brain splits a surplus among the contended GPUs, the thermal brain hands out the watts it
frees. Both do so on top of caps that PRS has limited, both tell PRS what they return, and neither looks
at the rate. So the limiter's baseline is right at every tick (`remembersReturned`), and whether a cap
rises too fast depends on that second pass alone:

* a contended GPU's part of the surplus against what the limiter leaves above the floor
  (`SplitWithinRate`);
* a GPU's part of the freed watts against what the limiter leaves above its PRS cap
  (`HandOutWithinRate`).

`rewritten_raises_iff` is the equivalence along whole runs of both brains.
-/

import Opendps.Brain.CapRuns
import Opendps.Brain.PriorityFloor
import Opendps.Brain.ThermalPrs

namespace Opendps.Brain

open Opendps.Lib Opendps.Pdn LoopState

/-! ### The thermal brain -/

namespace ThermalAwarePRSBrain

/-- The thermal brain in the loop. -/
def call : DecideCall ThermalAwarePRSBrain := fun brain topology domainName state _ =>
  brain.decide topology domainName state

theorem remembersReturned : RemembersReturned call prs := by
  intro brain topology domainName state around decision next returned
  obtain ⟨budget, answer⟩ := budget_of_decide returned
  exact (decide_ok answer returned).2.2

/-- What is handed to a GPU that is not flagged is at most what the limiter leaves above its PRS cap. -/
def HandOutWithinRate (rate : ℚ) (loop : LoopState ThermalAwarePRSBrain) (tick : LoopTick) : Prop :=
  ∀ budget, tick.topology.domainBudgetW tick.domainName = .ok budget →
    let state := loop.observed tick
    let caps := (loop.brain.prs.inputs budget tick.domainName state).caps
    ∀ gpu before proposed, (ofDomain loop.returned tick.domainName).get? gpu = some before →
      caps.get? gpu = some proposed → ¬ isThrottled state gpu →
        handOut (loop.brain.freedW state caps) (roomW state caps) (headroom state gpu proposed) ≤
          before + rate - proposed

/-- **One tick of the thermal brain.** Backing off raises no cap, so the others decide. -/
theorem risesWithin_iff {params : PRSParams} {loop : LoopState ThermalAwarePRSBrain}
    (synced : Synced prs params loop) (tick : LoopTick) :
    RisesWithin call (fun _ _ => True) params.capRaiseRateWPerTick loop tick ↔
      HandOutWithinRate params.capRaiseRateWPerTick loop tick := by
  have rate := params.rate_nonneg
  constructor
  · intro rises budget answer state caps gpu before proposed returned decided calm
    obtain ⟨decision, next, ran⟩ := loop.brain.decide_isOk state answer
    have after : decision.caps.get? gpu = some (loop.brain.finalCap state caps gpu proposed) := by
      rw [(decide_ok answer ran).1, ← loop.brain.prs.caps_inputs, decided]
      rfl
    have within := rises decision next ran gpu before _ trivial returned after
    rw [finalCap, if_neg calm] at within
    linarith
  · intro handsOut decision next ran gpu before after _ returned decided
    obtain ⟨budget, answer⟩ := budget_of_decide ran
    rw [(decide_ok answer ran).1, ← PRSBrain.caps_inputs, Option.map_eq_some_iff] at decided
    obtain ⟨proposed, stored, rfl⟩ := decided
    by_cases flagged : isThrottled (loop.observed tick) gpu
    · have inForce : (loop.observed tick).gpuCaps.get? gpu = some before :=
        synced.consistent tick.domainName gpu before returned
      have bound : held (loop.observed tick) gpu proposed ≤ before := by
        rw [held, Dict.getD_of_some inForce]
        exact min_le_right _ _
      rw [finalCap, if_pos flagged]
      have backed := loop.brain.backedOff_le_held (loop.observed tick) gpu proposed
      linarith
    · have handed := handsOut budget answer gpu before proposed returned stored flagged
      rw [finalCap, if_neg flagged]
      linarith

end ThermalAwarePRSBrain

/-! ### The priority brain -/

namespace PriorityTieredPRSBrain

/-- The priority brain in the loop. -/
def call : DecideCall PriorityTieredPRSBrain := fun brain topology domainName state _ =>
  brain.decide topology domainName state

theorem budget_of_decide {self next : PriorityTieredPRSBrain} {topology : PDNTopology}
    {domainName : String} {state : DomainState} {decision : BrainDecision}
    (returned : self.decide topology domainName state = .ok (decision, next)) :
    ∃ budget, topology.domainBudgetW domainName = .ok budget := by
  unfold PriorityTieredPRSBrain.decide at returned
  obtain ⟨⟨inner, prs⟩, innerCall, _⟩ := ok_of_bind returned
  exact PRSBrain.budget_of_decide innerCall

theorem remembersReturned : RemembersReturned call prs := by
  intro self topology domainName state around decision next returned
  obtain ⟨budget, answer⟩ := budget_of_decide returned
  obtain ⟨inner, prs, innerCall⟩ := self.prs.decide_isOk state answer
  have sameParams := (PRSBrain.decide_ok answer innerCall).2.1
  obtain ⟨noted, elsewhere⟩ := PRSBrain.remembers_of_decide innerCall
  unfold call PriorityTieredPRSBrain.decide at returned
  simp only [innerCall, bind, Except.bind, answer] at returned
  by_cases few : (self.contended state inner.caps).length < 2
  · rw [if_pos few] at returned
    cases returned
    exact ⟨sameParams, noted, elsewhere⟩
  rw [if_neg few] at returned
  by_cases zero : budget = 0
  · rw [if_pos zero] at returned
    cases returned
    exact ⟨sameParams, noted, elsewhere⟩
  · rw [if_neg zero] at returned
    cases returned
    exact ⟨sameParams, Dict.getD_set_self _ _ _ _, fun other different =>
      (Dict.getD_set_of_ne _ _ _ different).trans (elsewhere other different)⟩

/-- The maximum a contended cap is cut at. -/
def ceiling (state : DomainState) (caps : Dict GpuIndex ℚ) (gpu : GpuIndex) : ℚ :=
  state.gpuMaxCaps.getD gpu (caps.getD gpu 0)

/-- The cap of a GPU where there is no room for the floors. -/
def crampedCap (self : PriorityTieredPRSBrain) (budget : ℚ) (state : DomainState)
    (caps : Dict GpuIndex ℚ) (gpu : GpuIndex) : ℚ :=
  let contended := self.contended state caps
  (if gpu ∈ contended then min self.minCapW (ceiling state caps gpu) else caps.getD gpu 0) *
    scaleFactor budget (reservedIdle contended caps +
      (contended.map fun other => min self.minCapW (ceiling state caps other)).sum)

theorem finalCap_of_cramped {self : PriorityTieredPRSBrain} {budget : ℚ} {state : DomainState}
    {caps : Dict GpuIndex ℚ} (full : ¬ self.HasRoom budget (self.contended state caps) caps)
    (gpu : GpuIndex) :
    self.finalCap budget state caps gpu = self.crampedCap budget state caps gpu := by
  have floors : self.contendedCap budget state (self.contended state caps) caps =
      fun other => min self.minCapW (ceiling state caps other) := by
    funext other
    exact contendedCap_of_no_surplus (surplus_of_no_room full)
  rw [finalCap, floors]
  rfl

/-- Where GPUs are arbitrated among: with room for their floors, the maximum of each contended one or
its part of the surplus is within what the limiter leaves; without it, the floors and the PRS caps of
the others are within the rate once they are scaled to the budget. -/
def SplitWithinRate (rate : ℚ) (loop : LoopState PriorityTieredPRSBrain) (tick : LoopTick) : Prop :=
  ∀ budget, tick.topology.domainBudgetW tick.domainName = .ok budget →
    let self := loop.brain
    let state := loop.observed tick
    let caps := (self.prs.inputs budget tick.domainName state).caps
    let contended := self.contended state caps
    2 ≤ contended.length → budget ≠ 0 →
      ∀ gpu before, gpu ∈ caps.keys →
        (ofDomain loop.returned tick.domainName).get? gpu = some before →
          if self.HasRoom budget contended caps then
            gpu ∈ contended → ceiling state caps gpu ≤ before + rate ∨
              self.surplus budget contended caps * self.drawWeight state gpu /
                  orOne (self.totalWeight state contended) ≤ before + rate - self.minCapW
          else self.crampedCap budget state caps gpu ≤ before + rate

/-- A contended cap is within a bound when its maximum is, or its part of the surplus above the
floor. -/
theorem contendedCap_le_iff {self : PriorityTieredPRSBrain} {budget bound : ℚ} {state : DomainState}
    {contended : List GpuIndex} {caps : Dict GpuIndex ℚ} {gpu : GpuIndex} :
    self.contendedCap budget state contended caps gpu ≤ bound ↔
      ceiling state caps gpu ≤ bound ∨
        self.surplus budget contended caps * self.drawWeight state gpu /
            orOne (self.totalWeight state contended) ≤ bound - self.minCapW := by
  rw [contendedCap, min_le_iff, or_comm, le_sub_iff_add_le']
  rfl

/-- **One tick of the priority brain.** Where it returns the PRS caps these are limited, so the
arbitrated ticks decide. -/
theorem risesWithin_iff {params : PRSParams} (limited : 0 < params.capRaiseRateWPerTick)
    {loop : LoopState PriorityTieredPRSBrain} (synced : Synced prs params loop) (tick : LoopTick) :
    RisesWithin call (fun _ _ => True) params.capRaiseRateWPerTick loop tick ↔
      SplitWithinRate params.capRaiseRateWPerTick loop tick := by
  constructor
  · intro rises budget answer self state caps contended enough powered gpu before present returned
    obtain ⟨decision, next, ran⟩ := self.decide_isOk state answer
    rcases decide_cases_inputs answer ran with ⟨few | zero, _⟩ | ⟨_, _, arbitrated⟩
    · exact absurd enough (not_le.mpr few)
    · exact absurd zero powered
    have after : decision.caps.get? gpu = some (self.finalCap budget state caps gpu) := by
      rw [arbitrated]
      exact get?_scaleDown_arbitrate_of_mem present
    have within := rises decision next ran gpu before _ trivial returned after
    split
    · next room =>
      intro member
      rw [finalCap_of_room room, if_pos member] at within
      exact contendedCap_le_iff.mp within
    · next full =>
      rwa [finalCap_of_cramped full] at within
  · intro fits decision next ran gpu before after _ returned decided
    obtain ⟨budget, answer⟩ := budget_of_decide ran
    rcases decide_cases_inputs answer ran with ⟨_, proposals⟩ | ⟨enough, powered, arbitrated⟩
    · rw [proposals] at decided
      exact synced.proposal_le limited tick budget returned decided
    · rw [arbitrated] at decided
      have present := mem_keys_of_scaleDown_arbitrate (Dict.mem_keys_iff.mpr ⟨after, decided⟩)
      have split := fits budget answer enough powered gpu before present returned
      rw [get?_scaleDown_arbitrate decided]
      by_cases room : loop.brain.HasRoom budget (loop.brain.contended (loop.observed tick)
          (loop.brain.prs.inputs budget tick.domainName (loop.observed tick)).caps)
          (loop.brain.prs.inputs budget tick.domainName (loop.observed tick)).caps
      · rw [if_pos room] at split
        rw [finalCap_of_room room]
        by_cases member : gpu ∈ loop.brain.contended (loop.observed tick)
            (loop.brain.prs.inputs budget tick.domainName (loop.observed tick)).caps
        · rw [if_pos member]
          exact contendedCap_le_iff.mpr (split member)
        · rw [if_neg member]
          obtain ⟨proposed, stored⟩ := Dict.mem_keys_iff.mp present
          rw [Dict.getD_of_some stored]
          exact synced.proposal_le limited tick budget returned stored
      · rw [if_neg room] at split
        rw [finalCap_of_cramped room]
        exact split

end PriorityTieredPRSBrain

/-! ### Whole runs -/

/-- **The raise limiter under rewriting brains, exactly.** For a priority brain and a thermal brain on
new PRS brains with a positive rate, along every run in which each reported cap is the one returned
before (or was found in force at the start): no cap rises by more than the rate above the one returned
before if and only if, at every tick, what the second pass gives is within what the limiter leaves. -/
theorem rewritten_raises_iff {params : PRSParams} (limited : 0 < params.capRaiseRateWPerTick)
    {priority : PriorityTieredPRSBrain} (priorityFresh : priority.prs = { params := params })
    {thermal : ThermalAwarePRSBrain} (thermalFresh : thermal.prs = { params := params })
    (inForce : Dict String (Dict GpuIndex ℚ)) (ticks : List LoopTick) :
    (Along (step PriorityTieredPRSBrain.call) (start priority inForce)
        (fun _ => RisesWithin PriorityTieredPRSBrain.call (fun _ _ => True)
          params.capRaiseRateWPerTick) ticks ↔
      Along (step PriorityTieredPRSBrain.call) (start priority inForce)
        (fun _ => PriorityTieredPRSBrain.SplitWithinRate params.capRaiseRateWPerTick) ticks) ∧
    (Along (step ThermalAwarePRSBrain.call) (start thermal inForce)
        (fun _ => RisesWithin ThermalAwarePRSBrain.call (fun _ _ => True)
          params.capRaiseRateWPerTick) ticks ↔
      Along (step ThermalAwarePRSBrain.call) (start thermal inForce)
        (fun _ => ThermalAwarePRSBrain.HandOutWithinRate params.capRaiseRateWPerTick) ticks) := by
  constructor
  · refine along_congr_of_invariant (fun _ => Synced PriorityTieredPRSBrain.prs params)
      (.start priorityFresh inForce) (fun _ tick _ synced =>
        synced.step PriorityTieredPRSBrain.remembersReturned tick) fun _ tick _ _ synced => ?_
    exact PriorityTieredPRSBrain.risesWithin_iff limited synced tick
  · refine along_congr_of_invariant (fun _ => Synced ThermalAwarePRSBrain.prs params)
      (.start thermalFresh inForce) (fun _ tick _ synced =>
        synced.step ThermalAwarePRSBrain.remembersReturned tick) fun _ tick _ _ synced => ?_
    exact ThermalAwarePRSBrain.risesWithin_iff synced tick

/-! ### Two raises past the rate

Both brains may raise a cap by 50 W a tick. Two idle GPUs are lowered to 200 W. When both become busy the
priority brain gives the critical one 500 W at once. When GPU 0 is flagged instead, the thermal brain
hands the 75 W it frees to GPU 1, which is lifted to 275 W. -/

/-- A tick of the 1000 W domain. -/
def pairTick (draws : Dict GpuIndex ℚ) (flags : Dict GpuIndex Bool) : LoopTick where
  topology := skewedTopology
  domainName := "domain-0"
  draws := draws
  maxCaps := .ofList [(0, 500), (1, 500)]
  ts := 0
  flags := flags
  around := { now := 0, isGpuBusy := fun _ => false }

def pairCaps : Dict String (Dict GpuIndex ℚ) :=
  .ofList [("domain-0", .ofList [(0, 500), (1, 500)])]

def limitedPriority : PriorityTieredPRSBrain :=
  { PriorityTieredPRSBrain.freshBrain with prs := { params := limitedParams } }

def limitedThermal : ThermalAwarePRSBrain where
  prs := { params := limitedParams }
  derate := 15 / 100
  minCapW := 200
  derate_nonneg := defaultPart_nonneg
  derate_lt_one := defaultPart_lt_one

/-- Two GPUs that idle, and then draw 190 W of 200 W. -/
def idlePair : LoopTick := pairTick (.ofList [(0, 50), (1, 50)]) .empty

def busyPair : LoopTick := pairTick (.ofList [(0, 190), (1, 190)]) .empty

/-- A hot and an idle GPU, and then the hot one is flagged. -/
def mixedPair : LoopTick := pairTick (.ofList [(0, 475), (1, 100)]) .empty

def flaggedPair : LoopTick := pairTick (.ofList [(0, 475), (1, 100)]) (.ofList [(0, true)])

/-- Neither brain keeps its caps within the rate. -/
theorem rewritten_raises_exceed_rate :
    (¬ Along (step PriorityTieredPRSBrain.call) (start limitedPriority pairCaps)
      (fun _ => RisesWithin PriorityTieredPRSBrain.call (fun _ _ => True)
        limitedParams.capRaiseRateWPerTick) ([idlePair] ++ [busyPair])) ∧
    ¬ Along (step ThermalAwarePRSBrain.call) (start limitedThermal pairCaps)
      (fun _ => RisesWithin ThermalAwarePRSBrain.call (fun _ _ => True)
        limitedParams.capRaiseRateWPerTick) ([mixedPair] ++ [flaggedPair]) := by
  constructor
  · exact not_along_of_last 0 200 500 trivial (by decide +kernel) (by decide +kernel)
      (by decide +kernel)
  · exact not_along_of_last 1 200 275 trivial (by decide +kernel) (by decide +kernel)
      (by decide +kernel)

/-- The equivalences for two ticks. -/
theorem rewritten_raises_iff_pair :
    (Along (step PriorityTieredPRSBrain.call) (start limitedPriority pairCaps)
        (fun _ => RisesWithin PriorityTieredPRSBrain.call (fun _ _ => True)
          limitedParams.capRaiseRateWPerTick) [idlePair, busyPair] ↔
      Along (step PriorityTieredPRSBrain.call) (start limitedPriority pairCaps)
        (fun _ => PriorityTieredPRSBrain.SplitWithinRate limitedParams.capRaiseRateWPerTick)
          [idlePair, busyPair]) ∧
    (Along (step ThermalAwarePRSBrain.call) (start limitedThermal pairCaps)
        (fun _ => RisesWithin ThermalAwarePRSBrain.call (fun _ _ => True)
          limitedParams.capRaiseRateWPerTick) [idlePair, busyPair] ↔
      Along (step ThermalAwarePRSBrain.call) (start limitedThermal pairCaps)
        (fun _ => ThermalAwarePRSBrain.HandOutWithinRate limitedParams.capRaiseRateWPerTick)
          [idlePair, busyPair]) :=
  rewritten_raises_iff (by norm_num [limitedParams]) rfl rfl pairCaps [idlePair, busyPair]

end Opendps.Brain
