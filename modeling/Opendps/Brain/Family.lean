/-
**The brains a controller can run on a domain.**

Two more brains wrap PRS. `JobAwarePRSBrain` raises the caps of GPUs with a compute job and scales
everything down to the budget; `ThermalAwarePRSBrain` backs off the GPUs that are flagged as throttling
and hands what that frees to the others. `AnyBrain` is the family: DPM, PRS, the linear program and
the wrappers, behind one `decide`.

Of the family only the thermal brain reads the thermal flags (`AnyBrain.decide_flags`).
-/

import Opendps.Brain.Cvxpy
import Opendps.Brain.PriorityPrs
import Opendps.Brain.QuotaPrs
import Opendps.Lib.Outcome

namespace Opendps.Brain

open Opendps.Lib Opendps.Pdn

/-- The default boost and the default derating are in range. -/
theorem defaultPart_nonneg : (0 : ℚ) ≤ 15 / 100 := by norm_num

theorem defaultPart_lt_one : (15 / 100 : ℚ) < 1 := by norm_num

/-! ### Boosting GPUs with jobs -/

/-- A PRS brain and the boost of a GPU with an active job. -/
structure JobAwarePRSBrain where
  prs : PRSBrain
  boost : ℚ
  boost_nonneg : 0 ≤ boost

namespace JobAwarePRSBrain

/-- The constructor, with its default boost. -/
def init (params : PRSParams) (priorityBoost : ℚ := 15 / 100) : Except PyError JobAwarePRSBrain :=
  if nonneg : 0 ≤ priorityBoost then
    .ok { prs := { params := params }, boost := priorityBoost, boost_nonneg := nonneg }
  else .error (.valueError ("priority_boost must be >= 0, got " ++ (PyFloat.finite priorityBoost).repr))

/-- Raise the caps of the busy GPUs, up to their hardware maxima. -/
def boostCaps (self : JobAwarePRSBrain) (state : DomainState) (busy : List GpuIndex)
    (caps : Dict GpuIndex ℚ) : Dict GpuIndex ℚ :=
  busy.foldl (fun caps gpu => caps.set gpu (min (caps.getD gpu 0 * (1 + self.boost))
    (state.gpuMaxCaps.getD gpu (caps.getD gpu 0)))) caps

/-- One decision; `isGpuBusy` is what the job tracker answers. -/
def decide (self : JobAwarePRSBrain) (topology : PDNTopology) (domainName : String)
    (state : DomainState) (isGpuBusy : GpuIndex → Bool) :
    Except PyError (BrainDecision × JobAwarePRSBrain) := do
  let (decision, prs) ← self.prs.decide topology domainName state
  let busy := decision.caps.keys.filter isGpuBusy
  if busy = [] then pure (decision, { self with prs := prs })
  else
    let budget ← topology.domainBudgetW domainName
    let caps := PriorityTieredPRSBrain.scaleDown budget (self.boostCaps state busy decision.caps)
    pure ({ decision with caps := caps }, { self with prs := prs })

end JobAwarePRSBrain

/-! ### Backing off GPUs that throttle -/

/-- A PRS brain and how far a throttling GPU is backed off. -/
structure ThermalAwarePRSBrain where
  prs : PRSBrain
  derate : ℚ
  minCapW : ℚ
  derate_nonneg : 0 ≤ derate
  derate_lt_one : derate < 1

namespace ThermalAwarePRSBrain

/-- The constructor, with its default arguments. -/
def init (params : PRSParams) (thermalDerate : ℚ := 15 / 100) (minCapW : ℚ := 200) :
    Except PyError ThermalAwarePRSBrain :=
  if range : 0 ≤ thermalDerate ∧ thermalDerate < 1 then
    .ok { prs := { params := params }, derate := thermalDerate, minCapW := minCapW
          derate_nonneg := range.1, derate_lt_one := range.2 }
  else .error (.valueError ("thermal_derate must be in [0, 1), got " ++
    (PyFloat.finite thermalDerate).repr))

/-- Back one GPU off; what that frees is added up. -/
def backOff (self : ThermalAwarePRSBrain) (state : DomainState) (pass : Dict GpuIndex ℚ × ℚ)
    (gpu : GpuIndex) : Dict GpuIndex ℚ × ℚ :=
  let (caps, freed) := pass
  let cap := caps.getD gpu 0
  -- from whichever is lower, the proposal or the cap in force, and never above it
  let base := min cap (state.gpuCaps.getD gpu cap)
  let reduced := min base (max self.minCapW (base * (1 - self.derate)))
  (caps.set gpu reduced, freed + (cap - reduced))

/-- Hand the freed watts to the other GPUs, in proportion to what each has left to its maximum. -/
def redistribute (state : DomainState) (throttled : List GpuIndex) (freed : ℚ)
    (caps : Dict GpuIndex ℚ) : Dict GpuIndex ℚ :=
  let recipients := caps.keys.filter fun gpu => Decidable.decide (gpu ∉ throttled)
  let headroom gpu := max 0 (state.gpuMaxCaps.getD gpu (caps.getD gpu 0) - caps.getD gpu 0)
  let totalHead := (recipients.map headroom).sum
  if 0 < freed ∧ 0 < totalHead then
    let give := min freed totalHead
    caps.setAll (recipients.map fun gpu =>
      (gpu, caps.getD gpu 0 + give * headroom gpu / totalHead))
  else caps

/-- Compute new caps for all GPUs of a domain. -/
def decide (self : ThermalAwarePRSBrain) (topology : PDNTopology) (domainName : String)
    (state : DomainState) : Except PyError (BrainDecision × ThermalAwarePRSBrain) := do
  let (decision, prs) ← self.prs.decide topology domainName state
  let throttled := decision.caps.keys.filter fun gpu => state.gpuThermalThrottled.getD gpu false
  if throttled = [] then pure (decision, { self with prs := prs })
  else
    let (reduced, freed) := throttled.foldl (self.backOff state) (decision.caps, 0)
    let caps := redistribute state throttled freed reduced
    pure ({ domain := domainName, caps := caps, ts := state.ts
            reason := "thermal-prs:" ++ toString throttled.length ++ "throttled" },
          { self with prs := prs.noteAppliedCaps domainName caps })

end ThermalAwarePRSBrain

/-! ### The family -/

/-- What a brain finds besides the telemetry: the clock, the jobs, and the solver if there is one. -/
structure Surroundings where
  now : ℚ
  isGpuBusy : GpuIndex → Bool
  cp : Option Solver := none

/-- The brains of the family. -/
inductive AnyBrain where
  | dpm (brain : DPMBrain)
  | prs (brain : PRSBrain)
  | cvxpy (brain : CVXPYBrain)
  | jobPrs (brain : JobAwarePRSBrain)
  | quotaPrs (brain : QuotaAwarePRSBrain)
  | refusedQuotaPrs (brain : RefusedQuotaBrain)
  | priorityPrs (brain : PriorityTieredPRSBrain)
  | thermalPrs (brain : ThermalAwarePRSBrain)

namespace AnyBrain

/-- A call of `decide` on whichever brain it is. -/
def decide (self : AnyBrain) (topology : PDNTopology) (domainName : String) (state : DomainState)
    (around : Surroundings) : Except PyError (BrainDecision × AnyBrain) :=
  match self with
  | dpm brain => do
    let decision ← brain.decide topology domainName state
    pure (decision, .dpm brain)
  | prs brain => do
    let (decision, next) ← brain.decide topology domainName state
    pure (decision, .prs next)
  | cvxpy brain => do
    let (decision, next) ← brain.decide topology domainName state around.cp
    pure (decision, .cvxpy next)
  | jobPrs brain => do
    let (decision, next) ← brain.decide topology domainName state around.isGpuBusy
    pure (decision, .jobPrs next)
  | quotaPrs brain => do
    let (decision, next) ← brain.decide topology domainName state around.now
    pure (decision, .quotaPrs next)
  | refusedQuotaPrs brain => do
    let (decision, next) ← brain.decide topology domainName state around.now
    pure (decision, .refusedQuotaPrs next)
  | priorityPrs brain => do
    let (decision, next) ← brain.decide topology domainName state
    pure (decision, .priorityPrs next)
  | thermalPrs brain => do
    let (decision, next) ← brain.decide topology domainName state
    pure (decision, .thermalPrs next)

/-- The one brain that reads the thermal flags. -/
def ReadsFlags : AnyBrain → Prop
  | thermalPrs _ => True
  | _ => False

/-- **The other brains decide alike whatever the flags are.** -/
theorem decide_flags {self : AnyBrain} (blind : ¬ self.ReadsFlags) (topology : PDNTopology)
    (domainName : String) (state : DomainState) (around : Surroundings)
    (flags : Dict GpuIndex Bool) :
    self.decide topology domainName { state with gpuThermalThrottled := flags } around =
      self.decide topology domainName state around := by
  cases self with
  | dpm brain => rfl
  | prs brain => rfl
  | cvxpy brain => rfl
  | jobPrs brain => rfl
  | quotaPrs brain => rfl
  | refusedQuotaPrs brain => rfl
  | priorityPrs brain => rfl
  | thermalPrs brain => exact absurd trivial blind

/-- A call leaves a brain of the same kind. -/
theorem readsFlags_decide {self next : AnyBrain} {topology : PDNTopology} {domainName : String}
    {state : DomainState} {around : Surroundings} {decision : BrainDecision}
    (call : self.decide topology domainName state around = .ok (decision, next)) :
    next.ReadsFlags ↔ self.ReadsFlags := by
  cases self <;>
    · obtain ⟨_, _, stored⟩ := ok_of_bind call
      cases stored
      exact .rfl

end AnyBrain

end Opendps.Brain
