/-
**Reading caps back from the agent's actuator.**

The actuator answers `get_power_cap` from the one dictionary it remembers. `push_all_caps` puts the
caller's dictionary in its place, the object itself, and `set_power_cap` writes into it. So a push
forgets what was pushed before it, and the answers are what the agent holds exactly as long as every
push names all GPUs named before, but for those at zero watts (`actuator_reads_back_iff`).
-/

import Opendps.Lib.Run
import Opendps.Pdn.Model

set_option linter.unusedSectionVars false

namespace Opendps.Controller

open Opendps.Lib Opendps.Pdn

variable {Ref : Type} [DecidableEq Ref]

/-- The actuator, with the dictionaries it shares with its callers. `delivered` are the caps the agent
holds: of every GPU the last one sent to it. -/
structure AgentBridgeActuator (Ref : Type) where
  dicts : Option Ref → Dict GpuIndex ℚ
  lastCaps : Option Ref := none
  delivered : Dict GpuIndex ℚ := .empty

/-- A call, with the dictionary object it passes. -/
inductive ActuatorCall (Ref : Type) where
  | setPowerCap (gpuIndex : GpuIndex) (watts : ℚ)
  | pushAllCaps (caps : Ref)

namespace AgentBridgeActuator

/-- A new actuator remembers an empty dictionary of its own. -/
def init (dicts : Ref → Dict GpuIndex ℚ) : AgentBridgeActuator Ref where
  dicts
    | none => .empty
    | some caps => dicts caps

def setPowerCap (self : AgentBridgeActuator Ref) (gpuIndex : GpuIndex) (watts : ℚ) :
    AgentBridgeActuator Ref :=
  { self with
    dicts := Function.update self.dicts self.lastCaps ((self.dicts self.lastCaps).set gpuIndex watts)
    delivered := self.delivered.set gpuIndex watts }

def pushAllCaps (self : AgentBridgeActuator Ref) (caps : Ref) : AgentBridgeActuator Ref :=
  { self with
    lastCaps := some caps
    delivered := self.delivered.update (self.dicts (some caps)) }

def getPowerCap (self : AgentBridgeActuator Ref) (gpuIndex : GpuIndex) : ℚ :=
  (self.dicts self.lastCaps).getD gpuIndex 0

/-- One call, delivered to the agent. -/
def step (self : AgentBridgeActuator Ref) : ActuatorCall Ref → AgentBridgeActuator Ref
  | .setPowerCap gpuIndex watts => self.setPowerCap gpuIndex watts
  | .pushAllCaps caps => self.pushAllCaps caps

/-- Of every GPU it was ever told about, the actuator answers the last cap sent. -/
def ReadsBack (self : AgentBridgeActuator Ref) : Prop :=
  ∀ gpu watts, self.delivered.get? gpu = some watts → self.getPowerCap gpu = watts

/-- A push names every GPU that was sent a cap before, unless the cap is zero. -/
def Covers (self : AgentBridgeActuator Ref) : ActuatorCall Ref → Prop
  | .setPowerCap _ _ => True
  | .pushAllCaps caps => ∀ gpu watts, self.delivered.get? gpu = some watts →
      (self.dicts (some caps)).get? gpu = none → watts = 0

/-! ### One call -/

theorem readsBack_init (dicts : Ref → Dict GpuIndex ℚ) : (init dicts).ReadsBack := by
  intro gpu watts told
  cases told

theorem getPowerCap_setPowerCap (self : AgentBridgeActuator Ref) (gpuIndex gpu : GpuIndex) (watts : ℚ) :
    (self.setPowerCap gpuIndex watts).getPowerCap gpu =
      ((self.dicts self.lastCaps).set gpuIndex watts).getD gpu 0 :=
  congrArg (fun caps : Dict GpuIndex ℚ => caps.getD gpu 0) (Function.update_self _ _ _)

/-- The frame of a single cap: the other GPUs keep theirs. -/
theorem ReadsBack.setPowerCap {self : AgentBridgeActuator Ref} (readsBack : self.ReadsBack)
    (gpuIndex : GpuIndex) (watts : ℚ) : (self.setPowerCap gpuIndex watts).ReadsBack := by
  intro gpu told last
  rw [getPowerCap_setPowerCap]
  by_cases own : gpu = gpuIndex
  · subst own
    have sent : (self.delivered.set gpu watts).get? gpu = some told := last
    rw [Dict.get?_set_self, Option.some.injEq] at sent
    rw [Dict.getD_set_self, sent]
  · have kept : (self.delivered.set gpuIndex watts).get? gpu = some told := last
    rw [Dict.get?_set_of_ne _ _ own] at kept
    rw [Dict.getD_set_of_ne _ _ _ own]
    exact readsBack gpu told kept

/-- After a push the answers are those of the pushed dictionary. -/
theorem readsBack_pushAllCaps_iff {self : AgentBridgeActuator Ref} {caps : Ref} :
    (self.pushAllCaps caps).ReadsBack ↔ self.Covers (.pushAllCaps caps) := by
  refine forall_congr' fun gpu => ?_
  have answers : (self.pushAllCaps caps).getPowerCap gpu = (self.dicts (some caps)).getD gpu 0 := rfl
  have sent : (self.pushAllCaps caps).delivered.get? gpu =
      ((self.dicts (some caps)).get? gpu).or (self.delivered.get? gpu) := Dict.get?_update _ _ gpu
  rw [answers, sent]
  cases named : (self.dicts (some caps)).get? gpu with
  | some watts => simp [Dict.getD_of_some named]
  | none => simp [Dict.getD_of_none named, eq_comm]

theorem readsBack_step_iff {self : AgentBridgeActuator Ref} {call : ActuatorCall Ref}
    (readsBack : self.ReadsBack) : (self.step call).ReadsBack ↔ self.Covers call := by
  cases call with
  | setPowerCap gpuIndex watts => exact iff_of_true (readsBack.setPowerCap gpuIndex watts) trivial
  | pushAllCaps caps => exact readsBack_pushAllCaps_iff

/-! ### Sequences of calls -/

/-- **The actuator reads back what was pushed, after each of any calls, exactly when every push names all
GPUs that were sent a cap before it,** those at zero watts apart. -/
theorem actuator_reads_back_iff (dicts : Ref → Dict GpuIndex ℚ) (calls : List (ActuatorCall Ref)) :
    (∀ past rest, calls = past ++ rest → (run step (init dicts) past).ReadsBack) ↔
      Along step (init dicts) (fun _ => Covers) calls := by
  induction calls using List.reverseRecOn with
  | nil =>
    refine iff_of_true (fun past rest split => ?_) along_nil
    rw [(List.nil_eq_append_iff.mp split).1]
    exact readsBack_init dicts
  | append_singleton calls last ih =>
    rw [forall_past_append_singleton, ih, along_append_singleton]
    refine and_congr_right fun before => ?_
    rw [run_append_singleton]
    exact readsBack_step_iff (ih.mpr before calls [] (List.append_nil calls).symm)

/-! ### One push for each of two domains -/

/-- GPU 0 is in one domain and GPU 1 in the other. -/
def twoDomainCaps : Bool → Dict GpuIndex ℚ
  | false => .ofList [(0, 150)]
  | true => .ofList [(1, 150)]

/-- After the second push GPU 0 reads 0 W, and the agent holds it at 150 W. -/
theorem second_domain_forgets_first :
    (run step (init twoDomainCaps) [.pushAllCaps false, .pushAllCaps true]).delivered.get? 0 =
        some 150 ∧
      (run step (init twoDomainCaps) [.pushAllCaps false, .pushAllCaps true]).getPowerCap 0 = 0 := by
  decide +kernel

end AgentBridgeActuator

end Opendps.Controller
