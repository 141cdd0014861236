import Opendps.Lib.Dict
import Opendps.Lib.Shares
import Opendps.Lib.Ledger
import Opendps.Lib.LinearProgram
import Opendps.Lib.Python
import Opendps.Lib.Run
import Opendps.Lib.Prog
import Opendps.Lib.Calls
import Opendps.Lib.Json
import Opendps.Lib.Double
import Opendps.Lib.FloatArithmetic
import Opendps.Lib.Numerals
import Opendps.Lib.Outcome
import Opendps.Lib.Builtins
import Opendps.Lib.Encoding
import Opendps.Pdn.Model
import Opendps.Pdn.Allocation
import Opendps.Pdn.Quota
import Opendps.Pdn.Loading
import Opendps.Pdn.QuotaDocument
import Opendps.Pdn.TopologyDocument
import Opendps.Pdn.UsableTopology
import Opendps.Pdn.RackCascade
import Opendps.Brain.Dpm
import Opendps.Brain.Prs
import Opendps.Brain.PrsBudget
import Opendps.Brain.QuotaPrs
import Opendps.Brain.QuotaSlices
import Opendps.Brain.PriorityPrs
import Opendps.Brain.Cvxpy
import Opendps.Brain.Family
import Opendps.Telemetry.Energy
import Opendps.Telemetry.PromClient
import Opendps.Telemetry.HostMixing
import Opendps.Agent.Failsafe
import Opendps.Brain.RaiseLimiter
import Opendps.Brain.PrsDemand
import Opendps.Brain.PriorityShares
import Opendps.Brain.PriorityFloor
import Opendps.Brain.PrsEnvelope
import Opendps.Brain.LimiterRefinement
import Opendps.Brain.IdleStability
import Opendps.Brain.ThermalPrs
import Opendps.Brain.JobBoost
import Opendps.Brain.CapRuns
import Opendps.Brain.RewrittenRaises
import Opendps.Brain.TenantBrains
import Opendps.Brain.ScaledRaises
import Opendps.Brain.FallbackHistory
import Opendps.Brain.SharedEwma
import Opendps.Brain.CvxpyFallback
import Opendps.Agent.Ipc
import Opendps.Agent.JobTracker
import Opendps.Controller.ClusterCoordinator
import Opendps.Controller.AdoptedBudgets
import Opendps.Controller.BudgetAdoption
import Opendps.Controller.RedisStore
import Opendps.Controller.StoreRefinement
import Opendps.Operator.Api
import Opendps.Operator.Assignments
import Opendps.Operator.Registry
import Opendps.Operator.Linearizability
import Opendps.Operator.ConfigMapUpserts
import Opendps.Operator.Reconcile
import Opendps.Operator.PublishedEntries
import Opendps.Operator.ConcurrentReconcile
import Opendps.Operator.PodEvents
import Opendps.Operator.PodViews
import Opendps.Operator.PodTrail
import Opendps.Operator.PodWatch
import Opendps.Operator.WatchedHandlers
import Opendps.Operator.DigestSuppression
import Opendps.Operator.HandEditedEntries
import Opendps.Operator.GpuAnnotation
import Opendps.Operator.PowerDomains
import Opendps.Controller.PriorityConfig
import Opendps.Controller.PriorityPolling
import Opendps.Controller.AssignmentConflicts
import Opendps.Controller.Handoff
import Opendps.Controller.Metering
import Opendps.Controller.Showback
import Opendps.Controller.ControlTick
import Opendps.Controller.AgentBridge
import Opendps.Controller.TelemetryPaths
import Opendps.Sim.Backend
import Opendps.Sim.FailsafeTwin
import Opendps.Sim.RustBackend
import Opendps.Controller.ClosedLoop
import Opendps.Brain.CappedGpus
import Opendps.Controller.Standalone
import Opendps.Sim.Presets
import Opendps.Controller.StandaloneRuns
import Opendps.Controller.SimTicks
import Opendps.Controller.TiersInForce
import Opendps.Controller.AgentLink
import Opendps.Controller.AgentActuator
import Opendps.Operator.DomainConfigMaps
import Opendps.Operator.DomainLifecycle
import Opendps.Controller.Startup
import Opendps.Controller.StartedRuns
import Opendps.Controller.DeviceCalls
import Opendps.Controller.CallRules
import Opendps.Agent.Guarded
import Opendps.Sim.LoadProfiles
import Opendps.Agent.SimAgent
import Opendps.Agent.NvmlAgent
import Opendps.Agent.Process
import Opendps.Lib.Locks
import Opendps.Agent.RustProcess
import Opendps.Agent.Scrapes
import Opendps.Agent.RustFailsafe
import Opendps.Controller.PromptNodes
