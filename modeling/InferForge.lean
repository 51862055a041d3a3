import InferForge.Scheduler.Pipeline
import InferForge.Scheduler.Leases
import InferForge.Scheduler.Diagnosis
import InferForge.Scheduler.Owners
import InferForge.Scheduler.Atomicity
import InferForge.Scheduler.View
import InferForge.JournalHistory
import InferForge.Bridge.Completeness
import InferForge.Bridge.Rebinding
import InferForge.Resubmission
import InferForge.Adapters.Ownership
import InferForge.Runners.Archive
import InferForge.Attempts.Exclusive
import InferForge.Runners.ProofVerdict
import InferForge.Runners.ServerReuse
import InferForge.Recovery.Bounded
import InferForge.Scheduler.Renewal
import InferForge.Runners.GateVerdict
import InferForge.ResultSoundness
import InferForge.Graph.ExitCode
import InferForge.LayerSwap
import InferForge.Performance
import InferForge.Deployment.MemoryBudget
import InferForge.Deployment.WorstCase
import InferForge.Operations.ShimSignals
import InferForge.Operations.ShimRequests
import InferForge.Patches.Transaction
import InferForge.Artifacts.Complete
import InferForge.Deployment.PlanFits
import InferForge.Numerics.PagedExact
import InferForge.Patches.DriftRepairs
import InferForge.Numerics.KvSpans
import InferForge.Operations.TensorDiff
import InferForge.Probes.BlockSparse
import InferForge.Probes.EarnedPass
import InferForge.Probes.Evaluation
import InferForge.Probes.ModelFingerprint
import InferForge.Probes.SwapCheckpoint
import InferForge.Operations.SupportMatrix
import InferForge.Graph.TaskMemory
import InferForge.Operations.CapabilityMatch
import InferForge.Validators.Evaluation
import InferForge.Validators.Triage
import InferForge.Runners.Triage
import InferForge.Operations.VendorHandoff
import InferForge.DirectoryNames
import InferForge.Validators.Scan
import InferForge.Probes.ModelSupport
import InferForge.Validators.Capability
import InferForge.Operations.ClassifyGaps
import InferForge.Probes.ToyBringup
import InferForge.Bridge.Delivery
import InferForge.Bridge.Receipt
import InferForge.Scheduler.Successors
import InferForge.Graph.Reuse
import InferForge.Graph.Finish
import InferForge.Runners.GradedVerdict
import InferForge.Runners.TaskStatus
import InferForge.Attempts.Sites
import InferForge.Attempts.Standing
import InferForge.Attempts.Located
