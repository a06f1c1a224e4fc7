import ReqSys.Foundation.TransitionSystem
import ReqSys.Foundation.Table
import ReqSys.Foundation.Numbering
import ReqSys.Foundation.Checked
import ReqSys.Foundation.PyText
import ReqSys.Foundation.Calendar
import ReqSys.Foundation.IsoText
import ReqSys.Foundation.Program
import ReqSys.Foundation.Serial
import ReqSys.Foundation.Shadow
import ReqSys.Foundation.RelyGuarantee
import ReqSys.Foundation.Gate
import ReqSys.Foundation.Answers
import ReqSys.Foundation.Promises
import ReqSys.WorkerPool.Records
import ReqSys.WorkerPool.Text
import ReqSys.WorkerPool.Operations
import ReqSys.WorkerPool.Protocol
import ReqSys.WorkerPool.Refinement
import ReqSys.WorkerPool.LeaseInvariant
import ReqSys.WorkerPool.Handoff
import ReqSys.WorkerPool.Fencing
import ReqSys.WorkerPool.Terminal
import ReqSys.WorkerPool.LaneLimit
import ReqSys.WorkerPool.Expiry
import ReqSys.WorkerPool.Attempts
import ReqSys.Central.Models
import ReqSys.Central.Store
import ReqSys.Central.Stores
import ReqSys.Central.Service
import ReqSys.Central.Calls
import ReqSys.Central.Conclusion
import ReqSys.Central.Admission
import ReqSys.Central.Cycle
import ReqSys.ServiceCases.Domain
import ReqSys.ServiceCases.Controls
import ReqSys.ServiceCases.Sessions
import ReqSys.ServiceCases.History
import ReqSys.ServiceCases.Tables
import ReqSys.ServiceCases.Operations
import ReqSys.ServiceCases.Statements
import ReqSys.ServiceCases.CallEffects
import ReqSys.ServiceCases.Agreement
import ReqSys.ServiceCases.Provenance
import ReqSys.ServiceCases.Approvals
import ReqSys.ServiceCases.Sequences
import ReqSys.ServiceCases.ClosingGate
import ReqSys.Foundation.PyJson
import ReqSys.RuntimeJobs.Redis
import ReqSys.RuntimeJobs.References
import ReqSys.RuntimeJobs.Finality
import ReqSys.RuntimeJobs.Attempts
import ReqSys.RuntimeJobs.Acceptance
import ReqSys.Parallelism.Store
import ReqSys.Parallelism.AuditChain
import ReqSys.OperationalQueue.Tasks
import ReqSys.OperationalQueue.Memory
import ReqSys.OperationalQueue.Streams
import ReqSys.OperationalQueue.Provider
import ReqSys.OperationalQueue.Copies
import ReqSys.OperationalQueue.Gaps
import ReqSys.OperationalQueue.Stranding
import ReqSys.OperationalQueue.Finished
import ReqSys.OperationalQueue.Executions
import ReqSys.Pentaho.Batches
import ReqSys.Pentaho.Withdrawal
import ReqSys.RedmineSync.Queue
import ReqSys.RedmineSync.Issues
import ReqSys.Orchestrator.Evidence
import ReqSys.Central.Listing
import ReqSys.Central.Evidence
import ReqSys.Central.Plan
import ReqSys.Central.NextItem
import ReqSys.Foundation.Separated
import ReqSys.Central.Identity
import ReqSys.Foundation.Words
import ReqSys.Central.Router
import ReqSys.ServiceCases.Interference
import ReqSys.ServiceCases.SlaEvaluation
import ReqSys.ServiceCases.SlaHistory
import ReqSys.ServiceCases.SlaReports
import ReqSys.CopilotMemory.History
import ReqSys.CopilotMemory.Planner
import ReqSys.CopilotMemory.Replay
import ReqSys.SessionSecurity.Revocation
import ReqSys.TokenBroker.Authorization
import ReqSys.TokenBroker.Rotation
import ReqSys.SchemaGovernance.Validator
import ReqSys.SchemaGovernance.Detector
import ReqSys.SchemaGovernance.Compatibility
import ReqSys.Foundation.Guarded
import ReqSys.Foundation.CallsIn
import ReqSys.Foundation.Receipts
import ReqSys.Ocr.Claims
import ReqSys.Ocr.Review
import ReqSys.Notifications.Queue
import ReqSys.Notifications.Delivery
import ReqSys.TodoGlobal.Notion
import ReqSys.FigmaGithub.Sync
import ReqSys.Rag.Chunks
import ReqSys.Rag.Index
import ReqSys.RedmineLifecycle.Workers
import ReqSys.RedmineLifecycle.Answers
import ReqSys.RedmineLifecycle.Journals
import ReqSys.ProcessArtifacts.Chain
import ReqSys.WorkerPool.Readiness
import ReqSys.WorkerPool.Frame
import ReqSys.WorkerPool.Spelling
import ReqSys.WorkerPool.Bridge
import ReqSys.WorkerPool.Idempotency
import ReqSys.WorkerPool.HandOver
import ReqSys.Foundation.Scan
import ReqSys.WorkerPool.Statements
import ReqSys.WorkerPool.Watchdog
import ReqSys.WorkerPool.Waiting
import ReqSys.WorkerPool.Rerouting
import ReqSys.WorkerPool.ScanOrder
import ReqSys.WorkerPool.Fairness
import ReqSys.WorkerPool.Atomicity
import ReqSys.Lifecycle.Evidence
import ReqSys.Lifecycle.Traceability
import ReqSys.Lifecycle.Impact
import ReqSys.ServiceCases.Fingerprint
import ReqSys.ServiceCases.CatalogForms
import ReqSys.ProcessArtifacts.Comparison
import ReqSys.Requisitos.Workflow
import ReqSys.Requisitos.Repository
import ReqSys.Requisitos.Webhook
import ReqSys.Requisitos.Gates
import ReqSys.Requisitos.Levantamento
import ReqSys.Agile.Runtime
import ReqSys.Foundation.Prefixes
import ReqSys.Agile.Gates
import ReqSys.Foundation.Bfs
import ReqSys.Lifecycle.GraphSearch
import ReqSys.Foundation.ElementaryCycles
import ReqSys.Vba.CallGraph
import ReqSys.Resilience.CircuitBreaker
import ReqSys.SchemaGovernance.Standard
import ReqSys.Foundation.Regex
import ReqSys.Vba.CallSites
import ReqSys.Vba.Lines
import ReqSys.Vba.NameSearch
import ReqSys.Vba.NestedCalls
import ReqSys.Foundation.Stripping
import ReqSys.Rag.Coverage
import ReqSys.TodoGlobal.RoundTrip
import ReqSys.FigmaGithub.Bidirectional
import ReqSys.FigmaGithub.ToGithub
import ReqSys.FigmaGithub.FixedPoint
