import SentinelOps.Lib.Fallible
import SentinelOps.Lib.Dict
import SentinelOps.Lib.StrEnum
import SentinelOps.Remediation.Vocabulary
import SentinelOps.Lib.PyText
import SentinelOps.Remediation.Catalogue
import SentinelOps.Remediation.Proposal
import SentinelOps.Remediation.StateMachine
import SentinelOps.Remediation.Policy
import SentinelOps.Remediation.Executor
import SentinelOps.Lib.Regex
import SentinelOps.Remediation.Redaction
import SentinelOps.Lib.PyFloat
import SentinelOps.Remediation.Recovery
import SentinelOps.Remediation.Audit
import SentinelOps.Remediation.Repository
import SentinelOps.Lib.Transition
import SentinelOps.Remediation.Service
import SentinelOps.Remediation.Routes
import SentinelOps.Auth.Tokens
import SentinelOps.Lib.Hashlib
import SentinelOps.Auth.Accounts
import SentinelOps.Auth.Sessions
import SentinelOps.Auth.Agreement
import SentinelOps.Lib.Groups
import SentinelOps.Lib.Lines
import SentinelOps.Lib.NumPy
import SentinelOps.Lib.Numerals
import SentinelOps.Lib.Median
import SentinelOps.Lib.Trailing
import SentinelOps.Lib.Paired
import SentinelOps.Lib.Publication
import SentinelOps.Lib.PyArith
import SentinelOps.Lib.PySet
import SentinelOps.Lib.RegexMatches
import SentinelOps.Lib.Related
import SentinelOps.Lib.Rounding
import SentinelOps.Lib.Runs
import SentinelOps.Remediation.Steps
import SentinelOps.Remediation.Invariant
import SentinelOps.Remediation.Preservation
import SentinelOps.Remediation.Reachable
import SentinelOps.Remediation.SqlRepository
import SentinelOps.Remediation.SqlRefinement
import SentinelOps.Remediation.Backend
import SentinelOps.Remediation.Lifecycle
import SentinelOps.Remediation.AtMostOnce
import SentinelOps.Remediation.Queries
import SentinelOps.Remediation.Trail
import SentinelOps.Remediation.AuditTrail
import SentinelOps.Remediation.Duplicate
import SentinelOps.Remediation.Cooldown
import SentinelOps.Remediation.Equivalence
import SentinelOps.Remediation.Stranded
import SentinelOps.Remediation.Decisions
import SentinelOps.Remediation.Expiry
import SentinelOps.Remediation.FreeText
import SentinelOps.Remediation.FreeTextStep
import SentinelOps.Remediation.FreeTextStores
import SentinelOps.Remediation.Mapping
import SentinelOps.Remediation.NoSecrets
import SentinelOps.Remediation.PollLoop
import SentinelOps.Kafka.Producer
import SentinelOps.Remediation.Publisher
import SentinelOps.Remediation.Published
import SentinelOps.Remediation.Steering
import SentinelOps.Remediation.Strictness
import SentinelOps.Kafka.Consumer
import SentinelOps.Kafka.Attempts
import SentinelOps.Kafka.Invariant
import SentinelOps.Kafka.Delivery
import SentinelOps.IncidentCorrelator.Domain
import SentinelOps.IncidentCorrelator.Correlation
import SentinelOps.IncidentCorrelator.Severity
import SentinelOps.IncidentCorrelator.StateMachine
import SentinelOps.IncidentCorrelator.Processor
import SentinelOps.IncidentCorrelator.Memory
import SentinelOps.IncidentCorrelator.Summary
import SentinelOps.IncidentCorrelator.MemorySteps
import SentinelOps.IncidentCorrelator.Conservation
import SentinelOps.IncidentCorrelator.Events
import SentinelOps.IncidentCorrelator.Attribution
import SentinelOps.IncidentCorrelator.Commits
import SentinelOps.IncidentCorrelator.Sql
import SentinelOps.IncidentCorrelator.SqlInvariant
import SentinelOps.IncidentCorrelator.Interleaving
import SentinelOps.IncidentCorrelator.Histories
import SentinelOps.IncidentCorrelator.Topology
import SentinelOps.IncidentCorrelator.Links
import SentinelOps.IncidentCorrelator.LinkCompleteness
import SentinelOps.IncidentCorrelator.Window
import SentinelOps.IncidentCorrelator.OrderIndependence
import SentinelOps.IncidentCorrelator.SeverityMonotone
import SentinelOps.IncidentCorrelator.StorageFailures
import SentinelOps.Rca.Domain
import SentinelOps.Rca.Schemas
import SentinelOps.Rca.Documents
import SentinelOps.Rca.Llm
import SentinelOps.Rca.Tools
import SentinelOps.Rca.Engine
import SentinelOps.Rca.Validation
import SentinelOps.Rca.Synthesis
import SentinelOps.Rca.Nodes
import SentinelOps.Rca.Graph
import SentinelOps.Rca.Repository
import SentinelOps.Rca.SqlRepository
import SentinelOps.Rca.Agent
import SentinelOps.Rca.AgentSteps
import SentinelOps.Rca.Effects
import SentinelOps.Rca.EvidenceTools
import SentinelOps.Rca.Budget
import SentinelOps.Rca.StateMachine
import SentinelOps.Rca.Termination
import SentinelOps.Rca.Statuses
import SentinelOps.Rca.Reports
import SentinelOps.Rca.Conservation
import SentinelOps.Rca.EvidenceBlock
import SentinelOps.Rca.Frugal
import SentinelOps.Rca.EvidenceBudget
import SentinelOps.Rca.Prometheus
import SentinelOps.Rca.Exposition
import SentinelOps.Rca.ExpositionExact
import SentinelOps.Rca.Mock
import SentinelOps.Rca.ReportSoundness
import SentinelOps.Rca.MockSoundness
import SentinelOps.Rca.RoundTrip
import SentinelOps.Rca.OneInvestigation
import SentinelOps.Rca.NeverDropped
import SentinelOps.Rca.Plans
import SentinelOps.Ml.Promotion
import SentinelOps.Ml.Retraining
import SentinelOps.Ml.Aliases
import SentinelOps.Ml.Calibration
import SentinelOps.Ml.Features
import SentinelOps.Ml.WindowSignals
import SentinelOps.Ml.Collected
import SentinelOps.Ml.Detectors
import SentinelOps.Ml.Drift
import SentinelOps.Ml.Divergence
import SentinelOps.Ml.EventMetrics
import SentinelOps.Ml.FullShift
import SentinelOps.Ml.Splits
import SentinelOps.Ml.Training
import SentinelOps.Ml.Service
import SentinelOps.Ml.WindowBounds
import SentinelOps.AnomalyDetector.MetricsSource
import SentinelOps.AnomalyDetector.Events
import SentinelOps.AnomalyDetector.Runner
import SentinelOps.AnomalyDetector.Accounts
import SentinelOps.AnomalyDetector.Pipeline
import SentinelOps.Orders.Domain
import SentinelOps.Orders.Service
import SentinelOps.Orders.Durable
import SentinelOps.Orders.Counters
import SentinelOps.Orders.Readable
