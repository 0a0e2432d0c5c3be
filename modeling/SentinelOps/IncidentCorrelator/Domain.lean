import SentinelOps.Lib.Dict
import SentinelOps.Lib.PyFloat
import SentinelOps.Lib.PySet
import SentinelOps.Lib.StrEnum

/-!
# The incident domain

Statuses, severities and the records of the incident correlator: the anomaly signal, the evidence
row it becomes, the transitions of an incident and the incident itself. An `Incident` is what the
processor works on; a `StoredIncident` is an incident with the evidence and the history that are
stored with it.
-/

namespace SentinelOps.IncidentCorrelator

/-- The lifecycle of an incident. -/
inductive IncidentStatus where
  | open
  | acknowledged
  | investigating
  | mitigating
  | resolved
  deriving DecidableEq

instance : StrEnum IncidentStatus where
  members := [.open, .acknowledged, .investigating, .mitigating, .resolved]
  str
    | .open => "OPEN"
    | .acknowledged => "ACKNOWLEDGED"
    | .investigating => "INVESTIGATING"
    | .mitigating => "MITIGATING"
    | .resolved => "RESOLVED"
  complete a := by cases a <;> decide
  distinct := by decide

/-- `is_active`. -/
def IncidentStatus.isActive (s : IncidentStatus) : Bool := decide (s ≠ .resolved)

/-- How two incidents are linked. -/
inductive IncidentRelationType where
  | dependency
  | crossService
  deriving DecidableEq

/-- How bad an incident is. -/
inductive Severity where
  | info
  | low
  | medium
  | high
  | critical
  deriving DecidableEq

instance : StrEnum Severity where
  members := [.info, .low, .medium, .high, .critical]
  str
    | .info => "INFO"
    | .low => "LOW"
    | .medium => "MEDIUM"
    | .high => "HIGH"
    | .critical => "CRITICAL"
  complete a := by cases a <;> decide
  distinct := by decide

/-- `rank`: the position in `_SEVERITY_ORDER`. -/
def Severity.rank : Severity → Nat
  | .info => 0
  | .low => 1
  | .medium => 2
  | .high => 3
  | .critical => 4

/-- `correlation_key`. -/
def correlationKey (service environment : String) : String := s!"{service}:{environment}"

/-- A `datetime` that an event brings along: aware, or naive and counted as if it were UTC. -/
inductive Timestamp where
  | aware (t : Instant)
  | naive (t : Instant)
  deriving DecidableEq

/-- One anomaly observation. -/
structure AnomalySignal where
  eventId : String
  detector : String
  detectorVersion : String
  service : String
  environment : String
  windowStart : Instant
  windowEnd : Instant
  anomalyScore : PyFloat
  threshold : PyFloat
  signals : Dict String PyFloat
  abnormalSignals : List String
  traceId : Option String
  occurredAt : Timestamp

/-- The key of a signal. -/
def AnomalySignal.key (s : AnomalySignal) : String := correlationKey s.service s.environment

/-- An anomaly as it is stored with the incident it belongs to. -/
structure EvidenceRecord where
  eventId : String
  detector : String
  detectorVersion : String
  anomalyScore : PyFloat
  threshold : PyFloat
  windowStart : Instant
  windowEnd : Instant
  signals : Dict String PyFloat
  abnormalSignals : List String
  traceId : Option String
  occurredAt : Timestamp
  correlationReason : String

/-- A directed link between two incidents. -/
structure IncidentRelation where
  incidentId : String
  relatedIncidentId : String
  relationType : IncidentRelationType
  reason : String
  createdAt : Instant
  deriving DecidableEq

/-- One entry of the history of an incident. -/
structure StateTransition where
  fromStatus : Option IncidentStatus
  toStatus : IncidentStatus
  actor : String
  reason : String
  severityAtTransition : Option Severity
  createdAt : Instant
  deriving DecidableEq

/-- An incident without its evidence and its history. -/
structure Incident where
  id : String
  correlationKey : String
  service : String
  environment : String
  status : IncidentStatus
  severity : Severity
  severityReasons : List String
  title : String
  anomalyCount : Nat
  maxAnomalyScore : PyFloat
  maxErrorRate : PyFloat
  maxLatencyP95Ms : PyFloat
  detector : String
  startedAt : Instant
  lastEvidenceAt : Instant
  createdAt : Instant
  updatedAt : Instant
  abnormalSignalNames : List String := []
  acknowledgedAt : Option Instant := none
  resolvedAt : Option Instant := none
  resolution : Option String := none
  deriving DecidableEq

namespace Incident

/-- `distinct_abnormal_signals`. -/
def distinctAbnormalSignals (i : Incident) : Nat := i.abnormalSignalNames.length

/-- `duration_seconds`. -/
def durationSeconds (i : Incident) : PyFloat :=
  (PyFloat.totalSeconds (i.lastEvidenceAt - i.startedAt)).max (.fin 0)

/-- The incident is active. -/
def isActive (i : Incident) : Bool := i.status.isActive

end Incident

/-- An incident with its evidence and its history, each in the order it was written. -/
structure StoredIncident where
  incident : Incident
  evidence : List EvidenceRecord := []
  history : List StateTransition := []

/-- The classes of the exceptions that the correlator raises, catches or lets through. -/
inductive ErrorClass where
  | duplicateActiveIncident
  | retryable
  | invalidTransition
  | typeError
  | valueError
  | overflow
  | assertion
  | storage
  | other
  deriving DecidableEq

/-- A raised exception: its class, the name of its type and its text. -/
structure Error where
  cls : ErrorClass
  name : String
  message : String
  deriving DecidableEq

end SentinelOps.IncidentCorrelator
