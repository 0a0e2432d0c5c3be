import SentinelOps.IncidentCorrelator.Correlation
import SentinelOps.IncidentCorrelator.Severity
import SentinelOps.IncidentCorrelator.StateMachine

/-!
# What the processor makes of an anomaly

The decision on one anomaly as a list of writes: `plan` is `_process_once` between the locking read
and the links, `linkWrites` is `_link_related_incidents`. Both are functions of what the unit of
work reads, so they serve every repository. `absorb` folds an anomaly into the aggregates of an
incident.
-/

namespace SentinelOps.IncidentCorrelator

/-- The configuration of an `AnomalyProcessor`. -/
structure ProcessorConfig where
  correlation : CorrelationConfig := {}
  severity : SeverityConfig := {}
  topology : TopologyConfig := {}
  maxRetries : Int := 3

/-- What one attempt draws from outside: the random part of a new id and the readings of the
clock. -/
structure AttemptEnv where
  token : String
  resolvedNow : Instant := 0
  createdNow : Instant := 0
  absorbedNow : Instant := 0
  linkedNow : Instant := 0

/-- `ProcessResult`. -/
inductive ProcessResult where
  | created
  | appended
  | superseded
  | duplicate
  deriving DecidableEq

/-- `ProcessOutcome`. -/
structure ProcessOutcome where
  result : ProcessResult
  incidentId : Option String
  correlationReason : String
  deriving DecidableEq

/-- A write of a unit of work. -/
inductive Write where
  | insertIncident (i : Incident)
  | updateIncident (i : Incident)
  | addEvidence (incidentId : String) (e : EvidenceRecord)
  | addTransition (incidentId : String) (t : StateTransition)
  | linkIncident (r : IncidentRelation)

/-- `_new_incident_id`. -/
def newIncidentId (token : String) : String := s!"inc_{token}"

/-- `_evidence`. -/
def evidenceOf (signal : AnomalySignal) (reason : String) : EvidenceRecord where
  eventId := signal.eventId
  detector := signal.detector
  detectorVersion := signal.detectorVersion
  anomalyScore := signal.anomalyScore
  threshold := signal.threshold
  windowStart := signal.windowStart
  windowEnd := signal.windowEnd
  signals := signal.signals
  abnormalSignals := signal.abnormalSignals
  traceId := signal.traceId
  occurredAt := signal.occurredAt
  correlationReason := reason

/-- `signals.get(name, 0.0)`. -/
def signalOf (signals : Dict String PyFloat) (name : String) : PyFloat :=
  (signals.get? name).getD (.fin 0)

/-- The aggregates that the severity engine looks at. -/
def Incident.severityInputs (i : Incident) : SeverityInputs where
  anomalyCount := i.anomalyCount
  distinctAbnormalSignals := i.distinctAbnormalSignals
  maxAnomalyScore := i.maxAnomalyScore
  maxErrorRate := i.maxErrorRate
  maxLatencyP95Ms := i.maxLatencyP95Ms
  durationSeconds := i.durationSeconds

/-- The aggregates of an incident after one more anomaly. -/
def aggregate (i : Incident) (signal : AnomalySignal) (now : Instant) : Incident :=
  { i with
    anomalyCount := i.anomalyCount + 1
    lastEvidenceAt := max i.lastEvidenceAt signal.windowEnd
    startedAt := min i.startedAt signal.windowStart
    updatedAt := now
    maxAnomalyScore := i.maxAnomalyScore.max signal.anomalyScore
    maxErrorRate := i.maxErrorRate.max (signalOf signal.signals "error_rate")
    maxLatencyP95Ms := i.maxLatencyP95Ms.max (signalOf signal.signals "latency_p95_ms")
    abnormalSignalNames := Py.sortedSet (i.abnormalSignalNames ++ signal.abnormalSignals) }

/-- The severity of an incident, with its reasons and its title, brought up to date. -/
def reassess (cfg : SeverityConfig) (i : Incident) : Incident :=
  let verdict := evaluateSeverity i.severityInputs cfg
  { i with
    severity := verdict.level
    severityReasons := verdict.reasons
    title := s!"{str verdict.level} - "
      ++ Py.orElse (Py.join ", " i.abnormalSignalNames) "anomaly"
      ++ s!" in {i.service} ({i.environment})" }

/-- `_absorb`. -/
def absorb (cfg : SeverityConfig) (i : Incident) (signal : AnomalySignal) (now : Instant) :
    Incident :=
  reassess cfg (aggregate i signal now)

/-- The incident that `_new_incident` starts from, before it absorbs the anomaly. -/
def blankIncident (signal : AnomalySignal) (env : AttemptEnv) : Incident where
  id := newIncidentId env.token
  correlationKey := signal.key
  service := signal.service
  environment := signal.environment
  status := .open
  severity := .info
  severityReasons := []
  title := s!"Anomalous behaviour in {signal.service} ({signal.environment})"
  anomalyCount := 0
  maxAnomalyScore := .fin 0
  maxErrorRate := .fin 0
  maxLatencyP95Ms := .fin 0
  detector := signal.detector
  startedAt := signal.windowStart
  lastEvidenceAt := signal.windowEnd
  createdAt := env.createdNow
  updatedAt := env.createdNow

/-- The incident of `_new_incident`. -/
def newIncident (cfg : SeverityConfig) (signal : AnomalySignal) (env : AttemptEnv) : Incident :=
  absorb cfg (blankIncident signal env) signal env.absorbedNow

/-- The transition of `_new_incident`. -/
def openedTransition (i : Incident) (reason : String) (env : AttemptEnv) : StateTransition where
  fromStatus := none
  toStatus := .open
  actor := "system"
  reason
  severityAtTransition := some i.severity
  createdAt := env.createdNow

/-- The incident after `_auto_resolve`. -/
def autoResolved (i : Incident) (env : AttemptEnv) : Incident :=
  { i with
    status := .resolved
    resolvedAt := some i.lastEvidenceAt
    resolution := some "auto:stale"
    updatedAt := env.resolvedNow }

/-- The transition of `_auto_resolve`. -/
def resolvedTransition (i : Incident) (reason : String) (env : AttemptEnv) : StateTransition where
  fromStatus := some i.status
  toStatus := .resolved
  actor := "system"
  reason := s!"auto-resolved: {reason}"
  severityAtTransition := some i.severity
  createdAt := env.resolvedNow

/-- The writes that open a new incident. -/
def openWrites (cfg : SeverityConfig) (signal : AnomalySignal) (reason : String) (env : AttemptEnv) :
    List Write :=
  let incident := newIncident cfg signal env
  [.insertIncident incident, .addEvidence incident.id (evidenceOf signal reason),
    .addTransition incident.id (openedTransition incident reason env)]

/-- What a unit of work has decided: its writes, the incident it goes on with and its outcome. -/
structure Plan where
  writes : List Write
  current : Incident
  outcome : ProcessOutcome

/-- `_process_once` from the locking read to the links. -/
def plan (cfg : ProcessorConfig) (signal : AnomalySignal) (active : Option Incident)
    (env : AttemptEnv) : Except Error Plan := do
  let decision ← Correlation.decide signal active cfg.correlation
  match decision.action, active with
  | .create, _ =>
    let incident := newIncident cfg.severity signal env
    return ⟨openWrites cfg.severity signal decision.reason env, incident,
      ⟨.created, some incident.id, decision.reason⟩⟩
  | .append, some active =>
    let absorbed := absorb cfg.severity active signal env.absorbedNow
    return ⟨[.updateIncident absorbed, .addEvidence active.id (evidenceOf signal decision.reason)],
      absorbed, ⟨.appended, some active.id, decision.reason⟩⟩
  | .supersede, some active =>
    let incident := newIncident cfg.severity signal env
    return ⟨[.updateIncident (autoResolved active env),
        .addTransition active.id (resolvedTransition active decision.reason env)] ++
          openWrites cfg.severity signal decision.reason env,
      incident, ⟨.superseded, some incident.id, decision.reason⟩⟩
  | _, none => .error ⟨.assertion, "AssertionError", ""⟩

/-- The relation between an incident and another of an adjacent service. -/
def relationOf (cfg : TopologyConfig) (incident other : Incident) (now : Instant) :
    IncidentRelation :=
  let downstream := dependenciesOf incident.service cfg.dependencyGraph
  let (dependent, dependency) :=
    if other.service ∈ downstream then (incident, other) else (other, incident)
  { incidentId := dependent.id
    relatedIncidentId := dependency.id
    relationType := .dependency
    reason := s!"{dependent.service} depends on {dependency.service}; "
      ++ s!"concurrent incidents within {cfg.correlationWindowSeconds.fixed 0}s"
    createdAt := now }

/-- The link of an incident to one of the candidates, when there is one. -/
def linkOf (cfg : TopologyConfig) (incident : Incident) (now : Instant) (other : Incident) :
    Except Error (Option IncidentRelation) := do
  if other.id = incident.id then return none
  else if ← incidentsOverlap incident other cfg.correlationWindowSeconds then
    return some (relationOf cfg incident other now)
  else return none

/-- The loop of `_link_related_incidents` over the candidates. -/
def linkWrites (cfg : TopologyConfig) (incident : Incident) (now : Instant)
    (candidates : List Incident) : Except Error (List Write) := do
  let links ← candidates.mapM (linkOf cfg incident now)
  return (links.filterMap id).map .linkIncident

end SentinelOps.IncidentCorrelator
