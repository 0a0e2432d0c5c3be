import SentinelOps.IncidentCorrelator.Domain
import SentinelOps.Lib.Fallible

/-!
# Correlation of anomalies and incidents

`Correlation.decide` takes an anomaly and the active incident of its key to one of three decisions, and the
dependency graph says which services are adjacent. A `datetime` arithmetic that leaves the years 1
to 9999 raises, and so does the difference of a naive and an aware `datetime`.
-/

namespace SentinelOps.IncidentCorrelator

/-- `CorrelationConfig`. -/
structure CorrelationConfig where
  windowSeconds : PyFloat := .fin 300

/-- `CorrelationAction`. -/
inductive CorrelationAction where
  | create
  | append
  | supersede
  deriving DecidableEq

/-- `CorrelationDecision`. -/
structure CorrelationDecision where
  action : CorrelationAction
  reason : String
  deriving DecidableEq

/-- `anomaly.occurred_at - active_incident.last_evidence_at`. -/
def timeSince (occurredAt : Timestamp) (lastEvidenceAt : Instant) : Except Error Int :=
  match occurredAt with
  | .aware t => .ok (t - lastEvidenceAt)
  | .naive _ => .error ⟨.typeError, "TypeError",
      "can't subtract offset-naive and offset-aware datetimes"⟩

/-- `decide`. -/
def Correlation.decide (anomaly : AnomalySignal) (activeIncident : Option Incident) (cfg : CorrelationConfig) :
    Except Error CorrelationDecision :=
  match activeIncident with
  | none => .ok ⟨.create, "no active incident for this service"⟩
  | some active => do
    let gap := PyFloat.totalSeconds (← timeSince anomaly.occurredAt active.lastEvidenceAt)
    if gap.le cfg.windowSeconds = true then
      return ⟨.append, s!"within correlation window (gap {gap.fixed 0}s <= "
        ++ s!"{cfg.windowSeconds.fixed 0}s)"⟩
    else
      return ⟨.supersede, s!"previous incident quiet for {gap.fixed 0}s (> "
        ++ s!"{cfg.windowSeconds.fixed 0}s); starting a new one"⟩

/-- `TopologyConfig`. -/
structure TopologyConfig where
  correlationWindowSeconds : PyFloat := .fin 600
  dependencyGraph : Dict String (List String) :=
    .ofList [("orders-service", ["payments-service", "inventory-service"])]

/-- `dependencies_of`. -/
def dependenciesOf (service : String) (graph : Dict String (List String)) : List String :=
  (graph.get? service).getD []

/-- `dependents_of`. -/
def dependentsOf (service : String) (graph : Dict String (List String)) : List String :=
  Py.sorted ((graph.entries.filter fun e => service ∈ e.2).map (·.1))

/-- `sorted(related_services(…))`. -/
def relatedServices (service : String) (graph : Dict String (List String)) : List String :=
  Py.sortedSet (dependenciesOf service graph ++ dependentsOf service graph)

/-- `timedelta(seconds=x)`. -/
def timedelta (x : PyFloat) : Except Error Int :=
  match x.timedelta with
  | .ok us => .ok us
  | .error text =>
    if x = .nan then .error ⟨.valueError, "ValueError", text⟩
    else .error ⟨.overflow, "OverflowError", text⟩

/-- `t + delta`: the result must be a date of the years 1 to 9999. -/
def addDelta (t : Instant) (delta : Int) : Except Error Instant := do
  ensure (-62135596800000000 ≤ t + delta ∧ t + delta < 253402300800000000)
    ⟨.overflow, "OverflowError", "date value out of range"⟩
  return t + delta

/-- `incidents_overlap`. -/
def incidentsOverlap (a b : Incident) (windowSeconds : PyFloat) : Except Error Bool := do
  let slack ← timedelta windowSeconds
  let untilB ← addDelta b.lastEvidenceAt slack
  if a.startedAt ≤ untilB then
    let untilA ← addDelta a.lastEvidenceAt slack
    return b.startedAt ≤ untilA
  else return false

end SentinelOps.IncidentCorrelator
