import SentinelOps.IncidentCorrelator.Processor

/-!
# The in-memory incident repository

`Store` with the unit of work that stages its writes and applies them at the commit, and the
processor over it: `processOnce` is one unit of work, `process` the loop that starts a new one when
the commit ran into another active incident. `transition` is a manual transition of the API.
-/

namespace SentinelOps.IncidentCorrelator

/-- The incidents by their ids. -/
abbrev Incidents := Dict String StoredIncident

/-- `_Store`. -/
structure Store where
  incidents : Incidents := .empty
  evidenceIds : Finset String := ∅
  relations : List IncidentRelation := []

namespace Incidents

/-- The active incidents of a key, in the order of the dictionary. -/
def activeOf (d : Incidents) (key : String) : List StoredIncident :=
  d.values.filter fun s => s.incident.correlationKey = key ∧ s.incident.isActive = true

/-- The active incidents of some services in an environment. -/
def activeIn (d : Incidents) (services : List String) (environment : String) : List Incident :=
  (d.values.filter fun s => s.incident.service ∈ services ∧ s.incident.environment = environment ∧
    s.incident.isActive = true).map (·.incident)

end Incidents

namespace Store

/-- `lock_active_incident`. -/
def lockActiveIncident (m : Store) (key : String) : Option Incident :=
  (m.incidents.activeOf key).head?.map (·.incident)

/-- A lookup of `self._store.incidents[incident_id]`. -/
def stored (m : Store) (incidentId : String) : Except Error StoredIncident :=
  match m.incidents.get? incidentId with
  | some s => .ok s
  | none => .error ⟨.other, "KeyError", Py.repr incidentId⟩

/-- The store with an incident replaced. -/
def put (m : Store) (id : String) (s : StoredIncident) : Store :=
  { m with incidents := m.incidents.set id s }

/-- The operation a write has staged. -/
def applyWrite (m : Store) : Write → Except Error Store
  | .insertIncident i => do
    ensure (m.incidents.activeOf i.correlationKey = [])
      ⟨.duplicateActiveIncident, "DuplicateActiveIncidentError", i.correlationKey⟩
    return m.put i.id { incident := i }
  | .updateIncident i => do
    let s ← m.stored i.id
    return m.put i.id { s with incident := i }
  | .addEvidence incidentId e => do
    let s ← m.stored incidentId
    return { m.put incidentId { s with evidence := s.evidence ++ [e] } with
      evidenceIds := insert e.eventId m.evidenceIds }
  | .addTransition incidentId t => do
    let s ← m.stored incidentId
    return m.put incidentId { s with history := s.history ++ [t] }
  | .linkIncident r =>
    if m.relations.any fun x => x.incidentId = r.incidentId ∧
        x.relatedIncidentId = r.relatedIncidentId then .ok m
    else .ok { m with relations := m.relations ++ [r] }

/-- `commit`: an operation that raises leaves those before it applied. -/
def commit : Store → List Write → Store × Except Error Unit
  | m, [] => (m, .ok ())
  | m, write :: rest =>
    match m.applyWrite write with
    | .ok m' => commit m' rest
    | .error e => (m, .error e)

end Store

/-- The body of the unit of work: the writes it has staged and its outcome. -/
def unitOfWork (cfg : ProcessorConfig) (signal : AnomalySignal) (env : AttemptEnv) (m : Store) :
    Except Error (List Write × ProcessOutcome) := do
  if signal.eventId ∈ m.evidenceIds then return ([], ⟨.duplicate, none, "duplicate event_id"⟩)
  let p ← plan cfg signal (m.lockActiveIncident signal.key) env
  let neighbours := relatedServices p.current.service cfg.topology.dependencyGraph
  if neighbours = [] then return (p.writes, p.outcome)
  let links ← linkWrites cfg.topology p.current env.linkedNow
    (m.incidents.activeIn neighbours p.current.environment)
  return (p.writes ++ links, p.outcome)

/-- `_process_once`. -/
def processOnce (cfg : ProcessorConfig) (signal : AnomalySignal) (env : AttemptEnv) (m : Store) :
    Store × Except Error ProcessOutcome :=
  match unitOfWork cfg signal env m with
  | .error e => (m, .error e)
  | .ok (writes, outcome) =>
    let (m', committed) := m.commit writes
    (m', committed.map fun _ => outcome)

/-- The attempts of `process` that are left, from a given one on. -/
def processFrom (cfg : ProcessorConfig) (signal : AnomalySignal) (env : Nat → AttemptEnv) :
    Nat → Nat → Store → Store × Except Error ProcessOutcome
  | _, 0, m => (m, .error ⟨.assertion, "AssertionError", "unreachable"⟩)
  | attempt, n + 1, m =>
    match processOnce cfg signal (env attempt) m with
    | (m, .ok outcome) => (m, .ok outcome)
    | (m, .error e) =>
      if e.cls = .duplicateActiveIncident then
        if (attempt : Int) = cfg.maxRetries then
          (m, .error ⟨.retryable, "RetryableError",
            s!"lost the create race repeatedly for {Py.repr signal.key}"⟩)
        else processFrom cfg signal env (attempt + 1) n m
      else (m, .error e)

/-- `process`. -/
def process (cfg : ProcessorConfig) (signal : AnomalySignal) (env : Nat → AttemptEnv) (m : Store) :
    Store × Except Error ProcessOutcome :=
  processFrom cfg signal env 1 cfg.maxRetries.toNat m

/-- An incident after a manual transition. -/
def transitioned (i : Incident) (target : IncidentStatus) (now : Instant) : Incident :=
  { i with
    status := target
    updatedAt := now
    acknowledgedAt :=
      if target = .acknowledged ∧ i.acknowledgedAt = none then some now else i.acknowledgedAt
    resolvedAt := if target = .resolved then some now else i.resolvedAt
    resolution :=
      if target = .resolved then
        some (match i.resolution with
          | some r => Py.orElse r "manual"
          | none => "manual")
      else i.resolution }

/-- The entry of a manual transition. -/
def manualTransition (i : Incident) (target : IncidentStatus) (actor reason : String)
    (now : Instant) : StateTransition where
  fromStatus := some i.status
  toStatus := target
  actor
  reason
  severityAtTransition := some i.severity
  createdAt := now

/-- What `apply_transition` makes of a stored incident. -/
def StoredIncident.transition (s : StoredIncident) (target : IncidentStatus)
    (actor reason : String) (now : Instant) : StoredIncident :=
  { s with
    incident := transitioned s.incident target now
    history := s.history ++ [manualTransition s.incident target actor reason now] }

/-- `apply_transition`. -/
def Store.applyTransition (m : Store) (incidentId : String) (target : IncidentStatus)
    (actor reason : String) (now : Instant) : Store :=
  match m.incidents.get? incidentId with
  | none => m
  | some s => m.put incidentId (s.transition target actor reason now)

end SentinelOps.IncidentCorrelator
