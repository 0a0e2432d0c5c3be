import SentinelOps.IncidentCorrelator.Summary
import SentinelOps.Lib.Transition

/-!
# The SQL incident repository under concurrency

Any number of processor calls and of API transitions over one database. A step is one statement of
one of them, so the machine has every interleaving. An open transaction keeps what it has written to
itself until it commits; the row it has read `FOR UPDATE` is locked, and a row of a unique index that
it has inserted keeps the same row from others. Where the database makes a statement wait, the step
is not enabled. A statement may also fail for reasons of its own (`fault`), which rolls the
transaction back.
-/

namespace SentinelOps.IncidentCorrelator

/-- The committed rows. -/
structure Tables where
  incidents : Incidents := .empty
  relations : List IncidentRelation := []

namespace Tables

/-- The rows after a change of one incident, if it is there. -/
def update (t : Tables) (id : String) (f : StoredIncident → StoredIncident) : Tables :=
  match t.incidents.get? id with
  | none => t
  | some s => { t with incidents := t.incidents.set id (f s) }

/-- The rows after one write. -/
def applyWrite (t : Tables) : Write → Tables
  | .insertIncident i => { t with incidents := t.incidents.set i.id { incident := i } }
  | .updateIncident i => t.update i.id fun s => { s with incident := i }
  | .addEvidence incidentId e =>
    t.update incidentId fun s => { s with evidence := s.evidence ++ [e] }
  | .addTransition incidentId x =>
    t.update incidentId fun s => { s with history := s.history ++ [x] }
  | .linkIncident r => { t with relations := t.relations ++ [r] }

/-- The rows after some writes. -/
def applyWrites (t : Tables) (ws : List Write) : Tables := ws.foldl applyWrite t

/-- `evidence_exists`. -/
def evidenceExists (t : Tables) (eventId : String) : Bool :=
  t.incidents.values.any fun s => s.evidence.any fun e => e.eventId = eventId

/-- The active incident of a key with the latest evidence. -/
def latestActive (t : Tables) (key : String) : Option StoredIncident :=
  (t.incidents.activeOf key).foldl (fun best s => match best with
    | none => some s
    | some b => if b.incident.lastEvidenceAt < s.incident.lastEvidenceAt then some s else best) none

/-- The relation is there. -/
def related (t : Tables) (r : IncidentRelation) : Bool :=
  t.relations.any fun x => x.incidentId = r.incidentId ∧
    x.relatedIncidentId = r.relatedIncidentId

end Tables

/-- Where a unit of work is: before its check for the event, before its locking read, at the row the
read is to lock, before a write, before the read of the adjacent incidents, at one of these, before
a link that was not there, before its commit. -/
inductive UowPhase where
  | begun
  | unseen
  | locking (candidate : Option String)
  | writing (rest : List Write) (p : Plan)
  | linking (candidates : List Incident) (p : Plan)
  | inserting (r : IncidentRelation) (candidates : List Incident) (p : Plan)
  | committing (outcome : ProcessOutcome)

/-- An open transaction: where it is, what it has written and the row it has locked. -/
structure Transaction where
  phase : UowPhase := .begun
  staged : List Write := []
  locked : Option String := none
  linkedNow : Instant := 0

/-- Where a call of the processor is. -/
inductive WorkerPhase where
  | running (tx : Transaction)
  | returned (outcome : ProcessOutcome)
  | raised (e : Error)

/-- A call of the processor, in one of its attempts. -/
structure Worker where
  signal : AnomalySignal
  attempt : Nat := 1
  phase : WorkerPhase

/-- A request for a manual transition. -/
structure TransitionRequest where
  incidentId : String
  target : IncidentStatus
  actor : String
  reason : String

/-- Where a request is: before its unlocked read, validated, or answered with a status. -/
inductive RequestPhase where
  | received
  | validated
  | answered (status : Nat)
  deriving DecidableEq

/-- What goes on over the database. -/
inductive Task where
  | worker (w : Worker)
  | request (r : TransitionRequest) (phase : RequestPhase)

/-- The database and what goes on over it. -/
structure Database where
  tables : Tables := {}
  tasks : List Task := []

/-- What a step draws from outside: an exception of the database, and what an attempt needs. -/
structure StepEnv where
  fault : Option Error := none
  attempt : AttemptEnv := { token := "" }
  now : Instant := 0

/-- What happens next: an anomaly arrives, a request arrives, or a task takes a step. -/
inductive SqlLabel where
  | process (signal : AnomalySignal)
  | request (r : TransitionRequest)
  | advance (i : Nat) (env : StepEnv)

/-- The exception an `IntegrityError` is turned into. -/
def conflict (text : String) : Error :=
  ⟨.duplicateActiveIncident, "DuplicateActiveIncidentError", text⟩

/-- The exception of a statement that the database could not carry out. -/
def StepEnv.raised (env : StepEnv) : Option Error :=
  env.fault.map fun e => { e with cls := .storage }

namespace Task

/-- The transaction a task has open. -/
def transaction : Task → Option Transaction
  | .worker { phase := .running tx, .. } => some tx
  | _ => none

/-- The task keeps others from a row. -/
def locks (t : Task) (id : String) : Bool :=
  t.transaction.any fun tx => tx.locked = some id

/-- The task has inserted an incident of the key, or one with the id. -/
def inserts (t : Task) (key id : String) : Bool :=
  t.transaction.any fun tx => tx.staged.any fun
    | .insertIncident i => i.correlationKey = key ∨ i.id = id
    | _ => false

/-- The task has inserted evidence of the event. -/
def adds (t : Task) (eventId : String) : Bool :=
  t.transaction.any fun tx => tx.staged.any fun
    | .addEvidence _ e => e.eventId = eventId
    | _ => false

/-- The task has inserted the relation. -/
def links (t : Task) (r : IncidentRelation) : Bool :=
  t.transaction.any fun tx => tx.staged.any fun
    | .linkIncident x => x.incidentId = r.incidentId ∧ x.relatedIncidentId = r.relatedIncidentId
    | _ => false

end Task

/-- Another task than the given one has a property. -/
def Database.other (d : Database) (i : Nat) (p : Task → Bool) : Bool :=
  (d.tasks.eraseIdx i).any p

section
variable (cfg : ProcessorConfig)

/-- What an exception in an attempt leads to: the next attempt, or the end of the call. -/
def Worker.fail (w : Worker) (e : Error) : Worker :=
  if e.cls = .duplicateActiveIncident then
    if (w.attempt : Int) = cfg.maxRetries then
      { w with phase := .raised ⟨.retryable, "RetryableError",
          s!"lost the create race repeatedly for {Py.repr w.signal.key}"⟩ }
    else { w with attempt := w.attempt + 1, phase := .running {} }
  else { w with phase := .raised e }

/-- A call of the processor that has just started. -/
def Worker.start (signal : AnomalySignal) : Worker where
  signal
  phase :=
    if cfg.maxRetries ≤ 0 then .raised ⟨.assertion, "AssertionError", "unreachable"⟩
    else .running {}

/-- What a statement of a unit of work comes to: the transaction goes on, it raises, or it commits
and returns. -/
inductive StatementResult where
  | goesOn (tx : Transaction)
  | raises (e : Error)
  | commits (outcome : ProcessOutcome)

/-- The end of the locking read: the processor plans its writes. -/
def planned (signal : AnomalySignal) (active : Option Incident) (env : AttemptEnv)
    (tx : Transaction) : StatementResult :=
  match plan cfg signal active env with
  | .ok p => .goesOn { tx with
      phase := .writing p.writes p
      locked := active.map (·.id)
      linkedNow := env.linkedNow }
  | .error e => .raises e

/-- The flush of one write, unless the database makes it wait. -/
def flush (d : Database) (i : Nat) (tx : Transaction) (write : Write) (phase : UowPhase) :
    Option StatementResult :=
  let view := d.tables.applyWrites tx.staged
  let written := StatementResult.goesOn { tx with phase, staged := tx.staged ++ [write] }
  match write with
  | .insertIncident inc =>
    if (view.incidents.get? inc.id).isSome = true ∨
        view.incidents.activeOf inc.correlationKey ≠ [] then
      some (.raises (conflict inc.correlationKey))
    else if d.other i (·.inserts inc.correlationKey inc.id) = true then none
    else some written
  | .updateIncident inc =>
    if (view.incidents.get? inc.id).isSome = true then some written
    else some (.raises ⟨.other, "LookupError", inc.id⟩)
  | .addEvidence _ e =>
    if view.evidenceExists e.eventId = true then
      some (.raises (conflict s!"evidence {e.eventId}"))
    else if d.other i (·.adds e.eventId) = true then none
    else some written
  | .addTransition _ _ => some written
  | .linkIncident r =>
    if view.related r = true then
      some (.raises (conflict s!"relation {r.incidentId}->{r.relatedIncidentId}"))
    else if d.other i (·.links r) = true then none
    else some written

/-- The next statement of a unit of work, unless the database makes it wait. -/
def statement (d : Database) (i : Nat) (env : StepEnv) (signal : AnomalySignal)
    (tx : Transaction) : Option StatementResult :=
  let view := d.tables.applyWrites tx.staged
  match tx.phase with
  | .begun =>
    some (.goesOn { tx with
      phase := if view.evidenceExists signal.eventId = true then
          .committing ⟨.duplicate, none, "duplicate event_id"⟩
        else .unseen })
  | .unseen =>
    some (.goesOn { tx with
      phase := .locking ((view.latestActive signal.key).map (·.incident.id)) })
  | .locking none => some (planned cfg signal none env.attempt tx)
  | .locking (some id) =>
    if d.other i (·.locks id) = true then none
    else
      -- a row that changed while the statement waited is read again, and dropped if it no longer
      -- matches
      let row := (d.tables.incidents.get? id).filter fun s =>
        s.incident.correlationKey = signal.key ∧ s.incident.isActive = true
      some (planned cfg signal (row.map (·.incident)) env.attempt tx)
  | .writing (write :: rest) p => flush d i tx write (.writing rest p)
  | .writing [] p =>
    let neighbours := relatedServices p.current.service cfg.topology.dependencyGraph
    some (.goesOn { tx with
      phase := .linking (view.incidents.activeIn neighbours p.current.environment) p })
  | .linking [] p => some (.goesOn { tx with phase := .committing p.outcome })
  | .linking (other :: rest) p =>
    match linkOf cfg.topology p.current tx.linkedNow other with
    | .error e => some (.raises e)
    | .ok none => some (.goesOn { tx with phase := .linking rest p })
    | .ok (some r) =>
      some (.goesOn { tx with
        phase := if view.related r = true then .linking rest p else .inserting r rest p })
  | .inserting r rest p => flush d i tx (.linkIncident r) (.linking rest p)
  | .committing outcome => some (.commits outcome)

/-- One step of a call of the processor: the rows it leaves, and the call. -/
def stepWorker (d : Database) (i : Nat) (env : StepEnv) (w : Worker) : Option (Tables × Worker) :=
  match w.phase with
  | .returned _ | .raised _ => none
  | .running tx =>
    match env.raised with
    | some e => some (d.tables, w.fail cfg e)
    | none =>
      (statement cfg d i env w.signal tx).map fun
        | .goesOn tx => (d.tables, { w with phase := .running tx })
        | .raises e => (d.tables, w.fail cfg e)
        | .commits outcome =>
          (d.tables.applyWrites tx.staged, { w with phase := .returned outcome })

/-- `_transition` of the API up to its write: the unlocked read and the check. -/
def validateRequest (d : Incidents) (r : TransitionRequest) : RequestPhase :=
  match d.get? r.incidentId with
  | none => .answered 404
  | some s =>
    match validateTransition s.incident.status r.target r.actor with
    | .ok _ => .validated
    | .error _ => .answered 409

/-- The write of a manual transition runs into the index of the active keys. -/
def reactivates (t : Tables) (id : String) (s : StoredIncident) (target : IncidentStatus) : Bool :=
  target.isActive && (t.incidents.activeOf s.incident.correlationKey).any fun x =>
    x.incident.id ≠ id

/-- `apply_transition`, unless the database makes it wait. -/
def applyRequest (d : Database) (i : Nat) (r : TransitionRequest) (now : Instant) :
    Option (Tables × RequestPhase) :=
  match d.tables.incidents.get? r.incidentId with
  | none => some (d.tables, .answered 500)
  | some s =>
    if d.other i (·.locks r.incidentId) = true then none
    else if reactivates d.tables r.incidentId s r.target = true then
      some (d.tables, .answered 500)
    else if r.target.isActive = true ∧
        d.other i (·.inserts s.incident.correlationKey r.incidentId) = true then none
    else some ({ d.tables with
      incidents := d.tables.incidents.set r.incidentId (s.transition r.target r.actor r.reason now) },
      .answered 200)

/-- One step of a request. -/
def stepRequest (d : Database) (i : Nat) (env : StepEnv) (r : TransitionRequest) :
    RequestPhase → Option (Tables × RequestPhase)
  | .answered _ => none
  | .received =>
    match env.raised with
    | some _ => some (d.tables, .answered 500)
    | none => some (d.tables, validateRequest d.tables.incidents r)
  | .validated =>
    match env.raised with
    | some _ => some (d.tables, .answered 500)
    | none => applyRequest d i r env.now

/-- One step. -/
def sqlStep (d : Database) : SqlLabel → Option Database
  | .process signal => some { d with tasks := d.tasks ++ [.worker (.start cfg signal)] }
  | .request r => some { d with tasks := d.tasks ++ [.request r .received] }
  | .advance i env =>
    match d.tasks[i]? with
    | none => none
    | some (.worker w) =>
      (stepWorker cfg d i env w).map fun (tables, w') =>
        { tables, tasks := d.tasks.set i (.worker w') }
    | some (.request r phase) =>
      (stepRequest d i env r phase).map fun (tables, phase') =>
        { tables, tasks := d.tasks.set i (.request r phase') }

/-- The correlator over an empty database. -/
def sqlCorrelator : Machine Database SqlLabel where
  init d := d.tables = {} ∧ d.tasks = []
  step := sqlStep cfg

end

end SentinelOps.IncidentCorrelator
