import SentinelOps.Kafka.Attempts
import SentinelOps.Rca.SqlRepository

/-!
# The agent: deliveries, submissions and their runs

Deliveries of `incident.opened` and submissions over the API, any number of each, over one database.
A task is one coroutine: the processing of one delivered record with its retries, or one submission
with the run it starts. A step is one call of a task to the database or to the broker, which may
return, or raise after it took effect or without, be it by a failure or by a cancellation; a process
may also end with all of its tasks. `brokenOff` lists the investigations whose run ended without
completing them; no code reads it.
-/

namespace SentinelOps.Rca

open Kafka (Raised ClientError CommitOutcome PublishOutcome)

/-- A record of the topic, as the consumer decodes it. -/
inductive Incoming where
  | ignored
  | malformed (text : String)
  | opened (incidentId : String)
  deriving DecidableEq

/-- What the service is started with, and the records of its topic by their offsets. -/
structure AgentConfig (β : Type) where
  maxRetries : Int := 3
  log : Nat → Incoming
  mode : String
  mode_ok : mode = "mock" ∨ mode = "live"
  registry : ToolRegistry β
  provider : String
  model : Option String
  limits : ResourceLimits
  iso : IsoFormat

/-- Who asked: the consumer, with the record and the number of the attempt at it, or a request. -/
inductive Caller where
  | consumer (offset attempt : Nat)
  | api
  deriving DecidableEq

/-- Where a task is: before the check for an existing investigation, before the insert, before the
query for the active one, in the run of its investigation, before the dead-letter topic, before the
commit of the offset (in the `try` of the attempt or after a rejection), or at its end. -/
inductive Phase where
  | checking (incidentId : String)
  | beginning (incidentId : String)
  | lookingUp (incidentId : String)
  | running (inv : Investigation)
  | rejecting (reason : String)
  | committing (inTry : Bool)
  | ended
  deriving DecidableEq

/-- A coroutine of a process. -/
structure Task where
  process : Nat
  caller : Caller
  phase : Phase
  deriving DecidableEq

/-- The investigation a task runs. -/
def Task.runs (t : Task) : Option Investigation :=
  match t.phase with
  | .running inv => some inv
  | _ => none

/-- The agent and what it works on. -/
structure Agent where
  db : InvestigationDatabase := {}
  tasks : List Task := []
  committed : List Nat := []
  rejected : List Nat := []
  brokenOff : List Investigation := []

/-- What a step draws from outside: how its call ends, the clock, the id that is drawn for a new
investigation and what happens in the nodes of the graph. -/
structure AgentEnv (β : Type) where
  call : CommitOutcome := .ok
  publish : PublishOutcome := .ok
  now : Instant := 0
  id : String := ""
  nodes : Nat → NodeEnv β

/-- What happens next. -/
inductive AgentLabel (β : Type) where
  | deliver (process offset : Nat)
  | submit (process : Nat) (incidentId : String)
  | advance (i : Nat) (env : AgentEnv β)
  | restart (process : Nat)

/-- What a step of a task comes to. -/
structure TaskStep where
  db : InvestigationDatabase
  task : Task
  committed : Option Nat := none
  rejected : Option Nat := none
  broken : Option Investigation := none

/-- An exception of the repository as the handler sees it. -/
def RepositoryError.raised : RepositoryError → Raised
  | .duplicateActive i => ⟨.unexpected, "DuplicateActiveInvestigationError", i⟩
  | .lookup i => ⟨.unexpected, "LookupError", i⟩
  | .storage => ⟨.unexpected, "DBAPIError", ""⟩
  | .validation => ⟨.unexpected, "ValidationError", ""⟩

section
variable {β : Type} (cfg : AgentConfig β) (env : AgentEnv β) (db : InvestigationDatabase)
  (t : Task)

/-- The graph of an investigation. -/
def investigationDeps (inv : Investigation) : GraphDeps β where
  incidentId := inv.incidentId
  investigationId := inv.id
  mode := cfg.mode
  registry := cfg.registry
  provider := cfg.provider
  model := cfg.model
  limits := cfg.limits
  startedAt := env.now

/-- A call that leads to an investigation that exists: the record is done with, the request
answered. -/
def handled : Task :=
  match t.caller with
  | .consumer _ _ => { t with phase := .committing true }
  | .api => { t with phase := .ended }

/-- An exception that leaves the handler, or the request. -/
def raises (incidentId : String) (e : Raised) : Task :=
  match t.caller with
  | .api => { t with phase := .ended }
  | .consumer offset attempt =>
    if e.cls = .base then { t with phase := .ended }
    else if e.cls = .retryable ∧ (attempt : Int) ≠ cfg.maxRetries then
      { t with caller := .consumer offset (attempt + 1), phase := .checking incidentId }
    else { t with phase := .rejecting (Kafka.rejection e) }

/-- What the handler turns an exception of `investigate` into. -/
def wrapped (e : Raised) : Raised :=
  if e.cls = .base then e
  else ⟨.retryable, "RetryableError", s!"could not run investigation: {e.name}"⟩

/-- The call to the repository ends: with its result, or with the exception that was raised. -/
def result {α : Type} (x : Except RepositoryError α) : Except Raised α :=
  match env.call.raised with
  | some e => .error e
  | none => x.mapError RepositoryError.raised

/-- `get_existing_investigation`. -/
def stepChecking (incidentId : String) : TaskStep :=
  match result env (db.getLatestInvestigation incidentId) with
  | .error e => { db, task := raises cfg t incidentId e }
  | .ok (some _) => { db, task := handled t }
  | .ok none => { db, task := { t with phase := .beginning incidentId } }

/-- `begin`, up to the insert. -/
def stepBeginning (incidentId : String) : TaskStep :=
  let trigger : InvestigationTrigger :=
    match t.caller with
    | .consumer _ _ => .event
    | .api => .manual
  let inserted := db.beginInvestigation incidentId trigger cfg.mode env.id env.now
  match env.call.raised, inserted with
  | none, .ok (inv, db) => { db, task := { t with phase := .running inv } }
  | none, .error (.duplicateActive _) => { db, task := { t with phase := .lookingUp incidentId } }
  | none, .error e => { db, task := raises cfg t incidentId (wrapped e.raised) }
  | some e, .ok (inv, after) =>
    if env.call.applied = true then
      { db := after, task := raises cfg t incidentId (wrapped e), broken := some inv }
    else { db, task := raises cfg t incidentId (wrapped e) }
  | some e, .error _ => { db, task := raises cfg t incidentId (wrapped e) }

/-- `begin`, after the insert was refused. -/
def stepLookingUp (incidentId : String) : TaskStep :=
  match result env (db.getActiveInvestigation incidentId) with
  | .error e => { db, task := raises cfg t incidentId (wrapped e) }
  | .ok (some _) => { db, task := handled t }
  | .ok none =>
    { db
      task := raises cfg t incidentId
        (wrapped (RepositoryError.duplicateActive incidentId).raised) }

/-- `run_to_completion`: the graph, then `complete_investigation`. -/
def stepRunning (inv : Investigation) : TaskStep :=
  let c := runToCompletion (investigationDeps cfg env inv) env.nodes
  match env.call.raised, db.completeInvestigation cfg.iso inv.id c env.now with
  | none, .ok (_, db) => { db, task := handled t }
  | none, .error e =>
    { db, task := raises cfg t inv.incidentId (wrapped e.raised), broken := some inv }
  | some e, .ok (_, after) =>
    if env.call.applied = true then
      { db := after, task := raises cfg t inv.incidentId (wrapped e) }
    else { db, task := raises cfg t inv.incidentId (wrapped e), broken := some inv }
  | some e, .error _ =>
    { db, task := raises cfg t inv.incidentId (wrapped e), broken := some inv }

/-- `_to_dlq`. -/
def stepRejecting (offset : Nat) : TaskStep :=
  match env.publish.escaped with
  | none => { db, task := { t with phase := .committing false }, rejected := some offset }
  | some _ => { db, task := { t with phase := .ended } }

/-- `_commit`: in the `try` of the attempt, an exception of it is one of the attempt. -/
def stepCommitting (offset : Nat) (inTry : Bool) : TaskStep :=
  let committed := if env.call.applied = true then some offset else none
  match env.call.raised with
  | none => { db, task := { t with phase := .ended }, committed }
  | some e =>
    if inTry = true ∧ e.cls ≠ .base then
      { db, task := { t with phase := .rejecting (Kafka.rejection e) }, committed }
    else { db, task := { t with phase := .ended }, committed }

/-- One step of a task. -/
def stepTask : Option TaskStep :=
  match t.phase, t.caller with
  | .checking i, _ => some (stepChecking cfg env db t i)
  | .beginning i, _ => some (stepBeginning cfg env db t i)
  | .lookingUp i, _ => some (stepLookingUp cfg env db t i)
  | .running inv, _ => some (stepRunning cfg env db t inv)
  | .rejecting _, .consumer offset _ => some (stepRejecting env db t offset)
  | .committing inTry, .consumer offset _ => some (stepCommitting env db t offset inTry)
  | .rejecting _, .api | .committing _, .api | .ended, _ => none

/-- A record is handed to the handler. -/
def received (process offset : Nat) : Task where
  process := process
  caller := .consumer offset 1
  phase :=
    if cfg.maxRetries ≤ 0 then .ended
    else
      match cfg.log offset with
      | .ignored => .committing true
      | .malformed text => .rejecting s!"rejected: {text}"
      | .opened incidentId => .checking incidentId

/-- One step of the agent. -/
def agentStep (s : Agent) : AgentLabel β → Option Agent
  | .deliver p n => some { s with tasks := s.tasks ++ [received cfg p n] }
  | .submit p i => some { s with tasks := s.tasks ++ [⟨p, .api, .checking i⟩] }
  | .advance i env =>
    match s.tasks[i]? with
    | none => none
    | some t =>
      (stepTask cfg env s.db t).map fun r =>
        { db := r.db
          tasks := s.tasks.set i r.task
          committed := s.committed ++ r.committed.toList
          rejected := s.rejected ++ r.rejected.toList
          brokenOff := s.brokenOff ++ r.broken.toList }
  | .restart p =>
    some { s with
      tasks := s.tasks.map fun t => if t.process = p then { t with phase := .ended } else t
      brokenOff := s.brokenOff ++
        (s.tasks.filter fun t => decide (t.process = p)).filterMap Task.runs }

/-- The agent over an empty database. -/
def agent : Machine Agent (AgentLabel β) where
  init s := s = {}
  step := agentStep cfg

end

end SentinelOps.Rca
