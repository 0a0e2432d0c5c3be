import SentinelOps.Rca.Documents
import SentinelOps.Rca.Graph

/-!
# The persistence boundary and the in-memory repository

`begin_investigation` reserves the one active investigation of an incident,
`complete_investigation` stores its outcome. `InvestigationStore` is the reference implementation:
it keeps what it is handed.
-/

namespace SentinelOps.Rca

/-- What a method of a repository raises. -/
inductive RepositoryError where
  | duplicateActive (incidentId : String)
  | lookup (id : String)
  | storage
  | validation
  deriving DecidableEq

/-- A new investigation. -/
def newInvestigation (id incidentId : String) (trigger : InvestigationTrigger) (mode : String)
    (now : Instant) : Investigation where
  id := id
  incidentId := incidentId
  status := .pending
  trigger := trigger
  mode := mode
  startedAt := some now
  createdAt := now
  updatedAt := now

/-- `sum(1 for s in steps if s.kind == "TOOL_CALL")`. -/
def toolCalls (steps : List InvestigationStep) : Nat :=
  steps.countP fun s => decide (s.kind = .toolCall)

/-- The investigation with its outcome. -/
def Investigation.completed (prior : Investigation) (c : Completion) (now : Instant) :
    Investigation :=
  { prior with
    status := c.status
    terminationReason := some c.terminationReason
    overallConfidence := c.overallConfidence
    model := c.model
    toolCallCount := toolCalls c.steps
    stepCount := c.steps.length
    evidenceCount := c.evidence.length
    completedAt := some now
    updatedAt := now }

/-- `_Store`. -/
structure InvestigationStore where
  investigations : Dict String Investigation := .empty
  steps : Dict String (List InvestigationStep) := .empty
  evidence : Dict String (List Evidence) := .empty
  reports : Dict String RCAReport := .empty
  order : List String := []

namespace InvestigationStore

variable (s : InvestigationStore)

/-- `get_active_investigation`. -/
def getActiveInvestigation (incidentId : String) : Option Investigation :=
  s.investigations.values.find? fun inv =>
    decide (inv.incidentId = incidentId) && !inv.status.isTerminal

/-- `begin_investigation`. -/
def beginInvestigation (incidentId : String) (trigger : InvestigationTrigger) (mode id : String)
    (now : Instant) : Except RepositoryError (Investigation × InvestigationStore) :=
  match s.getActiveInvestigation incidentId with
  | some _ => .error (.duplicateActive incidentId)
  | none =>
    let inv := newInvestigation id incidentId trigger mode now
    .ok (inv, { s with investigations := s.investigations.set id inv, order := s.order ++ [id] })

/-- `complete_investigation`. -/
def completeInvestigation (id : String) (c : Completion) (now : Instant) :
    Except RepositoryError (Investigation × InvestigationStore) :=
  match s.investigations.get? id with
  | none => .error (.lookup id)
  | some prior =>
    let updated := prior.completed c now
    .ok (updated,
      { s with
        investigations := s.investigations.set id updated
        steps := s.steps.set id c.steps
        evidence := s.evidence.set id c.evidence
        reports := c.report.elim s.reports (s.reports.set id) })

/-- `get_report`. -/
def getReport (id : String) : Option RCAReport := s.reports.get? id

variable {s}

/-- What was handed in is read back. -/
lemma getReport_completed {id c now inv s' r} (report : c.report = some r)
    (done : s.completeInvestigation id c now = .ok (inv, s')) : s'.getReport id = some r := by
  unfold completeInvestigation at done
  split at done
  · cases done
  · cases done
    simp [getReport, report]

end InvestigationStore

end SentinelOps.Rca
