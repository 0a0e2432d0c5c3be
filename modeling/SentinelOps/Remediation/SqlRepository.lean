import SentinelOps.Remediation.Repository

/-!
# The SQL repository

The tables of the remediation database and `SqlRemediationRepository` over them. A row stores an
enumeration as its string and a decision as its JSON document; reading a row back goes through the
constructors of the data classes and may be refused by them. Every method is one transaction: it
either commits all of its writes or none, and a violated unique constraint or foreign key makes it
raise. A table is kept by its primary key in insertion order.
-/

namespace SentinelOps.Remediation

/-- A policy decision as the JSON document the `policy_decision` column holds. -/
structure DecisionDocument where
  outcome : String
  reasonCodes : List String
  violations : List (String × String × String)
  policyVersion : String
  evaluatedRules : List String
  evaluatedAt : Instant

/-- A row of `remediations`. -/
structure RemediationRow where
  id : String
  incidentId : String
  investigationId : Option String
  trigger : String
  proposedBy : String
  actionType : String
  targetService : String
  targetEnvironment : String
  parameters : Dict String Scalar
  riskLevel : String
  sourceRecommendation : String
  reason : String
  expectedEffect : String
  evidenceReferences : List String
  status : String
  policyDecision : DecisionDocument
  createdAt : Instant
  expiresAt : Instant
  decidedAt : Option Instant

/-- A row of `remediation_approvals`. -/
structure ApprovalRow where
  id : String
  remediationId : String
  decision : String
  approverIdentity : String
  approverRole : String
  reason : String
  decidedAt : Instant

/-- A row of `remediation_executions`. -/
structure ExecutionRow where
  id : String
  remediationId : String
  actionType : String
  targetService : String
  targetEnvironment : String
  executorType : String
  status : String
  dryRun : Bool
  simulatedEffect : String
  execMetadata : Dict String Scalar
  error : Option String
  startedAt : Instant
  completedAt : Option Instant

/-- A row of `remediation_verifications`. -/
structure VerificationRow where
  id : String
  remediationId : String
  executionId : String
  status : String
  verifierType : String
  verifierVersion : String
  attempts : Nat
  checks : List RecoveryCheck
  failureReason : Option String
  timeoutSeconds : Int
  pollIntervalSeconds : PyFloat
  verMetadata : Dict String Scalar
  startedAt : Instant
  completedAt : Option Instant

/-- A row of `remediation_audit_events`; its `seq` is its place in the table. -/
structure AuditRow where
  auditId : String
  remediationId : String
  incidentId : String
  investigationId : Option String
  eventType : String
  actorType : String
  actorId : String
  actorRole : Option String
  previousState : Option String
  newState : Option String
  actionType : Option String
  targetService : Option String
  targetEnvironment : Option String
  policyOutcome : Option String
  policyVersion : Option String
  policyReasonCodes : List String
  executionId : Option String
  executionMode : Option String
  executionResult : Option String
  verificationId : Option String
  reason : String
  correlationId : Option String
  eventMetadata : Dict String Scalar
  occurredAt : Instant

/-- The tables, each by its primary key, and the audit trail in the order of `seq`. -/
structure SqlStore where
  remediations : Dict String RemediationRow := .empty
  approvals : Dict String ApprovalRow := .empty
  executions : Dict String ExecutionRow := .empty
  verifications : Dict String VerificationRow := .empty
  audit : List AuditRow := []

/-- `d.model_dump(mode="json")`. -/
def dumpDecision (d : PolicyDecision) : DecisionDocument where
  outcome := str d.outcome
  reasonCodes := d.reasonCodes.map str
  violations := d.violations.map fun v => (str v.code, v.rule, v.detail)
  policyVersion := d.policyVersion
  evaluatedRules := d.evaluatedRules
  evaluatedAt := d.evaluatedAt

/-- `_record_to_row`. -/
def recordToRow (rec : RemediationRecord) : RemediationRow where
  id := rec.proposal.val.remediationId
  incidentId := rec.proposal.val.incidentId
  investigationId := rec.proposal.val.investigationId
  trigger := str rec.proposal.val.trigger
  proposedBy := rec.proposal.val.proposedBy
  actionType := str rec.proposal.val.actionType
  targetService := rec.proposal.val.target.val.serviceName
  targetEnvironment := rec.proposal.val.target.val.environment
  parameters := rec.proposal.val.parameters
  riskLevel := str rec.proposal.val.riskLevel
  sourceRecommendation := rec.proposal.val.sourceRecommendation
  reason := rec.proposal.val.reason
  expectedEffect := rec.proposal.val.expectedEffect
  evidenceReferences := rec.proposal.val.evidenceReferences
  status := str rec.proposal.val.status
  policyDecision := dumpDecision rec.policyDecision
  createdAt := rec.proposal.val.createdAt
  expiresAt := rec.proposal.val.expiresAt
  decidedAt := rec.approval.map (·.val.decidedAt)

/-- The approval row that `record_decision` inserts. -/
def approvalToRow (rid : String) (a : RemediationApproval) : ApprovalRow where
  id := a.val.approvalId
  remediationId := rid
  decision := str a.val.decision
  approverIdentity := a.val.approverIdentity
  approverRole := str a.val.approverRole
  reason := a.val.reason
  decidedAt := a.val.decidedAt

/-- `_execution_to_row`. -/
def executionToRow (r : ExecutionResult) : ExecutionRow where
  id := r.val.executionId
  remediationId := r.val.remediationId
  actionType := str r.val.actionType
  targetService := r.val.targetService
  targetEnvironment := r.val.targetEnvironment
  executorType := str r.val.executorType
  status := str r.val.status
  dryRun := r.val.dryRun
  simulatedEffect := r.val.simulatedEffect
  execMetadata := r.val.metadata
  error := r.val.error
  startedAt := r.val.startedAt
  completedAt := r.val.completedAt

/-- `_verification_to_row`. -/
def verificationToRow (v : VerificationResult) : VerificationRow where
  id := v.val.verificationId
  remediationId := v.val.remediationId
  executionId := v.val.executionId
  status := str v.val.status
  verifierType := v.val.verifierType
  verifierVersion := v.val.verifierVersion
  attempts := v.val.attempts
  checks := v.val.checks
  failureReason := v.val.failureReason
  timeoutSeconds := v.val.timeoutSeconds
  pollIntervalSeconds := v.val.pollIntervalSeconds
  verMetadata := v.val.metadata
  startedAt := v.val.startedAt
  completedAt := v.val.completedAt

/-- `_audit_to_row`. -/
def auditToRow (e : RemediationAuditEvent) : AuditRow where
  auditId := e.val.auditId
  remediationId := e.val.remediationId
  incidentId := e.val.incidentId
  investigationId := e.val.investigationId
  eventType := str e.val.eventType
  actorType := str e.val.actorType
  actorId := e.val.actorId
  actorRole := e.val.actorRole.map str
  previousState := e.val.previousState.map str
  newState := e.val.newState.map str
  actionType := e.val.actionType.map str
  targetService := e.val.targetService
  targetEnvironment := e.val.targetEnvironment
  policyOutcome := e.val.policyOutcome.map str
  policyVersion := e.val.policyVersion
  policyReasonCodes := e.val.policyReasonCodes.map str
  executionId := e.val.executionId
  executionMode := e.val.executionMode.map str
  executionResult := e.val.executionResult.map str
  verificationId := e.val.verificationId
  reason := e.val.reason
  correlationId := e.val.correlationId
  eventMetadata := e.val.metadata
  occurredAt := e.val.occurredAt

/-- `E(s)`, which raises `ValueError` on a string that is no member. -/
def parseEnum {α : Type} [StrEnum α] (s : String) : Except Error α :=
  match StrEnum.parse s with
  | some a => .ok a
  | none => .error ⟨.other, Py.repr s ++ " is not a valid member"⟩

/-- `PolicyViolation.model_validate`. -/
def loadViolation (v : String × String × String) : Except Error PolicyViolation := do
  let code ← parseEnum v.1
  if h : v.2.1.length ≤ 64 ∧ v.2.2.length ≤ 500 then return ⟨code, v.2.1, v.2.2, h⟩
  else .error ⟨.validation, "PolicyViolation"⟩

/-- `PolicyDecision.model_validate`. -/
def loadDecision (d : DecisionDocument) : Except Error PolicyDecision := do
  let outcome ← parseEnum d.outcome
  let reasonCodes ← d.reasonCodes.mapM parseEnum
  let violations ← d.violations.mapM loadViolation
  return { outcome, reasonCodes, violations, policyVersion := d.policyVersion
           evaluatedRules := d.evaluatedRules, evaluatedAt := d.evaluatedAt }

/-- The proposal of a row. -/
def rowToProposal (row : RemediationRow) : Except Error RemediationProposal := do
  let trigger ← parseEnum row.trigger
  let actionType ← parseEnum row.actionType
  let target ← constructOr (α := ServiceTargetFields) "ServiceTarget"
    { serviceName := row.targetService, environment := row.targetEnvironment }
  let riskLevel ← parseEnum row.riskLevel
  let status ← parseEnum row.status
  constructOr "RemediationProposal"
    { remediationId := row.id
      incidentId := row.incidentId
      investigationId := row.investigationId
      trigger
      proposedBy := row.proposedBy
      actionType
      target
      parameters := row.parameters
      riskLevel
      sourceRecommendation := row.sourceRecommendation
      reason := row.reason
      expectedEffect := row.expectedEffect
      evidenceReferences := row.evidenceReferences
      status
      createdAt := row.createdAt
      expiresAt := row.expiresAt }

/-- The approval of a row. -/
def rowToApproval (a : ApprovalRow) : Except Error RemediationApproval := do
  let decision ← parseEnum a.decision
  let approverRole ← parseEnum a.approverRole
  constructOr "RemediationApproval"
    { approvalId := a.id
      remediationId := a.remediationId
      decision
      approverIdentity := a.approverIdentity
      approverRole
      reason := a.reason
      decidedAt := a.decidedAt }

/-- `_row_to_execution`. -/
def rowToExecution (row : ExecutionRow) : Except Error ExecutionResult := do
  let actionType ← parseEnum row.actionType
  let executorType ← parseEnum row.executorType
  let status ← parseEnum row.status
  constructOr "ExecutionResult"
    { executionId := row.id
      remediationId := row.remediationId
      actionType
      targetService := row.targetService
      targetEnvironment := row.targetEnvironment
      executorType
      status
      dryRun := row.dryRun
      startedAt := row.startedAt
      completedAt := row.completedAt
      simulatedEffect := row.simulatedEffect
      metadata := row.execMetadata
      error := row.error }

/-- `_row_to_verification`. -/
def rowToVerification (row : VerificationRow) : Except Error VerificationResult := do
  let status ← parseEnum row.status
  constructOr "VerificationResult"
    { verificationId := row.id
      remediationId := row.remediationId
      executionId := row.executionId
      status
      verifierType := row.verifierType
      verifierVersion := row.verifierVersion
      attempts := row.attempts
      checks := row.checks
      failureReason := row.failureReason
      timeoutSeconds := row.timeoutSeconds
      pollIntervalSeconds := row.pollIntervalSeconds
      metadata := row.verMetadata
      startedAt := row.startedAt
      completedAt := row.completedAt }

/-- A relationship that may be missing. -/
def loadOptional {α β : Type} (f : α → Except Error β) : Option α → Except Error (Option β)
  | none => .ok none
  | some a => some <$> f a

namespace SqlStore

/-- The approval rows of a remediation. -/
def approvalsOf (s : SqlStore) (rid : String) : List ApprovalRow :=
  s.approvals.values.filter fun a => decide (a.remediationId = rid)

/-- The execution rows of a remediation. -/
def executionsOf (s : SqlStore) (rid : String) : List ExecutionRow :=
  s.executions.values.filter fun e => decide (e.remediationId = rid)

/-- The verification rows of a remediation. -/
def verificationsOf (s : SqlStore) (rid : String) : List VerificationRow :=
  s.verifications.values.filter fun v => decide (v.remediationId = rid)

/-- `_row_to_record`, with the relationships the query loads. -/
def rowToRecord (s : SqlStore) (row : RemediationRow) : Except Error RemediationRecord := do
  let proposal ← rowToProposal row
  let policyDecision ← loadDecision row.policyDecision
  let approval ← loadOptional rowToApproval (s.approvalsOf row.id).head?
  let execution ← loadOptional rowToExecution (s.executionsOf row.id).head?
  let verification ← loadOptional rowToVerification (s.verificationsOf row.id).head?
  return { proposal, policyDecision, approval, execution, verification }

/-- `get`. -/
def get (s : SqlStore) (rid : String) : Except Error (Option RemediationRecord) :=
  loadOptional s.rowToRecord (s.remediations.get? rid)

/-- The record a method returns after its commit: `got = await self.get(…); assert got is not
None`. -/
def reread (s : SqlStore) (rid : String) : Except Error (SqlStore × RemediationRecord) := do
  match ← s.get rid with
  | some rec => return (s, rec)
  | none => .error ⟨.assertion, ""⟩

/-- Append audit rows: their ids are new and distinct and their remediation exists. -/
def insertAudit (s : SqlStore) (events : List RemediationAuditEvent) : Except Error SqlStore := do
  ensure (((s.audit.map (·.auditId)) ++ events.map (·.val.auditId)).Nodup ∧
    ∀ e ∈ events, s.remediations.contains e.val.remediationId = true)
    ⟨.integrity, "remediation_audit_events"⟩
  return { s with audit := s.audit ++ events.map auditToRow }

/-- The class under which a method reports a violated constraint. -/
def onIntegrityError {α : Type} (cls : ErrorClass) (rid : String) :
    Except Error α → Except Error α
  | .error e => if e.cls = .integrity then .error ⟨cls, rid⟩ else .error e
  | .ok a => .ok a

/-- `create`. -/
def create (s : SqlStore) (record : RemediationRecord) (events : List RemediationAuditEvent) :
    Except Error (SqlStore × RemediationRecord) := do
  let row := recordToRow record
  ensure (s.remediations.get? row.id |>.isNone) ⟨.integrity, "remediations"⟩
  let s' ← insertAudit { s with remediations := s.remediations.set row.id row } events
  return (s', record)

/-- `session.get(RemediationRow, remediation_id, with_for_update=True)`. -/
def lockRow (s : SqlStore) (rid : String) : Except Error RemediationRow :=
  match s.remediations.get? rid with
  | none => .error ⟨.notFound, rid⟩
  | some row => .ok row

/-- `row.status = status`. -/
def setStatus (s : SqlStore) (rid : String) (row : RemediationRow) (status : RemediationStatus) :
    SqlStore :=
  { s with remediations := s.remediations.set rid { row with status := str status } }

/-- Insert an approval row: its id and its remediation are new. -/
def insertApproval (s : SqlStore) (a : ApprovalRow) : Except Error SqlStore := do
  ensure ((s.approvals.get? a.id).isNone = true ∧ (s.approvalsOf a.remediationId).isEmpty = true)
    ⟨.integrity, "remediation_approvals"⟩
  return { s with approvals := s.approvals.set a.id a }

/-- `record_decision`: only the status and the decision time of the row change. -/
def recordDecision (s : SqlStore) (rid : String) (newProposal : RemediationProposal)
    (approval : RemediationApproval) (events : List RemediationAuditEvent) :
    Except Error (SqlStore × RemediationRecord) := do
  let row ← s.lockRow rid
  ensure ((s.approvalsOf rid).isEmpty = true) ⟨.alreadyDecided, rid⟩
  let updated : RemediationRow :=
    { row with status := str newProposal.val.status, decidedAt := some approval.val.decidedAt }
  let s' ← onIntegrityError .alreadyDecided rid do
    let s1 ← insertApproval { s with remediations := s.remediations.set rid updated }
      (approvalToRow rid approval)
    insertAudit s1 events
  s'.reread rid

/-- Insert an execution row: its id and its remediation are new. -/
def insertExecution (s : SqlStore) (e : ExecutionRow) : Except Error SqlStore := do
  ensure ((s.executions.get? e.id).isNone = true ∧ (s.executionsOf e.remediationId).isEmpty = true ∧
    s.remediations.contains e.remediationId = true) ⟨.integrity, "remediation_executions"⟩
  return { s with executions := s.executions.set e.id e }

/-- `begin_execution`. -/
def beginExecution (s : SqlStore) (rid : String) (pending : ExecutionResult)
    (events : List RemediationAuditEvent) : Except Error (SqlStore × RemediationRecord) := do
  let row ← s.lockRow rid
  ensure (row.status = str RemediationStatus.approved)
    ⟨.executionConflict, s!"remediation {rid} is {row.status}, not APPROVED"⟩
  validateTransition .approved .executing
  let s' ← onIntegrityError .executionConflict rid do
    let s1 ← insertExecution (s.setStatus rid row .executing) (executionToRow pending)
    insertAudit s1 events
  s'.reread rid

/-- `finish_execution`: only the result columns of the execution row change. -/
def finishExecution (s : SqlStore) (rid executionId : String) (result : ExecutionResult)
    (finalStatus : RemediationStatus) (events : List RemediationAuditEvent) :
    Except Error (SqlStore × RemediationRecord) := do
  let row ← s.lockRow rid
  ensure (row.status = str RemediationStatus.executing) ⟨.executionConflict, rid⟩
  validateTransition .executing finalStatus
  match s.executions.get? executionId with
  | none => .error ⟨.executionConflict, rid⟩
  | some execRow => do
    let updated : ExecutionRow := { execRow with
      status := str result.val.status
      simulatedEffect := result.val.simulatedEffect
      execMetadata := result.val.metadata
      error := result.val.error
      completedAt := result.val.completedAt }
    let s' ← insertAudit { s.setStatus rid row finalStatus with
      executions := s.executions.set executionId updated } events
    s'.reread rid

/-- Insert a verification row: its id and its remediation are new. -/
def insertVerification (s : SqlStore) (v : VerificationRow) : Except Error SqlStore := do
  ensure ((s.verifications.get? v.id).isNone = true ∧
    (s.verificationsOf v.remediationId).isEmpty = true ∧
    s.remediations.contains v.remediationId = true) ⟨.integrity, "remediation_verifications"⟩
  return { s with verifications := s.verifications.set v.id v }

/-- `begin_verification`. -/
def beginVerification (s : SqlStore) (rid : String) (pending : VerificationResult)
    (events : List RemediationAuditEvent) : Except Error (SqlStore × RemediationRecord) := do
  let row ← s.lockRow rid
  ensure (row.status = str RemediationStatus.executed)
    ⟨.verificationConflict, s!"remediation {rid} is {row.status}, not EXECUTED"⟩
  validateTransition .executed .verifying
  let s' ← onIntegrityError .verificationConflict rid do
    let s1 ← insertVerification (s.setStatus rid row .verifying) (verificationToRow pending)
    insertAudit s1 events
  s'.reread rid

/-- `finish_verification`: only the result columns of the verification row change. -/
def finishVerification (s : SqlStore) (rid verificationId : String) (result : VerificationResult)
    (finalStatus : RemediationStatus) (events : List RemediationAuditEvent) :
    Except Error (SqlStore × RemediationRecord) := do
  let row ← s.lockRow rid
  ensure (row.status = str RemediationStatus.verifying) ⟨.verificationConflict, rid⟩
  validateTransition .verifying finalStatus
  match s.verifications.get? verificationId with
  | none => .error ⟨.verificationConflict, rid⟩
  | some verRow => do
    let updated : VerificationRow := { verRow with
      status := str result.val.status
      attempts := result.val.attempts
      checks := result.val.checks
      failureReason := result.val.failureReason
      verMetadata := result.val.metadata
      completedAt := result.val.completedAt }
    let s' ← insertAudit { s.setStatus rid row finalStatus with
      verifications := s.verifications.set verificationId updated } events
    s'.reread rid

/-- `_ACTIVE_SQL`. -/
def activeSql : List String :=
  ["PROPOSED", "POLICY_EVALUATION", "PENDING_APPROVAL", "APPROVED", "EXECUTING", "EXECUTED",
    "VERIFYING"]

/-- `_COOLDOWN_ANCHOR_SQL`. -/
def cooldownAnchorSql : List String := ["APPROVED", "EXECUTING", "EXECUTED", "EXECUTION_FAILED"]

/-- The rows a history query selects. -/
def keyRows (s : SqlStore) (key : HistoryKey) (statuses : List String) : List RemediationRow :=
  s.remediations.values.filter fun row =>
    decide (row.incidentId = key.incidentId) && decide (row.actionType = str key.actionType) &&
      decide (row.targetService = key.serviceName) &&
      decide (row.targetEnvironment = key.environment) && decide (row.status ∈ statuses)

/-- `history_snapshot`. -/
def historySnapshot (s : SqlStore) (key : HistoryKey) : RemediationHistorySnapshot where
  activeExists := decide ((s.keyRows key activeSql).length ≠ 0)
  lastCompleted := ((s.keyRows key cooldownAnchorSql).filterMap (·.decidedAt)).foldl
    InMemoryStore.laterOf none

/-- `SqlRemediationRepository`. -/
def repository : Repository SqlStore where
  empty := {}
  create
  get
  recordDecision
  beginExecution
  finishExecution
  beginVerification
  finishVerification
  historySnapshot s key := .ok (s.historySnapshot key)

end SqlStore

end SentinelOps.Remediation
