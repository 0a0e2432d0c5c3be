import SentinelOps.Remediation.Policy
import SentinelOps.Remediation.Recovery

/-!
# Audit events and their builders

One `RemediationAuditEvent` is one immutable fact about a remediation. The builders below are the
only functions that make one; each fills the fields its lifecycle step knows, sends every text
through the redaction boundary and constructs the event, which the schema of the event may refuse.
-/

namespace SentinelOps.Remediation

/-- `SYSTEM_ACTOR_ID`. -/
def systemActorId : String := "remediation-controller"

/-- `AUDIT_ID_RE`. -/
def isAuditId : String → Bool := matchesId "aud_" 16 16

/-- `new_audit_id`. -/
def newAuditId (t : Token) : String := "aud_" ++ t.text

/-- The closed set of auditable lifecycle events. -/
inductive AuditEventType where
  | proposalCreated
  | policyEvaluated
  | remediationBlocked
  | approved
  | rejected
  | executionRequested
  | executionStarted
  | executionSucceeded
  | executionFailed
  | verificationStarted
  | verificationSucceeded
  | verificationFailed
  deriving DecidableEq

instance : StrEnum AuditEventType where
  members := [.proposalCreated, .policyEvaluated, .remediationBlocked, .approved, .rejected,
    .executionRequested, .executionStarted, .executionSucceeded, .executionFailed,
    .verificationStarted, .verificationSucceeded, .verificationFailed]
  str
    | .proposalCreated => "PROPOSAL_CREATED"
    | .policyEvaluated => "POLICY_EVALUATED"
    | .remediationBlocked => "REMEDIATION_BLOCKED"
    | .approved => "APPROVED"
    | .rejected => "REJECTED"
    | .executionRequested => "EXECUTION_REQUESTED"
    | .executionStarted => "EXECUTION_STARTED"
    | .executionSucceeded => "EXECUTION_SUCCEEDED"
    | .executionFailed => "EXECUTION_FAILED"
    | .verificationStarted => "VERIFICATION_STARTED"
    | .verificationSucceeded => "VERIFICATION_SUCCEEDED"
    | .verificationFailed => "VERIFICATION_FAILED"
  complete a := by cases a <;> decide
  distinct := by decide

/-- Who caused an event. -/
inductive ActorType where
  | system
  | human
  deriving DecidableEq

instance : StrEnum ActorType where
  members := [.system, .human]
  str
    | .system => "SYSTEM"
    | .human => "HUMAN"
  complete a := by cases a <;> decide
  distinct := by decide

/-- Only real executions are ever recorded. -/
inductive ExecutionMode where
  | real
  deriving DecidableEq

instance : StrEnum ExecutionMode where
  members := [.real]
  str
    | .real => "REAL"
  complete a := by cases a; decide
  distinct := by decide

/-- The fields of an audit event. -/
structure AuditFields where
  auditId : String
  remediationId : String
  incidentId : String
  investigationId : Option String
  eventType : AuditEventType
  actorType : ActorType
  actorId : String := systemActorId
  actorRole : Option ApproverRole := none
  previousState : Option RemediationStatus := none
  newState : Option RemediationStatus := none
  actionType : Option RemediationActionType
  targetService : Option String
  targetEnvironment : Option String
  policyOutcome : Option PolicyOutcome := none
  policyVersion : Option String := none
  policyReasonCodes : List PolicyReasonCode := []
  executionId : Option String := none
  executionMode : Option ExecutionMode := none
  executionResult : Option ExecutionStatus := none
  verificationId : Option String := none
  reason : String := ""
  correlationId : Option String
  metadata : Dict String Scalar := .empty
  occurredAt : Instant

instance : Schema AuditFields where
  Valid e := isAuditId e.auditId = true ∧
    (1 ≤ e.actorId.length ∧ e.actorId.length ≤ 128) ∧
    (∀ s ∈ e.targetService, s.length ≤ 128) ∧ (∀ s ∈ e.targetEnvironment, s.length ≤ 64) ∧
    (∀ v ∈ e.policyVersion, v.length ≤ 16) ∧ e.reason.length ≤ 1000 ∧
    (∀ c ∈ e.correlationId, c.length ≤ 64)
  decidable _ := inferInstanceAs (Decidable (_ ∧ _ ∧ _ ∧ _ ∧ _ ∧ _ ∧ _))

/-- One immutable audit record. -/
abbrev RemediationAuditEvent := Validated AuditFields

/-- What every builder is told besides its own facts. -/
structure AuditContext where
  token : Token
  correlationId : Option String := none
  now : Instant

/-- `_event`: the fields every event of a proposal shares. -/
def eventFields (proposal : RemediationProposal) (eventType : AuditEventType)
    (actorType : ActorType) (ctx : AuditContext) : AuditFields where
  auditId := newAuditId ctx.token
  remediationId := proposal.val.remediationId
  incidentId := proposal.val.incidentId
  investigationId := proposal.val.investigationId
  eventType
  actorType
  actionType := some proposal.val.actionType
  targetService := some proposal.val.target.val.serviceName
  targetEnvironment := some proposal.val.target.val.environment
  correlationId := ctx.correlationId
  occurredAt := ctx.now

/-- The construction of an event. -/
def buildEvent (fields : AuditFields) : Except Error RemediationAuditEvent :=
  constructOr "RemediationAuditEvent" fields

section
variable (isWord : WordTable)

/-- The metadata of a created proposal, before redaction. -/
def proposalMetadata (proposal : RemediationProposal) : Dict String Scalar :=
  let p := proposal.val
  (Dict.ofList [("trigger", .str (str p.trigger)), ("proposed_by", .str p.proposedBy),
    ("risk_level", .str (str p.riskLevel)), ("source_recommendation", .str p.sourceRecommendation),
    ("evidence_reference_count", .int p.evidenceReferences.length)]).update
    (p.parameters.entries.map fun e => ("param." ++ e.1, e.2))

/-- `proposal_created_event`. -/
def proposalCreatedEvent (proposal : RemediationProposal) (ctx : AuditContext) :
    Except Error RemediationAuditEvent :=
  buildEvent { eventFields proposal .proposalCreated .system ctx with
    newState := some .proposed
    reason := redactText isWord proposal.val.reason
    metadata := redactMetadata isWord (proposalMetadata proposal) }

/-- `policy_evaluated_event`. -/
def policyEvaluatedEvent (proposal : RemediationProposal) (decision : PolicyDecision)
    (newState : RemediationStatus) (ctx : AuditContext) : Except Error RemediationAuditEvent :=
  let detail := Py.join "; " (decision.violations.map (·.detail))
  buildEvent { eventFields proposal .policyEvaluated .system ctx with
    previousState := some .policyEvaluation
    newState := some newState
    policyOutcome := some decision.outcome
    policyVersion := some decision.policyVersion
    policyReasonCodes := decision.reasonCodes
    reason := if detail = "" then s!"policy {str decision.outcome}" else redactText isWord detail
    metadata := redactMetadata isWord
      (.ofList [("evaluated_rules", .str (Py.join "," decision.evaluatedRules))]) }

/-- `remediation_blocked_event`. -/
def remediationBlockedEvent (proposal : RemediationProposal) (decision : PolicyDecision)
    (ctx : AuditContext) : Except Error RemediationAuditEvent :=
  let detail := Py.join "; " (decision.violations.map fun v => s!"{str v.code}:{v.detail}")
  buildEvent { eventFields proposal .remediationBlocked .system ctx with
    previousState := some .policyEvaluation
    newState := some .blocked
    policyOutcome := some decision.outcome
    policyVersion := some decision.policyVersion
    policyReasonCodes := decision.reasonCodes
    reason := Py.orElse (redactText isWord detail) "policy denied the remediation" }

/-- `decision_event`. -/
def decisionEvent (proposal : RemediationProposal) (approval : RemediationApproval)
    (previousState : RemediationStatus) (ctx : AuditContext) : Except Error RemediationAuditEvent :=
  let approved := decide (approval.val.decision = .approve)
  buildEvent { eventFields proposal (if approved then .approved else .rejected) .human ctx with
    actorId := redactIdentity isWord approval.val.approverIdentity
    actorRole := some approval.val.approverRole
    previousState := some previousState
    newState := some (if approved then .approved else .rejected)
    reason := redactText isWord approval.val.reason
    metadata := redactMetadata isWord (.ofList [("approval_id", .str approval.val.approvalId)]) }

/-- `execution_requested_event`. -/
def executionRequestedEvent (proposal : RemediationProposal) (executionId : String)
    (ctx : AuditContext) : Except Error RemediationAuditEvent :=
  buildEvent { eventFields proposal .executionRequested .system ctx with
    previousState := some .approved
    newState := some .approved
    executionId := some executionId
    executionMode := some .real
    reason := "execution requested for an approved remediation" }

/-- `execution_started_event`. -/
def executionStartedEvent (proposal : RemediationProposal) (executionId : String)
    (ctx : AuditContext) : Except Error RemediationAuditEvent :=
  buildEvent { eventFields proposal .executionStarted .system ctx with
    previousState := some .approved
    newState := some .executing
    executionId := some executionId
    executionMode := some .real
    reason := "execution claimed; handed to LOCAL_SIMULATION executor" }

/-- `execution_finished_event`. -/
def executionFinishedEvent (proposal : RemediationProposal) (result : ExecutionResult)
    (finalState : RemediationStatus) (ctx : AuditContext) : Except Error RemediationAuditEvent :=
  let succeeded := decide (finalState = .executed)
  buildEvent
    { eventFields proposal (if succeeded then .executionSucceeded else .executionFailed) .system ctx
      with
      previousState := some .executing
      newState := some finalState
      executionId := some result.val.executionId
      executionMode := some .real
      executionResult := some result.val.status
      reason := if succeeded then redactText isWord result.val.simulatedEffect
        else redactText isWord (Py.orElse (result.val.error.getD "") "executor failed")
      metadata := redactMetadata isWord (.ofList
        [("executor_type", .str (str result.val.executorType)),
          ("dry_run", .bool result.val.dryRun)]) }

/-- `verification_started_event`. -/
def verificationStartedEvent (proposal : RemediationProposal) (verificationId executionId : String)
    (ctx : AuditContext) : Except Error RemediationAuditEvent :=
  buildEvent { eventFields proposal .verificationStarted .system ctx with
    previousState := some .executed
    newState := some .verifying
    executionId := some executionId
    verificationId := some verificationId
    reason := "recovery verification started" }

/-- `verification_finished_event`. -/
def verificationFinishedEvent (proposal : RemediationProposal) (verificationId executionId : String)
    (finalState : RemediationStatus) (outcome : RecoveryOutcome) (ctx : AuditContext) :
    Except Error RemediationAuditEvent :=
  let recovered := decide (finalState = .recovered)
  buildEvent
    { eventFields proposal (if recovered then .verificationSucceeded else .verificationFailed)
        .system ctx with
      previousState := some .verifying
      newState := some finalState
      executionId := some executionId
      verificationId := some verificationId
      reason := if recovered then
          (s!"recovery verified: {outcome.checksPassed}/{outcome.checks.length} checks passed "
            ++ s!"after {outcome.attempts} poll(s)")
        else redactText isWord (Py.orElse (outcome.failureReason.getD "")
          "recovery not verified within the window")
      metadata := redactMetadata isWord (.ofList
        [("attempts", .int outcome.attempts), ("checks_passed", .int outcome.checksPassed),
          ("checks_total", .int outcome.checks.length),
          ("verifier_type", .str outcome.verifierType)]) }

end

end SentinelOps.Remediation
