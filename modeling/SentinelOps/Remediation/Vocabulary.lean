import SentinelOps.Lib.StrEnum

/-!
# The remediation vocabulary

The closed enumerations of the remediation controller and its error classes. An error is the class
that was raised with its message; `Error.isDomain` holds of the subclasses of
`RemediationDomainError`, which the service treats as expected control flow.
-/

namespace SentinelOps.Remediation

/-- The closed set of actions the controller can ever execute. -/
inductive RemediationActionType where
  | restartService
  | scaleService
  | rollBackDeployment
  | disableFeatureFlag
  deriving DecidableEq

instance : StrEnum RemediationActionType where
  members := [.restartService, .scaleService, .rollBackDeployment, .disableFeatureFlag]
  str
    | .restartService => "RESTART_SERVICE"
    | .scaleService => "SCALE_SERVICE"
    | .rollBackDeployment => "ROLL_BACK_DEPLOYMENT"
    | .disableFeatureFlag => "DISABLE_FEATURE_FLAG"
  complete a := by cases a <;> decide
  distinct := by decide

/-- The lifecycle of a single remediation. -/
inductive RemediationStatus where
  | proposed
  | policyEvaluation
  | pendingApproval
  | approved
  | executing
  | executed
  | verifying
  | blocked
  | rejected
  | expired
  | executionFailed
  | recovered
  | recoveryFailed
  deriving DecidableEq

instance : StrEnum RemediationStatus where
  members := [.proposed, .policyEvaluation, .pendingApproval, .approved, .executing, .executed,
    .verifying, .blocked, .rejected, .expired, .executionFailed, .recovered, .recoveryFailed]
  str
    | .proposed => "PROPOSED"
    | .policyEvaluation => "POLICY_EVALUATION"
    | .pendingApproval => "PENDING_APPROVAL"
    | .approved => "APPROVED"
    | .executing => "EXECUTING"
    | .executed => "EXECUTED"
    | .verifying => "VERIFYING"
    | .blocked => "BLOCKED"
    | .rejected => "REJECTED"
    | .expired => "EXPIRED"
    | .executionFailed => "EXECUTION_FAILED"
    | .recovered => "RECOVERED"
    | .recoveryFailed => "RECOVERY_FAILED"
  complete a := by cases a <;> decide
  distinct := by decide

/-- Risk of an action, from the catalogue. -/
inductive RiskLevel where
  | low
  | medium
  | high
  deriving DecidableEq

instance : StrEnum RiskLevel where
  members := [.low, .medium, .high]
  str
    | .low => "LOW"
    | .medium => "MEDIUM"
    | .high => "HIGH"
  complete a := by cases a <;> decide
  distinct := by decide

/-- The position in `_RISK_ORDER`. -/
def RiskLevel.rank : RiskLevel → Nat
  | .low => 0
  | .medium => 1
  | .high => 2

/-- The executor backends: only the local simulation. -/
inductive ExecutorType where
  | localSimulation
  deriving DecidableEq

instance : StrEnum ExecutorType where
  members := [.localSimulation]
  str
    | .localSimulation => "LOCAL_SIMULATION"
  complete a := by cases a; decide
  distinct := by decide

/-- Status of a single execution attempt. -/
inductive ExecutionStatus where
  | started
  | succeeded
  | failed
  deriving DecidableEq

instance : StrEnum ExecutionStatus where
  members := [.started, .succeeded, .failed]
  str
    | .started => "STARTED"
    | .succeeded => "SUCCEEDED"
    | .failed => "FAILED"
  complete a := by cases a <;> decide
  distinct := by decide

/-- The kind of thing a remediation acts on. -/
inductive TargetType where
  | service
  deriving DecidableEq

instance : StrEnum TargetType where
  members := [.service]
  str
    | .service => "SERVICE"
  complete a := by cases a; decide
  distinct := by decide

/-- What caused a proposal. -/
inductive RemediationTrigger where
  | rcaRecommendation
  | manual
  deriving DecidableEq

instance : StrEnum RemediationTrigger where
  members := [.rcaRecommendation, .manual]
  str
    | .rcaRecommendation => "RCA_RECOMMENDATION"
    | .manual => "MANUAL"
  complete a := by cases a <;> decide
  distinct := by decide

/-- A human decision. -/
inductive ApprovalDecision where
  | approve
  | reject
  deriving DecidableEq

instance : StrEnum ApprovalDecision where
  members := [.approve, .reject]
  str
    | .approve => "APPROVE"
    | .reject => "REJECT"
  complete a := by cases a <;> decide
  distinct := by decide

/-- The approver roles. -/
inductive ApproverRole where
  | operator
  | incidentResponder
  | administrator
  deriving DecidableEq

instance : StrEnum ApproverRole where
  members := [.operator, .incidentResponder, .administrator]
  str
    | .operator => "OPERATOR"
    | .incidentResponder => "INCIDENT_RESPONDER"
    | .administrator => "ADMINISTRATOR"
  complete a := by cases a <;> decide
  distinct := by decide

/-- The exception classes that reach a caller of the remediation service. -/
inductive ErrorClass where
  | remediationDomain
  | unknownAction
  | unknownTarget
  | parameterValidation
  | invalidTransition
  | approval
  | policy
  | notFound
  | alreadyDecided
  | invalidState
  | expired
  | policyBlocked
  | unauthorizedApprover
  | proposalNotMappable
  | executionConflict
  | verificationConflict
  | validation
  | executor
  | integrity
  | assertion
  | other
  deriving DecidableEq

/-- A raised exception. -/
structure Error where
  cls : ErrorClass
  message : String
  deriving DecidableEq

/-- `isinstance(exc, RemediationDomainError)`. -/
def Error.isDomain (e : Error) : Bool :=
  match e.cls with
  | .validation | .executor | .integrity | .assertion | .other => false
  | _ => true

/-- Scalar values of parameters and metadata: `str | int | bool`. -/
inductive Scalar where
  | str (s : String)
  | int (n : Int)
  | bool (b : Bool)
  deriving DecidableEq

end SentinelOps.Remediation
