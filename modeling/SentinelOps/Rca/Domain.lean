import SentinelOps.Lib.Dict
import SentinelOps.Lib.PyFloat
import SentinelOps.Lib.StrEnum

/-!
# The vocabulary of an investigation

The closed enumerations of the RCA agent, the hard limits of one investigation with the meters they
bound, and the JSON values that tools return and reports quote.
-/

namespace SentinelOps.Rca

/-- The lifecycle of an investigation. -/
inductive InvestigationStatus where
  | pending
  | planning
  | collectingEvidence
  | analyzing
  | verifying
  | completed
  | insufficientEvidence
  | failed
  | timedOut
  deriving DecidableEq

instance : StrEnum InvestigationStatus where
  members := [.pending, .planning, .collectingEvidence, .analyzing, .verifying, .completed,
    .insufficientEvidence, .failed, .timedOut]
  str
    | .pending => "PENDING"
    | .planning => "PLANNING"
    | .collectingEvidence => "COLLECTING_EVIDENCE"
    | .analyzing => "ANALYZING"
    | .verifying => "VERIFYING"
    | .completed => "COMPLETED"
    | .insufficientEvidence => "INSUFFICIENT_EVIDENCE"
    | .failed => "FAILED"
    | .timedOut => "TIMED_OUT"
  complete a := by cases a <;> decide
  distinct := by decide

/-- `status in _TERMINAL`. -/
def InvestigationStatus.isTerminal : InvestigationStatus → Bool
  | .completed | .insufficientEvidence | .failed | .timedOut => true
  | .pending | .planning | .collectingEvidence | .analyzing | .verifying => false

/-- What asked for an investigation. -/
inductive InvestigationTrigger where
  | event
  | manual
  deriving DecidableEq

instance : StrEnum InvestigationTrigger where
  members := [.event, .manual]
  str
    | .event => "EVENT"
    | .manual => "MANUAL"
  complete a := by cases a <;> decide
  distinct := by decide

/-- How sure a statement is. -/
inductive Confidence where
  | unknown
  | low
  | medium
  | high
  deriving DecidableEq

instance : StrEnum Confidence where
  members := [.unknown, .low, .medium, .high]
  str
    | .unknown => "UNKNOWN"
    | .low => "LOW"
    | .medium => "MEDIUM"
    | .high => "HIGH"
  complete a := by cases a <;> decide
  distinct := by decide

/-- `_CONFIDENCE_ORDER.index(self)`. -/
def Confidence.rank : Confidence → Nat
  | .unknown => 0
  | .low => 1
  | .medium => 2
  | .high => 3

/-- Where a piece of evidence comes from. -/
inductive EvidenceSourceType where
  | incident
  | anomaly
  | metric
  | serviceHealth
  | relatedIncident
  | log
  | trace
  | deployment
  | serviceDependency
  deriving DecidableEq

instance : StrEnum EvidenceSourceType where
  members := [.incident, .anomaly, .metric, .serviceHealth, .relatedIncident, .log, .trace,
    .deployment, .serviceDependency]
  str
    | .incident => "incident"
    | .anomaly => "anomaly"
    | .metric => "metric"
    | .serviceHealth => "service_health"
    | .relatedIncident => "related_incident"
    | .log => "log"
    | .trace => "trace"
    | .deployment => "deployment"
    | .serviceDependency => "service_dependency"
  complete a := by cases a <;> decide
  distinct := by decide

/-- The provenance of an evidence item. -/
inductive TrustLevel where
  | trustedSystem
  | untrustedExternal
  deriving DecidableEq

instance : StrEnum TrustLevel where
  members := [.trustedSystem, .untrustedExternal]
  str
    | .trustedSystem => "TRUSTED_SYSTEM"
    | .untrustedExternal => "UNTRUSTED_EXTERNAL"
  complete a := by cases a <;> decide
  distinct := by decide

/-- What a finding claims. -/
inductive FindingType where
  | observation
  | correlation
  | hypothesis
  | rootCause
  | contributingFactor
  deriving DecidableEq

instance : StrEnum FindingType where
  members := [.observation, .correlation, .hypothesis, .rootCause, .contributingFactor]
  str
    | .observation => "observation"
    | .correlation => "correlation"
    | .hypothesis => "hypothesis"
    | .rootCause => "root_cause"
    | .contributingFactor => "contributing_factor"
  complete a := by cases a <;> decide
  distinct := by decide

/-- What became of a hypothesis. -/
inductive HypothesisVerdict where
  | supported
  | refuted
  | unverified
  | conflicting
  deriving DecidableEq

instance : StrEnum HypothesisVerdict where
  members := [.supported, .refuted, .unverified, .conflicting]
  str
    | .supported => "SUPPORTED"
    | .refuted => "REFUTED"
    | .unverified => "UNVERIFIED"
    | .conflicting => "CONFLICTING"
  complete a := by cases a <;> decide
  distinct := by decide

/-- The closed set of recommendations. -/
inductive RecommendedActionType where
  | investigateFurther
  | monitor
  | restartService
  | rollBackDeployment
  | scaleService
  | adjustConfiguration
  | failoverDependency
  | contactServiceOwner
  | noActionNeeded
  | manualReviewRequired
  deriving DecidableEq

instance : StrEnum RecommendedActionType where
  members := [.investigateFurther, .monitor, .restartService, .rollBackDeployment, .scaleService,
    .adjustConfiguration, .failoverDependency, .contactServiceOwner, .noActionNeeded,
    .manualReviewRequired]
  str
    | .investigateFurther => "INVESTIGATE_FURTHER"
    | .monitor => "MONITOR"
    | .restartService => "RESTART_SERVICE"
    | .rollBackDeployment => "ROLL_BACK_DEPLOYMENT"
    | .scaleService => "SCALE_SERVICE"
    | .adjustConfiguration => "ADJUST_CONFIGURATION"
    | .failoverDependency => "FAILOVER_DEPENDENCY"
    | .contactServiceOwner => "CONTACT_SERVICE_OWNER"
    | .noActionNeeded => "NO_ACTION_NEEDED"
    | .manualReviewRequired => "MANUAL_REVIEW_REQUIRED"
  complete a := by cases a <;> decide
  distinct := by decide

/-- The categories of the operational trace. -/
inductive StepKind where
  | plan
  | toolCall
  | toolResult
  | analysis
  | hypothesis
  | verification
  | rca
  | validation
  | limit
  | error
  deriving DecidableEq

instance : StrEnum StepKind where
  members := [.plan, .toolCall, .toolResult, .analysis, .hypothesis, .verification, .rca,
    .validation, .limit, .error]
  str
    | .plan => "PLAN"
    | .toolCall => "TOOL_CALL"
    | .toolResult => "TOOL_RESULT"
    | .analysis => "ANALYSIS"
    | .hypothesis => "HYPOTHESIS"
    | .verification => "VERIFICATION"
    | .rca => "RCA"
    | .validation => "VALIDATION"
    | .limit => "LIMIT"
    | .error => "ERROR"
  complete a := by cases a <;> decide
  distinct := by decide

/-- The fixed set of evidence tools. -/
inductive ToolName where
  | getIncident
  | getIncidentTimeline
  | getAnomalyEvidence
  | getRelatedIncidents
  | getServiceMetrics
  | getServiceHealth
  | getRecentLogs
  | getTraces
  | getRecentDeployments
  | getServiceDependencies
  deriving DecidableEq

instance : StrEnum ToolName where
  members := [.getIncident, .getIncidentTimeline, .getAnomalyEvidence, .getRelatedIncidents,
    .getServiceMetrics, .getServiceHealth, .getRecentLogs, .getTraces, .getRecentDeployments,
    .getServiceDependencies]
  str
    | .getIncident => "get_incident"
    | .getIncidentTimeline => "get_incident_timeline"
    | .getAnomalyEvidence => "get_anomaly_evidence"
    | .getRelatedIncidents => "get_related_incidents"
    | .getServiceMetrics => "get_service_metrics"
    | .getServiceHealth => "get_service_health"
    | .getRecentLogs => "get_recent_logs"
    | .getTraces => "get_traces"
    | .getRecentDeployments => "get_recent_deployments"
    | .getServiceDependencies => "get_service_dependencies"
  complete a := by cases a <;> decide
  distinct := by decide

/-- The limit that was hit. -/
inductive LimitKind where
  | toolCalls
  | steps
  | evidenceItems
  | time
  deriving DecidableEq

instance : StrEnum LimitKind where
  members := [.toolCalls, .steps, .evidenceItems, .time]
  str
    | .toolCalls => "tool_calls"
    | .steps => "steps"
    | .evidenceItems => "evidence_items"
    | .time => "time"
  complete a := by cases a <;> decide
  distinct := by decide

/-- The bounds for one investigation, admissible by construction. -/
structure ResourceLimits where
  maxToolCalls : Nat := 12
  maxSteps : Nat := 25
  maxEvidenceItems : Nat := 40
  timeoutSeconds : PyFloat := .fin 120
  maxHypotheses : Nat := 5
  toolCalls_ok : 1 ≤ maxToolCalls ∧ maxToolCalls ≤ 100 := by decide
  steps_ok : 1 ≤ maxSteps ∧ maxSteps ≤ 200 := by decide
  evidenceItems_ok : 1 ≤ maxEvidenceItems ∧ maxEvidenceItems ≤ 200 := by decide
  timeout_ok : PyFloat.Above (.fin 0) timeoutSeconds ∧ timeoutSeconds.le (.fin 900) = true := by
    decide
  hypotheses_ok : 1 ≤ maxHypotheses ∧ maxHypotheses ≤ 20 := by decide

/-- `ResourceLimits()`. -/
def ResourceLimits.default : ResourceLimits := {}

/-- The running counters of the loop guard. -/
structure ResourceUsage where
  toolCalls : Nat := 0
  steps : Nat := 0
  evidenceItems : Nat := 0
  startedAt : Instant

/-- `check_limits`: the first bound that is exceeded. -/
def checkLimits (usage : ResourceUsage) (limits : ResourceLimits) (now : Instant) :
    Except LimitKind Unit :=
  if usage.toolCalls > limits.maxToolCalls then .error .toolCalls
  else if usage.steps > limits.maxSteps then .error .steps
  else if usage.evidenceItems > limits.maxEvidenceItems then .error .evidenceItems
  else if limits.timeoutSeconds.lt (PyFloat.totalSeconds (now - usage.startedAt)) = true then
    .error .time
  else .ok ()

/-- A JSON value. -/
inductive Json where
  | null
  | bool (b : Bool)
  | int (n : Int)
  | float (x : PyFloat)
  | str (s : String)
  | list (xs : List Json)
  | dict (es : List (String × Json))

mutual

/-- `repr(x)`. -/
def Json.repr : Json → String
  | .null => "None"
  | .bool b => Py.boolStr b
  | .int n => toString n
  | .float x => x.text
  | .str s => Py.repr s
  | .list xs => "[" ++ Py.join ", " (Json.reprs xs) ++ "]"
  | .dict es => "\x7b" ++ Py.join ", " (Json.reprItems es) ++ "\x7d"

/-- The texts of the elements of a list. -/
def Json.reprs : List Json → List String
  | [] => []
  | x :: xs => x.repr :: Json.reprs xs

/-- The texts of the items of a dictionary. -/
def Json.reprItems : List (String × Json) → List String
  | [] => []
  | (k, v) :: es => (Py.repr k ++ ": " ++ v.repr) :: Json.reprItems es

end

/-- `str(x)`. -/
def Json.text : Json → String
  | .str s => s
  | x => x.repr

/-- `bool(x)`. -/
def Json.truthy : Json → Bool
  | .null => false
  | .bool b => b
  | .int n => decide (n ≠ 0)
  | .float x => decide (x ≠ .fin 0)
  | .str s => decide (s ≠ "")
  | .list xs => !xs.isEmpty
  | .dict es => !es.isEmpty

/-- A JSON object. -/
abbrev Content := Dict String Json

/-- `content.get(k)` when it is there and true, as a string. -/
def textOf (content : Content) (k : String) : Option String :=
  ((content.get? k).filter Json.truthy).map Json.text

end SentinelOps.Rca
