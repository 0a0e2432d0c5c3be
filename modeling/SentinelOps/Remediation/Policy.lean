import SentinelOps.Remediation.Proposal
import SentinelOps.Remediation.StateMachine

/-!
# The deterministic policy engine

Nine rules, each a function of the proposal, the context and the configuration that returns its
violations. `evaluate` runs all of them and denies when any violation was found;
`applyPolicyDecision` is the only place where a decision advances a proposal. The history that the
cooldown rule reads is the answer of the history port for the proposal's own incident, action and
target.
-/

namespace SentinelOps.Remediation

/-- `POLICY_VERSION`. -/
def policyVersion : String := "1"

/-- The two results of policy evaluation. -/
inductive PolicyOutcome where
  | allow
  | deny
  deriving DecidableEq

instance : StrEnum PolicyOutcome where
  members := [.allow, .deny]
  str
    | .allow => "ALLOW"
    | .deny => "DENY"
  complete a := by cases a <;> decide
  distinct := by decide

/-- The operational reason codes. -/
inductive PolicyReasonCode where
  | policyOk
  | approvalRequired
  | actionNotAllowed
  | targetNotAllowed
  | environmentNotAllowed
  | severityNotAllowed
  | parameterInvalid
  | riskExceeded
  | proposalExpired
  | invalidState
  | cooldownActive
  | duplicateActive
  deriving DecidableEq

instance : StrEnum PolicyReasonCode where
  members := [.policyOk, .approvalRequired, .actionNotAllowed, .targetNotAllowed,
    .environmentNotAllowed, .severityNotAllowed, .parameterInvalid, .riskExceeded,
    .proposalExpired, .invalidState, .cooldownActive, .duplicateActive]
  str
    | .policyOk => "POLICY_OK"
    | .approvalRequired => "APPROVAL_REQUIRED"
    | .actionNotAllowed => "ACTION_NOT_ALLOWED"
    | .targetNotAllowed => "TARGET_NOT_ALLOWED"
    | .environmentNotAllowed => "ENVIRONMENT_NOT_ALLOWED"
    | .severityNotAllowed => "SEVERITY_NOT_ALLOWED"
    | .parameterInvalid => "PARAMETER_INVALID"
    | .riskExceeded => "RISK_EXCEEDED"
    | .proposalExpired => "PROPOSAL_EXPIRED"
    | .invalidState => "INVALID_STATE"
    | .cooldownActive => "COOLDOWN_ACTIVE"
    | .duplicateActive => "DUPLICATE_ACTIVE"
  complete a := by cases a <;> decide
  distinct := by decide

/-- `KNOWN_SEVERITIES`. -/
def knownSeverities : List String := ["INFO", "LOW", "MEDIUM", "HIGH", "CRITICAL"]

/-- The code-defined policy configuration. -/
structure PolicyConfig where
  policyVersion : String := Remediation.policyVersion
  eligibleActions : List RemediationActionType :=
    [.restartService, .scaleService, .rollBackDeployment, .disableFeatureFlag]
  allowedEnvironments : List String := ["development"]
  maxAllowedRisk : RiskLevel := .high
  maxBlastRadius : Nat := 10
  requireKnownIncidentSeverity : Bool := true

/-- A point-in-time answer of the history port for one incident, action and target. -/
structure RemediationHistorySnapshot where
  activeExists : Bool := false
  lastCompleted : Option Instant := none
  deriving DecidableEq

/-- Per-evaluation facts supplied by the caller. -/
structure PolicyContext where
  now : Instant
  incidentSeverity : Option String := none
  history : RemediationHistorySnapshot := {}

/-- One rule failure, within its length bounds. -/
structure PolicyViolation where
  code : PolicyReasonCode
  rule : String
  detail : String
  bounds : rule.length ≤ 64 ∧ detail.length ≤ 500
  deriving DecidableEq

/-- The outcome of an evaluation. -/
structure PolicyDecision where
  outcome : PolicyOutcome
  reasonCodes : List PolicyReasonCode
  violations : List PolicyViolation := []
  policyVersion : String
  evaluatedRules : List String
  evaluatedAt : Instant
  deriving DecidableEq

/-- `decision.allowed`. -/
def PolicyDecision.allowed (d : PolicyDecision) : Bool := decide (d.outcome = .allow)

/-- `POLICY_INPUT_STATES`. -/
def policyInputStates : List RemediationStatus := [.proposed, .policyEvaluation]

/-- A rule of the policy. -/
abbrev Rule := RemediationProposal → PolicyContext → PolicyConfig → List PolicyViolation

/-- `_v`. -/
def violation (code : PolicyReasonCode) (rule detail : String)
    (h : rule.length ≤ 64 := by decide) : PolicyViolation :=
  ⟨code, rule, Py.takeFirst 500 detail, h, Py.length_takeFirst_le⟩

/-- 1. Lifecycle state. -/
def stateRule : Rule := fun proposal _ _ =>
  if proposal.val.status ∈ policyInputStates then []
  else [violation .invalidState "state"
    (s!"proposal is {str proposal.val.status}; policy evaluation only accepts "
      ++ Py.reprList (Py.sortedStr (policyInputStates.map str)))]

/-- 2. Action eligibility. -/
def actionRule : Rule := fun proposal _ config =>
  match getActionDefinition proposal.val.actionType with
  | none => [violation .actionNotAllowed "action"
      s!"action {str proposal.val.actionType} is not in the closed catalogue"]
  | some _ =>
    if proposal.val.actionType ∈ config.eligibleActions then []
    else [violation .actionNotAllowed "action"
      s!"action {str proposal.val.actionType} is disabled by policy v{config.policyVersion}"]

/-- 3. Target eligibility. -/
def targetRule : Rule := fun proposal _ _ =>
  match getActionDefinition proposal.val.actionType with
  | none => []
  | some definition =>
    let target := proposal.val.target.val
    if isAllowedService target.serviceName = false then
      [violation .targetNotAllowed "target"
        s!"service {Py.repr target.serviceName} is not on the remediation allow-list"]
    else if target.serviceName ∉ definition.allowedTargetServices then
      [violation .targetNotAllowed "target" (s!"service {Py.repr target.serviceName} is not allowed "
        ++ s!"for action {str proposal.val.actionType}")]
    else if target.targetType ∉ definition.allowedTargetTypes then
      [violation .targetNotAllowed "target" (s!"target type {str target.targetType} is not allowed "
        ++ s!"for {str proposal.val.actionType}")]
    else []

/-- 4. Environment. -/
def environmentRule : Rule := fun proposal _ config =>
  let env := proposal.val.target.val.environment
  if env ∈ config.allowedEnvironments then []
  else [violation .environmentNotAllowed "environment" (s!"environment {Py.repr env} is not "
    ++ s!"policy-allowed ({Py.reprList (Py.sortedStr config.allowedEnvironments)})")]

/-- 5. Severity. -/
def severityRule : Rule := fun proposal ctx config =>
  match getActionDefinition proposal.val.actionType with
  | none => []
  | some definition =>
    match ctx.incidentSeverity with
    | none =>
      if config.requireKnownIncidentSeverity = true then
        [violation .severityNotAllowed "severity"
          "incident severity could not be verified; failing closed"]
      else []
    | some severity =>
      if severity ∉ knownSeverities then
        [violation .severityNotAllowed "severity"
          s!"unrecognised incident severity {Py.repr severity}"]
      else if severity ∉ definition.allowedSeverities then
        [violation .severityNotAllowed "severity" (s!"severity {severity} is not eligible for action "
          ++ s!"{str proposal.val.actionType} "
          ++ s!"(allowed: {Py.reprList (Py.sortedStr definition.allowedSeverities)})")]
      else []

/-- 6. Parameters. -/
def parameterRule : Rule := fun proposal _ _ =>
  match validateActionParameters proposal.val.actionType proposal.val.parameters with
  | .ok _ => []
  | .error e =>
    if e.cls = .parameterValidation then [violation .parameterInvalid "parameters" e.message]
    else []

/-- The blast radius of a proposal: a scaling action counts its replicas. -/
def effectiveBlastRadius (definition : ActionDefinition) (proposal : RemediationProposal) : Int :=
  match proposal.val.actionType, proposal.val.parameters.get? "replicas" with
  | .scaleService, some (.int replicas) => max (definition.maxBlastRadius : Int) replicas
  | _, _ => definition.maxBlastRadius

/-- 7. Risk and blast radius, both from the catalogue. -/
def riskRule : Rule := fun proposal _ config =>
  match getActionDefinition proposal.val.actionType with
  | none => []
  | some definition =>
    let blast := effectiveBlastRadius definition proposal
    (if config.maxAllowedRisk.rank < definition.riskLevel.rank then
      [violation .riskExceeded "risk" (s!"action risk {str definition.riskLevel} exceeds the policy "
        ++ s!"ceiling {str config.maxAllowedRisk}")]
    else []) ++
    (if (config.maxBlastRadius : Int) < blast then
      [violation .riskExceeded "risk" (s!"effective blast radius {blast} exceeds the policy limit "
        ++ s!"{config.maxBlastRadius}")]
    else [])

/-- 8. Expiry. -/
def expiryRule : Rule := fun proposal ctx _ =>
  if proposal.val.expiresAt ≤ proposal.val.createdAt then
    [violation .proposalExpired "expiry"
      "proposal approval window is malformed (expires_at <= created_at)"]
  else if proposal.val.expiresAt ≤ ctx.now then
    [violation .proposalExpired "expiry"
      s!"proposal expired at {Py.isoformat proposal.val.expiresAt}"]
  else []

/-- Whether the time since the last completed remediation is below the action's cooldown. -/
def cooldownActive (definition : ActionDefinition) (now last : Instant) : Bool :=
  decide (now - last < seconds definition.cooldownSeconds)

/-- 9. Cooldown and duplicate. -/
def cooldownRule : Rule := fun proposal ctx _ =>
  match getActionDefinition proposal.val.actionType with
  | none => []
  | some definition =>
    (if ctx.history.activeExists = true then
      [violation .duplicateActive "cooldown"
        "another remediation for this incident/action/target is already in flight"]
    else []) ++
    (match ctx.history.lastCompleted with
    | none => []
    | some last =>
      if cooldownActive definition ctx.now last = true then
        let elapsed := Py.fixed 0 (((ctx.now - last : Int) : ℚ) / 1000000)
        [violation .cooldownActive "cooldown" (s!"only {elapsed}s since the last completed "
          ++ s!"remediation; cooldown is {definition.cooldownSeconds}s")]
      else [])

/-- `RULES`, each with its `__name__`. -/
def rules : List (String × Rule) :=
  [("state_rule", stateRule), ("action_rule", actionRule), ("target_rule", targetRule),
    ("environment_rule", environmentRule), ("severity_rule", severityRule),
    ("parameter_rule", parameterRule), ("risk_rule", riskRule), ("expiry_rule", expiryRule),
    ("cooldown_rule", cooldownRule)]

/-- Every violation of every rule, in the order of the rules. -/
def allViolations (config : PolicyConfig) (proposal : RemediationProposal) (ctx : PolicyContext) :
    List PolicyViolation :=
  rules.flatMap fun r => r.2 proposal ctx config

/-- The distinct codes of a list of violations, sorted by their value. -/
def sortedCodes (vs : List PolicyViolation) : List PolicyReasonCode :=
  (vs.map (·.code)).dedup.mergeSort fun a b => Py.strLe (str a) (str b)

/-- `PolicyEngine.evaluate`. -/
def evaluate (config : PolicyConfig) (proposal : RemediationProposal) (ctx : PolicyContext) :
    PolicyDecision :=
  let violations := allViolations config proposal ctx
  if violations ≠ [] then
    { outcome := .deny
      reasonCodes := sortedCodes violations
      violations
      policyVersion := config.policyVersion
      evaluatedRules := rules.map (·.1)
      evaluatedAt := ctx.now }
  else
    { outcome := .allow
      reasonCodes := [.policyOk, .approvalRequired]
      violations := []
      policyVersion := config.policyVersion
      evaluatedRules := rules.map (·.1)
      evaluatedAt := ctx.now }

/-- `_FORBIDDEN_RESULT_STATES`. -/
def forbiddenResultStates : List RemediationStatus :=
  [.approved, .executing, .executed, .verifying, .recovered]

/-- `_PATHS`. -/
def policyPath : RemediationStatus → RemediationStatus → Option (List RemediationStatus)
  | .proposed, .pendingApproval => some [.policyEvaluation, .pendingApproval]
  | .proposed, .blocked => some [.blocked]
  | .policyEvaluation, .pendingApproval => some [.pendingApproval]
  | .policyEvaluation, .blocked => some [.blocked]
  | _, _ => none

/-- Walk a proposal along a path of the state machine. -/
def walk (proposal : RemediationProposal) : List RemediationStatus → Except Error RemediationProposal
  | [] => .ok proposal
  | next :: path => do
    validateTransition proposal.val.status next
    walk (proposal.withStatus next) path

/-- `apply_policy_decision`: `PENDING_APPROVAL` on an allow, `BLOCKED` on a deny. -/
def applyPolicyDecision (proposal : RemediationProposal) (decision : PolicyDecision) :
    Except Error RemediationProposal := do
  ensure (proposal.val.status ∈ policyInputStates)
    ⟨.policy, s!"cannot apply a policy decision to a proposal in status {str proposal.val.status}"⟩
  let target := if decision.allowed = true then RemediationStatus.pendingApproval else .blocked
  let result ← walk proposal ((policyPath proposal.val.status target).getD [])
  ensure (result.val.status ∉ forbiddenResultStates)
    ⟨.policy, s!"policy decision produced a forbidden status {str result.val.status}"⟩
  return result

/-- The engine allows exactly when no rule was violated. -/
lemma evaluate_allow_iff {config proposal ctx} :
    (evaluate config proposal ctx).outcome = .allow ↔ allViolations config proposal ctx = [] := by
  by_cases h : allViolations config proposal ctx = []
  · simp [evaluate, h]
  · simp [evaluate, h]

/-- The engine allows exactly when every one of its rules passes. -/
lemma allViolations_eq_nil {config proposal ctx} :
    allViolations config proposal ctx = [] ↔ ∀ r ∈ rules, r.2 proposal ctx config = [] := by
  simp [allViolations, List.flatMap_eq_nil_iff]

/-- When the cooldown rule passes. -/
lemma cooldownRule_eq_nil {config proposal ctx} :
    cooldownRule proposal ctx config = [] ↔
      ctx.history.activeExists = false ∧
      ∀ last ∈ ctx.history.lastCompleted,
        cooldownActive (actionCatalogue proposal.val.actionType) ctx.now last = false := by
  unfold cooldownRule getActionDefinition
  simp only [List.append_eq_nil_iff]
  refine and_congr ?_ ?_
  · cases ctx.history.activeExists <;> simp
  · cases ctx.history.lastCompleted with
    | none => simp
    | some last => simp

/-- A `PROPOSED` proposal becomes `PENDING_APPROVAL` on an allow and `BLOCKED` on a deny. -/
lemma applyPolicyDecision_proposed {proposal decision} (h : proposal.val.status = .proposed) :
    applyPolicyDecision proposal decision = .ok (proposal.withStatus
      (if decision.outcome = .allow then .pendingApproval else .blocked)) := by
  unfold applyPolicyDecision
  rw [h]
  cases e : decision.outcome with
  | allow =>
    simp [PolicyDecision.allowed, e, policyPath, walk, validateTransition, ensure, canTransition,
      allowedTransitions, policyInputStates, forbiddenResultStates, h, bind, Except.bind, pure,
      Except.pure]
  | deny =>
    simp [PolicyDecision.allowed, e, policyPath, walk, validateTransition, ensure, canTransition,
      allowedTransitions, policyInputStates, forbiddenResultStates, h, bind, Except.bind, pure,
      Except.pure]

end SentinelOps.Remediation
