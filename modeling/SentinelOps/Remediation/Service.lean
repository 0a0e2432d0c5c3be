import SentinelOps.Remediation.Repository
import SentinelOps.Lib.Transition

/-!
# The remediation service

`RemediationService` as a transition system. A `World` holds the store, the executor's simulation
state and every call made so far with the place it has reached; the label of a step starts a call or
advances one of them to its next repository call, executor call or verifier run, so a run is an
arbitrary interleaving of arbitrary calls. Between two steps a call keeps only what the service
keeps in local variables: a record it has read may be stale when it acts on it. What the outside
decides (a clock, a random token, whether the storage or the executor fails, what a probe sees) is
carried by the request or by the label.
-/

namespace SentinelOps.Remediation

/-- What the service is constructed with. -/
structure ServiceConfig where
  policy : PolicyConfig := {}
  ttl : Int := seconds 3600
  verification : RecoveryVerificationConfig := defaultRecoveryConfig
  isWord : WordTable

/-- The arguments of `propose`, its clock and its random tokens. -/
structure ProposeRequest where
  incidentId : String
  recommendation : RcaRecommendedActionInput
  investigationId : Option String := none
  incidentSeverity : Option String := none
  targetEnvironment : String := "development"
  proposedBy : String := "api"
  now : Instant
  correlationId : Option String := none
  token : Token
  createdToken : Token
  evaluatedToken : Token
  blockedToken : Token

/-- The arguments of `decide`, its clock and its random tokens. -/
structure DecideRequest where
  remediationId : String
  decision : ApprovalDecision
  approverIdentity : String
  approverRole : ApproverRole
  reason : String := ""
  now : Instant
  correlationId : Option String := none
  token : Token
  decidedToken : Token

/-- The arguments of `execute`, its clock and its random tokens. -/
structure ExecuteRequest where
  remediationId : String
  dryRun : Bool := false
  now : Instant
  correlationId : Option String := none
  token : Token
  requestedToken : Token
  startedToken : Token
  finishedToken : Token

/-- The arguments of `verify_recovery`, its clock and its random tokens. -/
structure VerifyRequest where
  remediationId : String
  now : Instant
  correlationId : Option String := none
  token : Token
  startedToken : Token
  finishedToken : Token

/-- A call of the service. -/
inductive Request where
  | propose (r : ProposeRequest)
  | decide (r : DecideRequest)
  | execute (r : ExecuteRequest)
  | verifyRecovery (r : VerifyRequest)

/-- What a call returns. -/
inductive Response where
  | record (r : RemediationRecord)
  | execution (record : RemediationRecord) (result : ExecutionResult)
  | verification (record : RemediationRecord) (result : VerificationResult) (replayed : Bool)

/-- Where a call stands, with the local variables it still needs. -/
inductive Phase where
  | started
  | creating (record : RemediationRecord) (events : List RemediationAuditEvent)
  | deciding (newProposal : RemediationProposal) (approval : RemediationApproval)
      (events : List RemediationAuditEvent)
  | claimingExecution (pending : ExecutionResult) (events : List RemediationAuditEvent)
  | executing (begun : RemediationRecord) (pending : ExecutionResult)
  | completingExecution (result : ExecutionResult) (finalStatus : RemediationStatus)
      (events : List RemediationAuditEvent)
  | claimingVerification (pending : VerificationResult) (events : List RemediationAuditEvent)
  | verifying (begun : RemediationRecord) (pending : VerificationResult)
  | completingVerification (result : VerificationResult) (finalStatus : RemediationStatus)
      (events : List RemediationAuditEvent)
  | returned (response : Response)
  | raised (error : Error)

/-- A call with its place. -/
structure Call where
  request : Request
  phase : Phase

/-- A failure of the storage: before the transaction of a step took effect, or after it did. -/
inductive StorageFault where
  | before (e : Error)
  | after (e : Error)

/-- What an executor does when it is invoked: the local simulation, or a failure that raises and
leaves the simulation state in whatever condition. -/
inductive ExecutorBehaviour where
  | simulation
  | raises (e : Error) (left : SimulationState)

/-- What the health probe does: the simulated probe, or any other answers. -/
inductive ProbeBehaviour where
  | simulated
  | answers (probe : Probe)

/-- What the outside does during one step. -/
structure Env where
  storage : Option StorageFault := none
  executor : ExecutorBehaviour := .simulation
  probe : ProbeBehaviour := .simulated
  clock : Instant := 0

/-- One invocation of `executor.execute`, with the call that made it. -/
structure Invocation where
  call : Nat
  remediationId : String
  dryRun : Bool
  deriving DecidableEq

/-- The store, the simulated target, the calls and the executor invocations so far. -/
structure World (σ : Type) where
  store : σ
  sim : SimulationState
  calls : List Call := []
  invocations : List Invocation := []

/-- A step starts a call or advances one. -/
inductive Label where
  | call (r : Request)
  | advance (i : Nat) (env : Env)

/-- `_check_decidable`. -/
def checkDecidable (record : RemediationRecord) (decision : ApprovalDecision) (role : ApproverRole)
    (now : Instant) : Except Error Unit := do
  let p := record.proposal.val
  ensure (record.approval.isNone = true)
    ⟨.invalidState, s!"remediation {p.remediationId} already has a "
      ++ record.approval.elim "" (fun a => str a.val.decision) ++ " decision"⟩
  ensure (p.status = .pendingApproval)
    ⟨.invalidState, s!"remediation {p.remediationId} is {str p.status}, not PENDING_APPROVAL"⟩
  ensure (record.policyDecision.outcome = .allow) ⟨.policyBlocked, p.remediationId⟩
  ensure (now < p.expiresAt)
    ⟨.expired, s!"remediation {p.remediationId} expired at {Py.isoformat p.expiresAt}"⟩
  ensure (decision = .approve → canApprove role p.actionType = true)
    ⟨.unauthorizedApprover, s!"role {str role} may not approve a {str p.actionType} action"⟩

/-- `_check_executable`. -/
def checkExecutable (record : RemediationRecord) (now : Instant) : Except Error Unit := do
  let p := record.proposal.val
  ensure (p.status = .approved)
    ⟨.invalidState, s!"remediation {p.remediationId} is {str p.status}, not APPROVED"⟩
  authorizeExecution record.proposal record.approval
  let _ ← requireActionDefinition p.actionType
  ensure (isAllowedTarget p.actionType p.target = true)
    ⟨.unknownTarget, s!"target {ServiceTarget.text p.target} is not allow-listed for "
      ++ str p.actionType⟩
  let _ ← validateActionParameters p.actionType p.parameters
  ensure (now < p.expiresAt)
    ⟨.expired, s!"remediation {p.remediationId} expired at {Py.isoformat p.expiresAt}"⟩

/-- `_check_verifiable`. -/
def checkVerifiable (record : RemediationRecord) : Except Error Unit := do
  let p := record.proposal.val
  ensure (p.status = .executed)
    ⟨.invalidState, s!"remediation {p.remediationId} is {str p.status}, not EXECUTED"⟩
  ensure (∃ e ∈ record.execution, e.val.status = .succeeded)
    ⟨.invalidState, s!"remediation {p.remediationId} has no successful execution to verify"⟩

/-- A read of the storage, which may fail. -/
def readStorage {α : Type} (fault : Option StorageFault) (read : Except Error α) : Except Error α :=
  match fault with
  | some (.before e) | some (.after e) => .error e
  | none => read

/-- A transaction, which may fail before or after it took effect: the store it leaves and what the
call sees. -/
def commit {σ α : Type} (fault : Option StorageFault) (store : σ) (run : Except Error (σ × α)) :
    σ × Except Error α :=
  match fault, run with
  | some (.before e), _ => (store, .error e)
  | _, .error e => (store, .error e)
  | some (.after e), .ok (s, _) => (s, .error e)
  | none, .ok (s, a) => (s, .ok a)

/-- The event of a denial, when there was one. -/
def blockedEvents (isWord : WordTable) (advanced : RemediationProposal) (decision : PolicyDecision)
    (ctx : AuditContext) : Except Error (List RemediationAuditEvent) :=
  if decision.allowed = true then .ok []
  else (fun e => [e]) <$> remediationBlockedEvent isWord advanced decision ctx

section
variable {σ : Type} (cfg : ServiceConfig) (repo : Repository σ)

/-- `propose` up to its `create`: map, read the history, evaluate the policy, build the events. -/
def proposeStart (r : ProposeRequest) (fault : Option StorageFault) (store : σ) :
    Except Error Phase := do
  match ← proposalFromRca r.recommendation
    { incidentId := r.incidentId
      investigationId := r.investigationId
      incidentSeverity := r.incidentSeverity
      targetEnvironment := r.targetEnvironment
      proposedBy := r.proposedBy
      now := r.now
      ttl := cfg.ttl
      token := r.token } with
  | .blocked b => .error ⟨.proposalNotMappable, b.val.blockReason⟩
  | .proposal proposal => do
    let history ← readStorage fault (repo.historySnapshot store proposal.key)
    let decision := evaluate cfg.policy proposal
      { now := r.now, incidentSeverity := r.incidentSeverity, history }
    let advanced ← applyPolicyDecision proposal decision
    let created ← proposalCreatedEvent cfg.isWord proposal ⟨r.createdToken, r.correlationId, r.now⟩
    let evaluated ← policyEvaluatedEvent cfg.isWord advanced decision advanced.val.status
      ⟨r.evaluatedToken, r.correlationId, r.now⟩
    let blocked ← blockedEvents cfg.isWord advanced decision
      ⟨r.blockedToken, r.correlationId, r.now⟩
    return .creating { proposal := advanced, policyDecision := decision }
      ([created, evaluated] ++ blocked)

/-- The read that `decide`, `execute` and `verify_recovery` start with. -/
def readRecord (rid : String) (fault : Option StorageFault) (store : σ) :
    Except Error RemediationRecord := do
  match ← readStorage fault (repo.get store rid) with
  | none => .error ⟨.notFound, rid⟩
  | some record => return record

/-- `decide` up to its `record_decision`. -/
def decideStart (r : DecideRequest) (fault : Option StorageFault) (store : σ) :
    Except Error Phase := do
  let current ← readRecord repo r.remediationId fault store
  checkDecidable current r.decision r.approverRole r.now
  let target : RemediationStatus := if r.decision = .approve then .approved else .rejected
  validateTransition current.status target
  let approval ← constructOr (α := ApprovalFields) "RemediationApproval"
    { approvalId := newApprovalId r.token
      remediationId := r.remediationId
      decision := r.decision
      approverIdentity := r.approverIdentity
      approverRole := r.approverRole
      reason := r.reason
      decidedAt := r.now }
  let decided ← decisionEvent cfg.isWord current.proposal approval current.status
    ⟨r.decidedToken, r.correlationId, r.now⟩
  return .deciding (current.proposal.withStatus target) approval [decided]

/-- The `STARTED` result an execution is claimed with. -/
def pendingExecution (r : ExecuteRequest) (proposal : RemediationProposal) : ExecutionResult where
  val :=
    { executionId := newExecutionId r.token
      remediationId := r.remediationId
      actionType := proposal.val.actionType
      targetService := proposal.val.target.val.serviceName
      targetEnvironment := proposal.val.target.val.environment
      executorType := .localSimulation
      status := .started
      dryRun := false
      startedAt := r.now }
  valid := ⟨matchesId_token, by simp, by simp⟩

/-- A real `execute` up to its `begin_execution`. -/
def executeStart (r : ExecuteRequest) (record : RemediationRecord) : Except Error Phase := do
  let pending := pendingExecution r record.proposal
  let requested ← executionRequestedEvent record.proposal pending.val.executionId
    ⟨r.requestedToken, r.correlationId, r.now⟩
  let started ← executionStartedEvent record.proposal pending.val.executionId
    ⟨r.startedToken, r.correlationId, r.now⟩
  return .claimingExecution pending [requested, started]

/-- A dry run: the executor works on a copy of the simulation state, and so does one that fails. -/
def dryRun (r : ExecuteRequest) (record : RemediationRecord) (behaviour : ExecutorBehaviour)
    (sim : SimulationState) : Except Error (ExecutionResult × SimulationState) :=
  match behaviour with
  | .simulation => execute sim record.proposal r.token true r.now
  | .raises e _ => .error e

/-- What the service makes of an `ExecutorError`. -/
def failedExecution (pending : ExecutionResult) (e : Error) (clock : Instant) : ExecutionResult :=
  ⟨{ pending.val with
      status := .failed
      error := some (Py.takeFirst 2000 e.message)
      completedAt := some clock
      simulatedEffect := Py.takeFirst 2000 s!"execution failed: {e.message}" },
    pending.valid.1, Py.length_takeFirst_le, by simp [Py.length_takeFirst_le]⟩

/-- The real executor call: what the service takes it for, and the simulation state it leaves. An
exception other than `ExecutorError` is not caught. -/
def invokeExecutor (r : ExecuteRequest) (begun : RemediationRecord) (pending : ExecutionResult)
    (env : Env) (sim : SimulationState) :
    SimulationState × Except Error (ExecutionResult × RemediationStatus) :=
  let caught (left : SimulationState) (e : Error) :=
    if e.cls = .executor then
      (left, .ok (failedExecution pending e env.clock, .executionFailed))
    else (left, .error e)
  match env.executor with
  | .raises e left => caught left e
  | .simulation =>
    match execute sim begun.proposal r.token false r.now with
    | .ok (result, sim') => (sim', .ok (result, .executed))
    | .error e => caught sim e

/-- `execute` between the executor call and its `finish_execution`. -/
def executeFinish (r : ExecuteRequest) (begun : RemediationRecord) (result : ExecutionResult)
    (finalStatus : RemediationStatus) : Except Error Phase := do
  let finished ← executionFinishedEvent cfg.isWord begun.proposal result finalStatus
    ⟨r.finishedToken, r.correlationId, r.now⟩
  return .completingExecution result finalStatus [finished]

/-- The `STARTED` result a verification is claimed with. -/
def pendingVerification (r : VerifyRequest) (executionId : String) : VerificationResult where
  val :=
    { verificationId := newVerificationId r.token
      remediationId := r.remediationId
      executionId
      status := .started
      verifierType := verifierTypeLocal
      verifierVersion
      attempts := 0
      checks := []
      failureReason := none
      timeoutSeconds := cfg.verification.val.timeoutSeconds
      pollIntervalSeconds := cfg.verification.val.pollIntervalSeconds
      metadata := .empty
      startedAt := r.now
      completedAt := none }
  valid := ⟨matchesId_token, verifier_bounds, by simp, by simp, cfg.verification.valid.1,
    cfg.verification.valid.2.1⟩

/-- `verify_recovery` up to its `begin_verification`; a finished verification is replayed. -/
def verifyStart (r : VerifyRequest) (fault : Option StorageFault) (store : σ) :
    Except Error Phase := do
  let record ← readRecord repo r.remediationId fault store
  if record.status = .recovered ∨ record.status = .recoveryFailed then
    match record.verification with
    | none => .error ⟨.invalidState,
        s!"remediation {r.remediationId} is {str record.status} but has no verification"⟩
    | some v => return .returned (.verification record v true)
  else do
    ensure (record.status ≠ .verifying) ⟨.verificationConflict,
      s!"a recovery verification for {r.remediationId} is already in progress"⟩
    checkVerifiable record
    match record.execution with
    | none => .error ⟨.assertion, ""⟩
    | some execution => do
      let pending := pendingVerification cfg r execution.val.executionId
      let started ← verificationStartedEvent record.proposal pending.val.verificationId
        execution.val.executionId ⟨r.startedToken, r.correlationId, r.now⟩
      return .claimingVerification pending [started]

/-- The result the service assembles from the verifier's outcome. -/
def verificationFields (pending : VerificationResult) (outcome : RecoveryOutcome) :
    VerificationFields :=
  { pending.val with
    status := outcome.status
    verifierType := outcome.verifierType
    verifierVersion := outcome.verifierVersion
    attempts := outcome.attempts
    checks := outcome.checks
    failureReason := outcome.failureReason
    metadata := .ofList
      [("probe_status", .str (str outcome.probeStatus)), ("checks_passed", .int outcome.checksPassed),
        ("checks_total", .int outcome.checks.length),
        ("first_healthy_at", .str (outcome.firstHealthyAt.elim "" Py.isoformat))]
    completedAt := some outcome.completedAt }

/-- The probe the verifier looks through. -/
def ProbeBehaviour.probe (sim : SimulationState) : ProbeBehaviour → Probe
  | .simulated => simulatedProbe sim
  | .answers p => p

/-- The verifier run of a begun verification. -/
def verifierRun (r : VerifyRequest) (begun : RemediationRecord) (env : Env)
    (sim : SimulationState) : Except Error RecoveryOutcome :=
  verify cfg.isWord (env.probe.probe sim) begun.proposal.val.target cfg.verification r.now

/-- The status a verdict leads to. -/
def RecoveryOutcome.finalStatus (o : RecoveryOutcome) : RemediationStatus :=
  if o.recovered = true then .recovered else .recoveryFailed

/-- `verify_recovery` between the verifier run and its `finish_verification`. -/
def verifyFinish (r : VerifyRequest) (begun : RemediationRecord) (pending : VerificationResult)
    (outcome : RecoveryOutcome) : Except Error Phase := do
  let result ← constructOr "VerificationResult" (verificationFields pending outcome)
  let finished ← verificationFinishedEvent cfg.isWord begun.proposal pending.val.verificationId
    pending.val.executionId outcome.finalStatus outcome ⟨r.finishedToken, r.correlationId, r.now⟩
  return .completingVerification result outcome.finalStatus [finished]

/-- The phase an exception or a success leads to. -/
def settle {α : Type} (f : α → Phase) : Except Error α → Phase
  | .ok a => f a
  | .error e => .raised e

/-- What one step of a call leaves: the store, the simulation state, its phase and the executor
invocation it made. -/
structure StepResult (σ : Type) where
  store : σ
  sim : SimulationState
  phase : Phase
  invoked : Option Bool := none

/-- The step of an `execute` call that has only just started. -/
def stepExecuteStart (r : ExecuteRequest) (env : Env) (w : World σ) : StepResult σ :=
  let checked : Except Error RemediationRecord := do
    let record ← readRecord repo r.remediationId env.storage w.store
    checkExecutable record r.now
    return record
  match checked with
  | .error e => { store := w.store, sim := w.sim, phase := .raised e }
  | .ok record =>
    if r.dryRun = true then
      match dryRun r record env.executor w.sim with
      | .ok (result, sim) =>
        { store := w.store, sim, phase := .returned (.execution record result)
          invoked := some true }
      | .error e => { store := w.store, sim := w.sim, phase := .raised e, invoked := some true }
    else { store := w.store, sim := w.sim, phase := settle id (executeStart r record) }

/-- One step of a call: its next repository call, executor call or verifier run, with the local
computation up to the following one. -/
def stepCall (env : Env) (w : World σ) : Request → Phase → Option (StepResult σ)
  | .propose r, .started =>
    some { store := w.store, sim := w.sim
           phase := settle id (proposeStart cfg repo r env.storage w.store) }
  | .decide r, .started =>
    some { store := w.store, sim := w.sim
           phase := settle id (decideStart cfg repo r env.storage w.store) }
  | .execute r, .started => some (stepExecuteStart repo r env w)
  | .verifyRecovery r, .started =>
    some { store := w.store, sim := w.sim
           phase := settle id (verifyStart cfg repo r env.storage w.store) }
  | .propose _, .creating record events =>
    let (store, out) := commit env.storage w.store (repo.create w.store record events)
    some { store, sim := w.sim, phase := settle (fun rec => .returned (.record rec)) out }
  | .decide r, .deciding newProposal approval events =>
    let (store, out) := commit env.storage w.store
      (repo.recordDecision w.store r.remediationId newProposal approval events)
    some { store, sim := w.sim, phase := settle (fun rec => .returned (.record rec)) out }
  | .execute r, .claimingExecution pending events =>
    let (store, out) := commit env.storage w.store
      (repo.beginExecution w.store r.remediationId pending events)
    some { store, sim := w.sim, phase := settle (fun begun => .executing begun pending) out }
  | .execute r, .executing begun pending =>
    let (sim, out) := invokeExecutor r begun pending env w.sim
    some { store := w.store, sim
           phase := settle id (out >>= fun x => executeFinish cfg r begun x.1 x.2)
           invoked := some false }
  | .execute r, .completingExecution result final events =>
    let (store, out) := commit env.storage w.store
      (repo.finishExecution w.store r.remediationId (newExecutionId r.token) result final events)
    some { store, sim := w.sim, phase := settle (fun rec => .returned (.execution rec result)) out }
  | .verifyRecovery r, .claimingVerification pending events =>
    let (store, out) := commit env.storage w.store
      (repo.beginVerification w.store r.remediationId pending events)
    some { store, sim := w.sim, phase := settle (fun begun => .verifying begun pending) out }
  | .verifyRecovery r, .verifying begun pending =>
    some { store := w.store, sim := w.sim
           phase := settle id
            (verifierRun cfg r begun env w.sim >>= verifyFinish cfg r begun pending) }
  | .verifyRecovery r, .completingVerification result final events =>
    let (store, out) := commit env.storage w.store
      (repo.finishVerification w.store r.remediationId (newVerificationId r.token) result final
        events)
    some { store, sim := w.sim
           phase := settle (fun rec => .returned (.verification rec result false)) out }
  | _, _ => none

/-- The remediation a call names, when it names one. -/
def Request.target : Request → String
  | .propose r => newRemediationId r.token
  | .decide r => r.remediationId
  | .execute r => r.remediationId
  | .verifyRecovery r => r.remediationId

/-- One step of the service. -/
def step (w : World σ) : Label → Option (World σ)
  | .call r => some { w with calls := w.calls ++ [{ request := r, phase := .started }] }
  | .advance i env =>
    match w.calls[i]? with
    | none => none
    | some c =>
      (stepCall cfg repo env w c.request c.phase).map fun out =>
        { store := out.store
          sim := out.sim
          calls := w.calls.set i { c with phase := out.phase }
          invocations := w.invocations ++
            (out.invoked.toList.map fun dry => ⟨i, c.request.target, dry⟩) }

/-- The service over a repository: it starts with an empty store and no call. -/
def service : Machine (World σ) Label where
  init w := w.store = repo.empty ∧ w.calls = [] ∧ w.invocations = []
  step := step cfg repo

end

end SentinelOps.Remediation
