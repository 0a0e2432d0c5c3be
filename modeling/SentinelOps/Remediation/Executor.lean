import SentinelOps.Remediation.Proposal

/-!
# The executor boundary and the local simulation

`ExecutionResult` is the outcome of one execution attempt. `execute` is
`LocalSimulationExecutor.execute`: it applies the action to an in-process `SimulationState`, or, for
a dry run, to a copy of it. The state it leaves behind is part of what it returns, so that a dry run
leaves the simulated target alone is the theorem `execute_dryRun_state`.
-/

namespace SentinelOps.Remediation

/-- The fields of an execution result. -/
structure ExecutionFields where
  executionId : String
  remediationId : String
  actionType : RemediationActionType
  targetService : String
  targetEnvironment : String
  executorType : ExecutorType
  status : ExecutionStatus
  dryRun : Bool
  startedAt : Instant
  completedAt : Option Instant := none
  simulatedEffect : String := ""
  metadata : Dict String Scalar := .empty
  error : Option String := none

/-- `EXECUTION_ID_RE`. -/
def isExecutionId : String → Bool := matchesId "exec_" 16 16

/-- `new_execution_id`. -/
def newExecutionId (t : Token) : String := "exec_" ++ t.text

instance : Schema ExecutionFields where
  Valid r := isExecutionId r.executionId = true ∧ r.simulatedEffect.length ≤ 2000 ∧
    ∀ e ∈ r.error, e.length ≤ 2000
  decidable _ := inferInstanceAs (Decidable (_ ∧ _ ∧ _))

/-- The structured outcome of one execution attempt. -/
abbrev ExecutionResult := Validated ExecutionFields

/-- The simulated state of one service. -/
structure ServiceSimState where
  running : Bool := true
  replicas : Int := 3
  deploymentRevision : String := "v1"
  restartCount : Nat := 0
  rollbackCount : Nat := 0
  featureFlags : Dict String Bool :=
    .ofList [("new_checkout_flow", true), ("recommendations_v2", true)]
  faulted : Bool := false
  recoveryStartedAt : Option Instant := none
  recoveryDelay : Int := 0
  chronicFault : Bool := false

/-- The simulated services by name. -/
abbrev SimulationState := Dict String ServiceSimState

namespace SimulationState

/-- `state.service(name)`: the service's state; an unknown name gets the defaults. -/
def service (state : SimulationState) (name : String) : ServiceSimState :=
  (state.get? name).getD {}

/-- Store the state of one service. -/
def put (state : SimulationState) (name : String) (s : ServiceSimState) : SimulationState :=
  state.set name s

/-- `inject_fault`: the hook a scenario uses to degrade a service. -/
def injectFault (state : SimulationState) (name : String) (recoverAfter : Option Int)
    (chronic : Bool) : SimulationState :=
  let s := state.service name
  state.put name { s with
    faulted := true
    running := true
    chronicFault := chronic
    recoveryStartedAt := none
    recoveryDelay := recoverAfter.getD s.recoveryDelay }

/-- `mark_remediated`. -/
def markRemediated (state : SimulationState) (name : String) (now : Instant) : SimulationState :=
  state.put name { state.service name with recoveryStartedAt := some now }

/-- `snapshot`: what an execution records of the service it changed. -/
def snapshot (state : SimulationState) (name : String) : List (String × Scalar) :=
  let s := state.service name
  [("running", .bool s.running), ("replicas", .int s.replicas),
    ("deployment_revision", .str s.deploymentRevision), ("restart_count", .int s.restartCount),
    ("rollback_count", .int s.rollbackCount), ("faulted", .bool s.faulted),
    ("chronic_fault", .bool s.chronicFault)] ++
  (s.featureFlags.entries.mergeSort fun a b => Py.strLe a.1 b.1).map fun e =>
    ("flag:" ++ e.1, .bool e.2)

end SimulationState

/-- `repr(value)` of a scalar. -/
def Scalar.repr : Scalar → String
  | .str s => Py.repr s
  | .int n => toString n
  | .bool b => Py.boolStr b

/-- `str(d)` of a dictionary of scalars. -/
def dictText (es : List (String × Scalar)) : String :=
  "\x7b" ++ Py.join ", " (es.map fun e => Py.repr e.1 ++ ": " ++ e.2.repr) ++ "\x7d"

/-- `_Plan`. -/
structure Plan where
  effect : String
  metadata : List (String × Scalar)

/-- `_apply`: the effect of an action on a service, with the resulting state. -/
def applyAction (action : RemediationActionType) (service : String) (params : Dict String Scalar)
    (state : SimulationState) : Except Error (Plan × SimulationState) :=
  let s := state.service service
  match action with
  | .restartService =>
    let next := { s with restartCount := s.restartCount + 1, running := true }
    .ok (⟨s!"restart {service}: bounce all instances (restart #{next.restartCount})",
      [("restart_count", .int next.restartCount), ("running", .bool next.running)]⟩,
      state.put service next)
  | .scaleService =>
    match params.get? "replicas" with
    | some (.int replicas) =>
      .ok (⟨s!"scale {service} from {s.replicas} to {replicas} replicas",
        [("replicas", .int replicas), ("previous_replicas", .int s.replicas)]⟩,
        state.put service { s with replicas })
    | some _ => .error ⟨.assertion, ""⟩
    | none => .error ⟨.other, "'replicanext"⟩
  | .rollBackDeployment =>
    let prev := s.deploymentRevision
    let target := match params.get? "to_revision" with
      | some (.str r) => if r = "" then prev ++ "-prev" else r
      | some (.int n) => if n = 0 then prev ++ "-prev" else toString n
      | some (.bool b) => if b then "True" else prev ++ "-prev"
      | none => prev ++ "-prev"
    .ok (⟨s!"roll {service} back from {prev} to {target}",
      [("revision", .str target), ("previous_revision", .str prev)]⟩,
      state.put service
        { s with deploymentRevision := target, rollbackCount := s.rollbackCount + 1 })
  | .disableFeatureFlag =>
    match params.get? "flag_key" with
    | none => .error ⟨.other, "'flag_key'"⟩
    | some value =>
      let key := match value with
        | .str k => k
        | other => other.repr
      let previous := (s.featureFlags.get? key).getD true
      .ok (⟨s!"disable feature flag {Py.repr key} on {service}",
        [("flag_key", .str key), ("previously_enabled", .bool previous), ("enabled", .bool false)]⟩,
        state.put service { s with featureFlags := s.featureFlags.set key false })

/-- The result `execute` reports for a plan. -/
def simulationResult (proposal : RemediationProposal) (token : Token) (dryRun : Bool)
    (now : Instant) (plan : Plan) (resulting : SimulationState) : ExecutionResult where
  val :=
    { executionId := newExecutionId token
      remediationId := proposal.val.remediationId
      actionType := proposal.val.actionType
      targetService := proposal.val.target.val.serviceName
      targetEnvironment := proposal.val.target.val.environment
      executorType := .localSimulation
      status := .succeeded
      dryRun
      startedAt := now
      completedAt := some now
      simulatedEffect := Py.takeFirst 2000 ((if dryRun then "[DRY RUN] would " else "") ++ plan.effect)
      metadata := (Dict.ofList plan.metadata).update
        [("dry_run", .bool dryRun), ("resulting_state",
          .str (dictText (resulting.snapshot proposal.val.target.val.serviceName)))] }
  valid := ⟨matchesId_token, Py.length_takeFirst_le, by simp⟩

/-- `LocalSimulationExecutor.execute`: the result and the simulation state it leaves. -/
def execute (state : SimulationState) (proposal : RemediationProposal) (token : Token)
    (dryRun : Bool) (now : Instant) : Except Error (ExecutionResult × SimulationState) := do
  let params ← validateActionParameters proposal.val.actionType proposal.val.parameters
  let service := proposal.val.target.val.serviceName
  let (plan, applied) ← applyAction proposal.val.actionType service params state
  let working := if dryRun then applied else applied.markRemediated service now
  -- a dry run worked on a copy, so the executor's own state is still the one it started from
  return (simulationResult proposal token dryRun now plan working, if dryRun then state else working)

/-- A dry run leaves the simulated target as it was. -/
theorem execute_dryRun_state {state proposal token now result state'}
    (h : execute state proposal token true now = .ok (result, state')) : state' = state := by
  unfold execute at h
  obtain ⟨params, _, h⟩ := Except.bind_eq_ok.mp h
  obtain ⟨⟨plan, applied⟩, _, h⟩ := Except.bind_eq_ok.mp h
  cases h
  rfl

/-- What a successful execution reports: success, for this remediation and this execution. -/
theorem execute_result {state proposal token dryRun now result state'}
    (h : execute state proposal token dryRun now = .ok (result, state')) :
    result.val.status = .succeeded ∧ result.val.remediationId = proposal.val.remediationId ∧
      result.val.executionId = newExecutionId token ∧ result.val.dryRun = dryRun := by
  unfold execute at h
  obtain ⟨params, _, h⟩ := Except.bind_eq_ok.mp h
  obtain ⟨⟨plan, applied⟩, _, h⟩ := Except.bind_eq_ok.mp h
  cases h
  exact ⟨rfl, rfl, rfl, rfl⟩

end SentinelOps.Remediation
