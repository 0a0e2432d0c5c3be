import SentinelOps.Remediation.AuditTrail
import SentinelOps.Remediation.Equivalence

/-!
# Claims that are never finished

Between its claim and its completion a call runs the executor or the verifier. An exception there
that the service does not catch ends the call and leaves the remediation in `EXECUTING` or
`VERIFYING`, where no other call may move it. `never_stranded_iff` gives the exact condition of a
run under which that never happens: every executor answers with a result or an `ExecutorError`, and
the number of polls of the verification is an integer.
-/

namespace SentinelOps.Remediation

variable {cfg : ServiceConfig}

/-- What the executor answers a real call: its result, or the exception it raises. -/
def executorAnswer (r : ExecuteRequest) (begun : RemediationRecord) (env : Env)
    (sim : SimulationState) : Except Error ExecutionResult :=
  match env.executor with
  | .raises e _ => .error e
  | .simulation => Prod.fst <$> execute sim begun.proposal r.token false r.now

/-- The executor answers with a result or with an `ExecutorError`. -/
def ExecutorAnswers (r : ExecuteRequest) (begun : RemediationRecord) (env : Env)
    (sim : SimulationState) : Prop :=
  ∀ e, executorAnswer r begun env sim = .error e → e.cls = .executor

/-- The correlation id of a call. -/
def Request.correlationId : Request → Option String
  | .propose r => r.correlationId
  | .decide r => r.correlationId
  | .execute r => r.correlationId
  | .verifyRecovery r => r.correlationId

/-- The events a call is about to append. -/
def Phase.events : Phase → List RemediationAuditEvent
  | .creating _ events | .deciding _ _ events | .claimingExecution _ events
  | .completingExecution _ _ events | .claimingVerification _ events
  | .completingVerification _ _ events => events
  | _ => []

/-- The steps a call with a claim still has to take. -/
def Phase.remaining : Phase → Nat
  | .executing _ _ | .verifying _ _ => 2
  | .completingExecution _ _ _ | .completingVerification _ _ _ => 1
  | _ => 0

/-- A call holds a claim as long as steps remain. -/
lemma Phase.remaining_eq_zero {ph : Phase} : ph.remaining = 0 ↔ ph.holdsClaim = false := by
  cases ph <;> simp [remaining, holdsClaim]

/-- The call is about to claim a remediation. -/
def Phase.claims : Phase → Bool
  | .claimingExecution _ _ | .claimingVerification _ _ => true
  | _ => false

/-- A call that is about to claim, or has claimed, has a correlation id that its events accept. -/
def CorrelationFits (req : Request) (ph : Phase) : Prop :=
  ph.claims = true ∨ ph.holdsClaim = true → ∀ c ∈ req.correlationId, c.length ≤ 64

section
variable {σ : Type} {repo : Repository σ}

/-- An accepted event has a bounded correlation id. -/
lemma buildEvent_correlation {fields e} (h : buildEvent fields = .ok e) :
    ∀ c ∈ fields.correlationId, c.length ≤ 64 := by
  rw [← buildEvent_ok h]
  exact e.valid.2.2.2.2.2.2

/-- The texts of a proposal's events are within their bounds. -/
lemma eventFields_bounds {proposal : RemediationProposal} :
    proposal.val.target.val.serviceName.length ≤ 128 ∧
      proposal.val.target.val.environment.length ≤ 64 := by
  obtain ⟨_, short, _, known⟩ := proposal.val.target.valid
  have bounded : ∀ e ∈ allowedEnvironments, e.length ≤ 64 := by decide
  exact ⟨by omega, bounded _ known⟩

/-- The name of the system actor is within its bounds. -/
lemma systemActor_bounds : 1 ≤ systemActorId.length ∧ systemActorId.length ≤ 128 := by
  decide

/-- A proposal's event is accepted when its actor, its reason and its correlation id are within their
bounds. -/
lemma buildEvent_total {proposal : RemediationProposal} {ctx : AuditContext} {fields : AuditFields}
    (id : fields.auditId = newAuditId ctx.token)
    (actor : 1 ≤ fields.actorId.length ∧ fields.actorId.length ≤ 128)
    (service : fields.targetService = some proposal.val.target.val.serviceName)
    (environment : fields.targetEnvironment = some proposal.val.target.val.environment)
    (version : fields.policyVersion = none) (reason : fields.reason.length ≤ 1000)
    (correlation : ∀ c ∈ fields.correlationId, c.length ≤ 64) :
    ∃ e, buildEvent fields = .ok e := by
  have valid : Schema.Valid fields := by
    refine ⟨?_, actor, ?_, ?_, ?_, reason, correlation⟩
    · rw [id]
      exact matchesId_token
    · rw [service]
      intro s hs
      cases hs
      exact eventFields_bounds.1
    · rw [environment]
      intro s hs
      cases hs
      exact eventFields_bounds.2
    · rw [version]
      intro v hv
      cases hv
  exact ⟨⟨fields, valid⟩, constructOr_eq_ok.mpr rfl⟩

/-- The event of a finished execution is accepted. -/
lemma executionFinishedEvent_total {isWord proposal result final} {ctx : AuditContext}
    (fits : ∀ c ∈ ctx.correlationId, c.length ≤ 64) :
    ∃ e, executionFinishedEvent isWord proposal result final ctx = .ok e := by
  refine buildEvent_total rfl systemActor_bounds rfl rfl rfl ?_ fits
  dsimp only
  split
  · exact length_redactText_le
  · exact length_redactText_le

/-- An `execute` call whose executor has answered goes on to complete the execution. -/
lemma executeFinish_total {r begun result final} (fits : ∀ c ∈ r.correlationId, c.length ≤ 64) :
    ∃ events, executeFinish cfg r begun result final = .ok (.completingExecution result final events) := by
  obtain ⟨e, he⟩ := @executionFinishedEvent_total cfg.isWord begun.proposal result final
    ⟨r.finishedToken, r.correlationId, r.now⟩ fits
  refine ⟨[e], ?_⟩
  unfold executeFinish
  rw [he, Except.ok_bind]
  rfl

/-- The text of a recovered verdict is within its bound. -/
lemma recoveredReason_le {outcome : RecoveryOutcome} (few : outcome.checks.length ≤ 4)
    (attempts : outcome.attempts ≤ 10 ^ 320) :
    (s!"recovery verified: {outcome.checksPassed}/{outcome.checks.length} checks passed "
      ++ s!"after {outcome.attempts} poll(s)").length ≤ 1000 := by
  have passed : (Nat.repr outcome.checksPassed).length ≤ 1 := by
    rw [Nat.length_repr_le_iff (by decide)]
    have := List.countP_le_length (p := fun c : RecoveryCheck => c.passed) (l := outcome.checks)
    unfold RecoveryOutcome.checksPassed
    omega
  have total : (Nat.repr outcome.checks.length).length ≤ 1 := by
    rw [Nat.length_repr_le_iff (by decide)]
    omega
  have digits : ∀ k, outcome.attempts ≤ 10 ^ k → (Nat.repr outcome.attempts).length ≤ k + 1 := by
    intro k small
    rw [Nat.length_repr_le_iff (by omega)]
    exact small.trans_lt (Nat.pow_lt_pow_right (by decide) (by omega))
  have polls := digits 320 attempts
  simp only [String.length_append, toString]
  have l1 : "recovery verified: ".length = 19 := by decide
  have l2 : "/".length = 1 := by decide
  have l3 : " checks passed ".length = 15 := by decide
  have l4 : "after ".length = 6 := by decide
  have l5 : " poll(s)".length = 8 := by decide
  omega

/-- The event of a finished verification is accepted. -/
lemma verificationFinishedEvent_total {isWord proposal vid eid final} {outcome : RecoveryOutcome}
    {ctx : AuditContext} (few : outcome.checks.length ≤ 4) (attempts : outcome.attempts ≤ 10 ^ 320)
    (fits : ∀ c ∈ ctx.correlationId, c.length ≤ 64) :
    ∃ e, verificationFinishedEvent isWord proposal vid eid final outcome ctx = .ok e := by
  refine buildEvent_total rfl systemActor_bounds rfl rfl rfl ?_ fits
  dsimp only
  split
  · exact recoveredReason_le few attempts
  · exact length_redactText_le

/-- A `verify_recovery` call whose verifier has finished goes on to complete the verification. -/
lemma verifyFinish_total {r begun env sim outcome eid}
    (run : verifierRun cfg r begun env sim = .ok outcome)
    (fits : ∀ c ∈ r.correlationId, c.length ≤ 64) :
    ∃ result final events, verifyFinish cfg r begun (pendingVerification cfg r eid) outcome =
      .ok (.completingVerification result final events) := by
  have sound := verify_sound run
  have valid : Schema.Valid (verificationFields (pendingVerification cfg r eid) outcome) := by
    refine ⟨matchesId_token, ?_, sound.checks_ok, sound.reason_le, cfg.verification.valid.1,
      cfg.verification.valid.2.1⟩
    change outcome.verifierType.length ≤ 32 ∧ outcome.verifierVersion.length ≤ 16
    rw [sound.verifier.1, sound.verifier.2]
    exact verifier_bounds
  have built : constructOr "VerificationResult"
      (verificationFields (pendingVerification cfg r eid) outcome) = .ok ⟨_, valid⟩ :=
    constructOr_eq_ok.mpr rfl
  obtain ⟨e, he⟩ := @verificationFinishedEvent_total cfg.isWord begun.proposal
    (pendingVerification cfg r eid).val.verificationId (pendingVerification cfg r eid).val.executionId
    outcome.finalStatus outcome ⟨r.finishedToken, r.correlationId, r.now⟩ (verify_checks run)
    (verify_attempts run) fits
  refine ⟨⟨_, valid⟩, outcome.finalStatus, [e], ?_⟩
  unfold verifyFinish
  rw [built, Except.ok_bind, he, Except.ok_bind]
  rfl

/-- The real executor call as the service takes it: on an answer it goes on with a result, on any
other exception it raises. -/
lemma invokeExecutor_cases {r begun pending env sim} :
    (ExecutorAnswers r begun env sim ∧
      ∃ sim' result final, invokeExecutor r begun pending env sim = (sim', .ok (result, final))) ∨
    (¬ ExecutorAnswers r begun env sim ∧
      ∃ sim' e, invokeExecutor r begun pending env sim = (sim', .error e)) := by
  have caught : ∀ left e, executorAnswer r begun env sim = .error e →
      invokeExecutor r begun pending env sim =
        (if e.cls = .executor then
          (left, .ok (failedExecution pending e env.clock, .executionFailed))
        else (left, .error e)) →
      (ExecutorAnswers r begun env sim ∧
        ∃ sim' result final, invokeExecutor r begun pending env sim = (sim', .ok (result, final))) ∨
      (¬ ExecutorAnswers r begun env sim ∧
        ∃ sim' e, invokeExecutor r begun pending env sim = (sim', .error e)) := by
    intro left e answer run
    by_cases known : e.cls = .executor
    · rw [if_pos known] at run
      refine .inl ⟨?_, _, _, _, run⟩
      intro e' answer'
      cases answer.symm.trans answer'
      exact known
    · rw [if_neg known] at run
      exact .inr ⟨fun all => known (all e answer), _, _, run⟩
  cases behaviour : env.executor with
  | raises e left =>
    refine caught left e ?_ ?_
    · unfold executorAnswer
      rw [behaviour]
    · unfold invokeExecutor
      rw [behaviour]
  | simulation =>
    cases run : execute sim begun.proposal r.token false r.now with
    | error e =>
      refine caught sim e ?_ ?_
      · unfold executorAnswer
        rw [behaviour]
        dsimp only
        rw [run]
        rfl
      · unfold invokeExecutor
        rw [behaviour]
        dsimp only
        rw [run]
    | ok x =>
      refine .inl ⟨?_, x.2, x.1, .executed, ?_⟩
      · intro e answer
        unfold executorAnswer at answer
        rw [behaviour] at answer
        dsimp only at answer
        rw [run] at answer
        cases answer
      · unfold invokeExecutor
        rw [behaviour]
        dsimp only
        rw [run]

/-- A call without a claim needs no bound. -/
lemma CorrelationFits.free {req : Request} {ph : Phase} (early : ph.claims = false)
    (late : ph.holdsClaim = false) : CorrelationFits req ph := by
  rintro (h | h)
  · rw [early] at h
    cases h
  · rw [late] at h
    cases h

/-- A computation that raises leaves no claim. -/
lemma CorrelationFits.settled {req : Request} {α : Type} {f : α → Phase} {x : Except Error α}
    (h : ∀ a, x = .ok a → CorrelationFits req (f a)) : CorrelationFits req (settle f x) := by
  cases x with
  | ok a => exact h a rfl
  | error e => exact .free rfl rfl

/-- A call with a bounded correlation id stays within its bound. -/
lemma CorrelationFits.known {req : Request} {ph ph' : Phase} (h : CorrelationFits req ph)
    (claim : ph.claims = true ∨ ph.holdsClaim = true) : CorrelationFits req ph' :=
  fun _ => h claim

/-- A real `execute` that is about to claim has built an event with its correlation id. -/
lemma executeStart_correlation {r record p} (h : executeStart r record = .ok p) :
    ∀ c ∈ r.correlationId, c.length ≤ 64 := by
  unfold executeStart at h
  obtain ⟨requested, hrequested, _⟩ := Except.bind_eq_ok.mp h
  exact buildEvent_correlation hrequested

/-- A `verify_recovery` that is about to claim has built an event with its correlation id. -/
lemma verifyStart_correlation {r fault store p} (h : verifyStart cfg repo r fault store = .ok p) :
    CorrelationFits (.verifyRecovery r) p := by
  unfold verifyStart at h
  obtain ⟨record, _, h⟩ := Except.bind_eq_ok.mp h
  split at h
  · cases hv : record.verification with
    | none =>
      rw [hv] at h
      cases h
    | some v =>
      rw [hv] at h
      cases h
      exact .free rfl rfl
  · obtain ⟨_, _, h⟩ := Except.bind_eq_ok.mp h
    obtain ⟨_, _, h⟩ := Except.bind_eq_ok.mp h
    cases he : record.execution with
    | none =>
      rw [he] at h
      cases h
    | some execution =>
      rw [he] at h
      obtain ⟨started, hstarted, _⟩ := Except.bind_eq_ok.mp h
      exact fun _ => buildEvent_correlation hstarted

/-- The first step of an `execute` call keeps the correlation id within its bound. -/
lemma stepExecuteStart_correlation {r : ExecuteRequest} {env} {w : World σ} :
    CorrelationFits (.execute r) (stepExecuteStart repo r env w).phase := by
  unfold stepExecuteStart
  dsimp only
  split
  · exact .free rfl rfl
  · split
    · split
      · exact .free rfl rfl
      · exact .free rfl rfl
    · exact .settled fun p hp _ => executeStart_correlation hp

/-- Every step of a call keeps its correlation id within its bound. -/
lemma stepCall_correlation {env} {w : World σ} {req ph out} (h : CorrelationFits req ph)
    (e : stepCall cfg repo env w req ph = some out) : CorrelationFits req out.phase := by
  cases stepCall_stepped e with
  | propose =>
    apply CorrelationFits.settled
    intro p hp
    obtain ⟨_, _, _, _, _, rfl⟩ := proposeStart_ok hp
    exact .free rfl rfl
  | decide =>
    apply CorrelationFits.settled
    intro p hp
    obtain ⟨_, _, _, _, _, _, rfl⟩ := decideStart_ok hp
    exact .free rfl rfl
  | execute => exact stepExecuteStart_correlation
  | verifyRecovery => exact .settled fun p hp => verifyStart_correlation hp
  | create | recordDecision => exact .settled fun _ _ => .free rfl rfl
  | beginExecution | beginVerification => exact h.known (.inl rfl)
  | executor | finishExecution | verifier | finishVerification => exact h.known (.inr rfl)

/-- Every call of a reachable world has its correlation id within its bound. -/
lemma correlationFits_of_reachable {w : World σ} (h : (service cfg repo).Reachable w) :
    ∀ (i : Nat) (c : Call), w.calls[i]? = some c → CorrelationFits c.request c.phase := by
  apply h.invariant (I := fun w : World σ =>
    ∀ (i : Nat) (c : Call), w.calls[i]? = some c → CorrelationFits c.request c.phase)
  · rintro w ⟨_, none', _⟩ i c hc
    rw [none'] at hc
    cases hc
  · intro w l w' ok st j d hd
    rcases step_cases st with ⟨r, rfl, rfl⟩ | ⟨i, env, c, out, rfl, hc, ho, rfl⟩
    · rw [List.getElem?_append] at hd
      split at hd
      · exact ok j d hd
      · rw [List.getElem?_singleton] at hd
        split at hd
        · cases hd
          exact .free rfl rfl
        · cases hd
    · rw [List.getElem?_set] at hd
      split at hd
      · split at hd
        · cases hd
          exact stepCall_correlation (ok i c hc) ho
        · cases hd
      · exact ok j d hd

end

/-- A completed insertion of audit rows leaves their ids apart. -/
lemma insertAudit_apart {s events s'} (e : SqlStore.insertAudit s events = .ok s') :
    (s'.audit.map (·.auditId)).Nodup := by
  unfold SqlStore.insertAudit at e
  obtain ⟨_, unique, e⟩ := Except.bind_eq_ok.mp e
  rw [ensure_eq_ok] at unique
  cases e
  rw [List.map_append, List.map_map]
  exact unique.1

/-- Rereading a record leaves the tables alone. -/
lemma reread_store {s : SqlStore} {rid s' r} (e : s.reread rid = .ok (s', r)) : s' = s := by
  unfold SqlStore.reread at e
  obtain ⟨found, _, e⟩ := Except.bind_eq_ok.mp e
  cases found with
  | none => cases e
  | some rec =>
    cases e
    rfl

/-- A method that ends by inserting audit rows and rereading leaves the ids of the trail apart. -/
lemma insertAndReread_apart {x : Except Error SqlStore} {cls rid events s' r}
    (e : (SqlStore.onIntegrityError cls rid (x >>= fun s1 => s1.insertAudit events) >>=
      fun s2 => s2.reread rid) = .ok (s', r)) : (s'.audit.map (·.auditId)).Nodup := by
  obtain ⟨s2, written, e⟩ := Except.bind_eq_ok.mp e
  cases reread_store e
  obtain ⟨s1, _, inserted⟩ := Except.bind_eq_ok.mp (onIntegrityError_ok written)
  exact insertAudit_apart inserted

/-- Every step of a call over the tables keeps the ids of the trail apart. -/
lemma stepCall_apart {env} {w : World SqlStore} {req ph out}
    (h : (w.store.audit.map (·.auditId)).Nodup)
    (e : stepCall cfg SqlStore.repository env w req ph = some out) :
    (out.store.audit.map (·.auditId)).Nodup := by
  rcases stepCall_store e with same | ⟨a, written⟩
  · rw [same]
    exact h
  cases written with
  | create run =>
    obtain ⟨_, _, run⟩ := Except.bind_eq_ok.mp run
    obtain ⟨s1, inserted, run⟩ := Except.bind_eq_ok.mp run
    cases run
    exact insertAudit_apart inserted
  | recordDecision run =>
    obtain ⟨_, _, run⟩ := Except.bind_eq_ok.mp run
    obtain ⟨_, _, run⟩ := Except.bind_eq_ok.mp run
    exact insertAndReread_apart run
  | beginExecution run | beginVerification run =>
    obtain ⟨_, _, run⟩ := Except.bind_eq_ok.mp run
    obtain ⟨_, _, run⟩ := Except.bind_eq_ok.mp run
    obtain ⟨_, _, run⟩ := Except.bind_eq_ok.mp run
    exact insertAndReread_apart run
  | finishExecution run | finishVerification run =>
    obtain ⟨_, _, run⟩ := Except.bind_eq_ok.mp run
    obtain ⟨_, _, run⟩ := Except.bind_eq_ok.mp run
    obtain ⟨_, _, run⟩ := Except.bind_eq_ok.mp run
    split at run
    · cases run
    · obtain ⟨s1, inserted, run⟩ := Except.bind_eq_ok.mp run
      cases reread_store run
      exact insertAudit_apart inserted

/-- The ids of the trail are apart in every reachable state of the tables. -/
lemma apart_of_reachable {w : World SqlStore} (h : (Backend.sql.service cfg).Reachable w) :
    (w.store.audit.map (·.auditId)).Nodup := by
  apply h.invariant (I := fun w : World SqlStore => (w.store.audit.map (·.auditId)).Nodup)
  · rintro w ⟨hs, _⟩
    have store : w.store = {} := hs
    rw [store]
    exact List.nodup_nil
  · intro w l w' apart st
    rcases step_cases st with ⟨r, rfl, rfl⟩ | ⟨i, env, c, out, rfl, hc, ho, rfl⟩
    · exact apart
    · exact stepCall_apart apart ho

/-- The ids of a repository's audit events. -/
def Backend.auditIds : (b : Backend) → b.Store → List String
  | .inMemory, m => m.audit.map (·.val.auditId)
  | .sql, s => s.audit.map (·.auditId)

/-- A step whose storage does not fail and does not know the ids of the events it appends. -/
def Healthy (b : Backend) (w : World b.Store) (l : Label) (_ : World b.Store) : Prop :=
  ∀ i env, l = .advance i env → env.storage = none ∧
    ∀ c : Call, w.calls[i]? = some c → ∀ e ∈ c.phase.events, e.val.auditId ∉ b.auditIds w.store

/-- The remediation a call had claimed is where its executor or verifier run ended, with the row of
the call and the closing event. -/
def Settled (b : Backend) (store : b.Store) : Request → Prop
  | .execute r => ∃ rec trail row, b.lookup store r.remediationId = .ok (some rec) ∧
    b.trail store r.remediationId = .ok trail ∧ b.executions store r.remediationId = [row] ∧
    row.id = newExecutionId r.token ∧
    trail.getLast?.map entryOf = some (executionEntry rec.status) ∧
    ((rec.status = .executed ∧ row.status = str ExecutionStatus.succeeded) ∨
      (rec.status = .executionFailed ∧ row.status = str ExecutionStatus.failed))
  | .verifyRecovery r => ∃ rec trail row, b.lookup store r.remediationId = .ok (some rec) ∧
    b.trail store r.remediationId = .ok trail ∧ b.verifications store r.remediationId = [row] ∧
    row.id = newVerificationId r.token ∧
    trail.getLast?.map entryOf = some (verdictEntry rec.status) ∧
    ((rec.status = .recovered ∧ row.status = str VerificationStatus.recovered) ∨
      (rec.status = .recoveryFailed ∧ row.status = str VerificationStatus.recoveryFailed))
  | _ => True

/-- A step of a call with a claim brings it closer to its completion, and its last step leaves the
remediation settled. -/
def Settles (b : Backend) (w : World b.Store) (l : Label) (w' : World b.Store) : Prop :=
  ∀ i env (c : Call), l = .advance i env → w.calls[i]? = some c → c.phase.holdsClaim = true →
    ∃ ph, w'.calls[i]? = some { c with phase := ph } ∧ ph.remaining < c.phase.remaining ∧
      (ph.remaining = 0 → Settled b w'.store c.request)

/-- Every remediation in `EXECUTING` or `VERIFYING` is held by a call that is still running. -/
def Owned (b : Backend) (w : World b.Store) : Prop :=
  ∀ rid rec, b.lookup w.store rid = .ok (some rec) →
    rec.status = .executing ∨ rec.status = .verifying →
    ∃ (i : Nat) (c : Call), w.calls[i]? = some c ∧ c.request.target = rid ∧ c.phase.holdsClaim = true

/-- The executor or the verifier a step runs answers: the executor with a result or an
`ExecutorError`, the verifier with an integer number of polls. -/
def Answered (cfg : ServiceConfig) (b : Backend) (w : World b.Store) (l : Label)
    (_ : World b.Store) : Prop :=
  ∀ i env (c : Call), l = .advance i env → w.calls[i]? = some c →
    match c.request, c.phase with
    | .execute r, .executing begun _ => ExecutorAnswers r begun env w.sim
    | .verifyRecovery _, .verifying _ _ => cfg.verification.Countable
    | _, _ => True

section
variable {σ : Type} {repo : Repository σ} {w w' : World σ}

/-- A step that advances a known call. -/
lemma step_advanced {i env} {c : Call} (st : step cfg repo w (.advance i env) = some w')
    (hc : w.calls[i]? = some c) :
    ∃ out, stepCall cfg repo env w c.request c.phase = some out ∧ w'.store = out.store ∧
      w'.calls = w.calls.set i { c with phase := out.phase } ∧
      w'.calls[i]? = some { c with phase := out.phase } := by
  rcases step_cases st with ⟨r, e, _⟩ | ⟨j, env', d, out, e, hd, ho, rfl⟩
  · cases e
  · cases e
    cases hd.symm.trans hc
    refine ⟨out, ho, rfl, rfl, ?_⟩
    have there := hc
    rw [List.getElem?_eq_some_iff] at there
    exact List.getElem?_set_self there.1

/-- The step that runs the executor: on an answer the call goes on to complete the execution, on any
other exception it ends; the store is as before. -/
lemma executing_step {r : ExecuteRequest} {begun pending env out}
    (fits : CorrelationFits (.execute r) (.executing begun pending))
    (e : stepCall cfg repo env w (.execute r) (.executing begun pending) = some out) :
    out.store = w.store ∧
      ((ExecutorAnswers r begun env w.sim ∧
          ∃ result final events, out.phase = .completingExecution result final events) ∨
        (¬ ExecutorAnswers r begun env w.sim ∧ ∃ e, out.phase = .raised e)) := by
  cases e
  refine ⟨rfl, ?_⟩
  rcases @invokeExecutor_cases r begun pending env w.sim with
    ⟨answers, sim, result, final, run⟩ | ⟨silent, sim, e, run⟩
  · obtain ⟨events, he⟩ := @executeFinish_total cfg r begun result final (fits (.inr rfl))
    refine .inl ⟨answers, result, final, events, ?_⟩
    change settle id ((invokeExecutor r begun pending env w.sim).2 >>= fun x =>
      executeFinish cfg r begun x.1 x.2) = _
    rw [run, Except.ok_bind, he]
    rfl
  · refine .inr ⟨silent, e, ?_⟩
    change settle id ((invokeExecutor r begun pending env w.sim).2 >>= fun x =>
      executeFinish cfg r begun x.1 x.2) = _
    rw [run]
    rfl

/-- The step that runs the verifier: when the number of its polls is an integer the call goes on to
complete the verification, otherwise it ends; the store is as before. -/
lemma verifying_step {r : VerifyRequest} {begun pending env eid out}
    (own : pending = pendingVerification cfg r eid)
    (fits : CorrelationFits (.verifyRecovery r) (.verifying begun pending))
    (e : stepCall cfg repo env w (.verifyRecovery r) (.verifying begun pending) = some out) :
    out.store = w.store ∧
      ((cfg.verification.Countable ∧
          ∃ result final events, out.phase = .completingVerification result final events) ∨
        (¬ cfg.verification.Countable ∧ ∃ e, out.phase = .raised e)) := by
  cases e
  refine ⟨rfl, ?_⟩
  dsimp only
  cases run : verifierRun cfg r begun env w.sim with
  | ok outcome =>
    obtain ⟨result, final, events, he⟩ := @verifyFinish_total cfg r begun env w.sim outcome eid run (fits (.inr rfl))
    refine .inl ⟨verify_eq_ok.mp ⟨outcome, run⟩, result, final, events, ?_⟩
    rw [Except.ok_bind, own, he]
    rfl
  | error e =>
    refine .inr ⟨?_, e, rfl⟩
    intro countable
    obtain ⟨outcome, run'⟩ := verify_eq_ok.mpr countable
    cases run.symm.trans run'

end

/-- One appended event that the trail does not know is fresh. -/
lemma FreshEvents.of_records {m : InMemoryStore} {rid events entry}
    (new : Records events rid [entry])
    (unknown : ∀ e ∈ events, e.val.auditId ∉ m.audit.map (·.val.auditId)) :
    FreshEvents m rid events where
  own := new.own
  fresh e he e' he' same := unknown e he (List.mem_map.mpr ⟨e', he', same⟩)
  distinct := by
    have one := congrArg List.length new.entries
    rw [List.length_map, List.length_singleton] at one
    obtain ⟨e, rfl⟩ := List.length_eq_one_iff.mp one
    exact List.nodup_singleton _

/-- A claimed execution can be finished. -/
lemma InMemoryStore.finishExecution_run {m : InMemoryStore} {rid final rec} (eid result events)
    (found : m.get rid = some rec) (executing : rec.status = .executing)
    (edge : canTransition .executing final = true) :
    ∃ m' rec', m.finishExecution rid eid result final events = .ok (m', rec') := by
  have there : m.records.get? rid = some rec := found
  have step : validateTransition .executing final = .ok () := ensure_of edge
  unfold InMemoryStore.finishExecution
  rw [there]
  dsimp only
  rw [ensure_of executing, Except.ok_bind, step, Except.ok_bind]
  exact ⟨_, _, rfl⟩

/-- A claimed verification can be finished. -/
lemma InMemoryStore.finishVerification_run {m : InMemoryStore} {rid final rec} (vid result events)
    (found : m.get rid = some rec) (verifying : rec.status = .verifying)
    (edge : canTransition .verifying final = true) :
    ∃ m' rec', m.finishVerification rid vid result final events = .ok (m', rec') := by
  have there : m.records.get? rid = some rec := found
  have step : validateTransition .verifying final = .ok () := ensure_of edge
  unfold InMemoryStore.finishVerification
  rw [there]
  dsimp only
  rw [ensure_of verifying, Except.ok_bind, step, Except.ok_bind]
  exact ⟨_, _, rfl⟩

/-- A transaction that succeeds on a storage that does not fail is seen to succeed. -/
lemma commit_succeeds {σ α : Type} {fault} (store : σ) {store' : σ} {run : Except Error (σ × α)} {a}
    (quiet : fault = none) (h : run = .ok (store', a)) : (commit fault store run).2 = .ok a := by
  rw [quiet, h]
  rfl

section
variable {b : Backend} {w : World b.Store} {v : World InMemoryStore} {env : Env}

/-- The id of an appended event that a repository does not know is new to the dictionaries. -/
lemma Backend.Rel.unknown (rel : b.Rel w v) {id} (h : id ∉ b.auditIds w.store) :
    id ∉ v.store.audit.map (·.val.auditId) := by
  cases b with
  | inMemory =>
    cases rel
    exact h
  | sql =>
    have tables : SqlRel w.store v.store := rel.store
    intro known
    apply h
    change id ∈ w.store.audit.map (·.auditId)
    rw [tables.audit, List.map_map]
    exact known

/-- The ids of the dictionaries' trail are apart when they stand for tables. -/
lemma SqlRel.apart {s : SqlStore} {m : InMemoryStore} (h : SqlRel s m)
    (apart : (s.audit.map (·.auditId)).Nodup) : (m.audit.map (·.val.auditId)).Nodup := by
  rw [h.audit, List.map_map] at apart
  exact apart

/-- A claim leads to its ends. -/
lemma edge_of_execution {final : RemediationStatus} {result : ExecutionResult}
    (h : (final = .executed ∧ result.val.status = .succeeded) ∨
      (final = .executionFailed ∧ result.val.status = .failed)) :
    canTransition .executing final = true := by
  rcases h with ⟨rfl, _⟩ | ⟨rfl, _⟩ <;> rfl

/-- A claim leads to its ends. -/
lemma edge_of_verification {final : RemediationStatus} {result : VerificationResult}
    (h : (final = .recovered ∧ result.val.status = .recovered) ∨
      (final = .recoveryFailed ∧ result.val.status = .recoveryFailed)) :
    canTransition .verifying final = true := by
  rcases h with ⟨rfl, _⟩ | ⟨rfl, _⟩ <;> rfl

/-- The step that completes an execution returns. -/
lemma completingExecution_returns {r result final events out} (rel : b.Rel w v)
    (reach : (b.service cfg).Reachable w)
    (call : CallOk cfg v.store (.execute r) (.completingExecution result final events))
    (new : EventsOk (.execute r) (.completingExecution result final events))
    (quiet : env.storage = none) (unknown : ∀ e ∈ events, e.val.auditId ∉ b.auditIds w.store)
    (e : stepCall cfg b.repository env w (.execute r) (.completingExecution result final events) =
      some out) : ∃ response, out.phase = .returned response := by
  obtain ⟨begun, ⟨_, found, executing, claim⟩, fin, ends⟩ := call
  have fresh : FreshEvents v.store r.remediationId events :=
    .of_records new fun e he => rel.unknown (unknown e he)
  cases e
  cases b with
  | inMemory =>
    have same : w = v := rel
    subst same
    obtain ⟨m', rec', run⟩ := InMemoryStore.finishExecution_run (newExecutionId r.token) result events
      found executing (edge_of_execution ends)
    have seen := commit_succeeds w.store quiet run
    exact ⟨_, congrArg (settle fun rec => .returned (.execution rec result)) seen⟩
  | sql =>
    have tables : SqlRel w.store v.store := rel.store
    obtain ⟨s', run, _⟩ := tables.finishExecution_run (tables.apart (apart_of_reachable reach)) found
      executing (edge_of_execution ends) claim fin fresh
    have seen := commit_succeeds w.store quiet run
    exact ⟨_, congrArg (settle fun rec => .returned (.execution rec result)) seen⟩

/-- The step that completes a verification returns. -/
lemma completingVerification_returns {r result final events out} (rel : b.Rel w v)
    (reach : (b.service cfg).Reachable w)
    (call : CallOk cfg v.store (.verifyRecovery r) (.completingVerification result final events))
    (new : EventsOk (.verifyRecovery r) (.completingVerification result final events))
    (quiet : env.storage = none) (unknown : ∀ e ∈ events, e.val.auditId ∉ b.auditIds w.store)
    (e : stepCall cfg b.repository env w (.verifyRecovery r)
      (.completingVerification result final events) = some out) :
    ∃ response, out.phase = .returned response := by
  obtain ⟨begun, pending, ⟨found, verifying, claim, eid, rfl⟩, fin, ends⟩ := call
  have fresh : FreshEvents v.store r.remediationId events :=
    .of_records new fun e he => rel.unknown (unknown e he)
  cases e
  cases b with
  | inMemory =>
    have same : w = v := rel
    subst same
    obtain ⟨m', rec', run⟩ := InMemoryStore.finishVerification_run (newVerificationId r.token) result
      events found verifying (edge_of_verification ends)
    have seen := commit_succeeds w.store quiet run
    exact ⟨_, congrArg (settle fun rec => .returned (.verification rec result false)) seen⟩
  | sql =>
    have tables : SqlRel w.store v.store := rel.store
    obtain ⟨s', run, _⟩ := tables.finishVerification_run (tables.apart (apart_of_reachable reach))
      found verifying (edge_of_verification ends) claim fin fresh
    have seen := commit_succeeds w.store quiet run
    exact ⟨_, congrArg (settle fun rec => .returned (.verification rec result false)) seen⟩

/-- A transaction that a call saw succeed took effect. -/
lemma commit_seen {σ α : Type} {fault} {store : σ} {run : Except Error (σ × α)} {f : α → Phase}
    {response} (h : settle f (commit fault store run).2 = .returned response) :
    ∃ a, run = .ok ((commit fault store run).1, a) := by
  cases e : commit fault store run with
  | mk store' out =>
    rw [e] at h
    rcases settle_cases h with ⟨a, rfl, _⟩ | ⟨x, _, no⟩
    · rcases commit_cases e with ⟨_, x, no⟩ | ⟨a', done, _⟩
      · cases no
      · exact ⟨a', done⟩
    · cases no

/-- An execution that ended with its result is settled. -/
lemma Settled.execution {r : ExecuteRequest} {rec result} (rel : b.Rel w v) (inv : Inv cfg v)
    (trails : TrailInv v) (found : v.store.get r.remediationId = some rec)
    (claim : rec.execution = some result) (own : result.val.executionId = newExecutionId r.token)
    (ends : (rec.status = .executed ∧ result.val.status = .succeeded) ∨
      (rec.status = .executionFailed ∧ result.val.status = .failed)) :
    Settled b w.store (.execute r) := by
  have abs := rel.abstracts inv
  have rows := abs.executions r.remediationId
  rw [found, Option.bind_some, claim] at rows
  have entries := trails.ok r.remediationId
  rw [found] at entries
  refine ⟨rec, _, executionToRow result, found ▸ abs.lookup r.remediationId, rel.trail, rows, own,
    ?_, ?_⟩
  · rw [← List.getLast?_map, entries]
    change (trailOf rec.status).getLast? = _
    rcases ends with ⟨st, _⟩ | ⟨st, _⟩ <;> rw [st] <;> rfl
  · rcases ends with ⟨st, status⟩ | ⟨st, status⟩
    · exact .inl ⟨st, congrArg str status⟩
    · exact .inr ⟨st, congrArg str status⟩

/-- A verification that ended with its result is settled. -/
lemma Settled.verification {r : VerifyRequest} {rec result} (rel : b.Rel w v) (inv : Inv cfg v)
    (trails : TrailInv v) (found : v.store.get r.remediationId = some rec)
    (claim : rec.verification = some result)
    (own : result.val.verificationId = newVerificationId r.token)
    (ends : (rec.status = .recovered ∧ result.val.status = .recovered) ∨
      (rec.status = .recoveryFailed ∧ result.val.status = .recoveryFailed)) :
    Settled b w.store (.verifyRecovery r) := by
  have abs := rel.abstracts inv
  have rows := abs.verifications r.remediationId
  rw [found, Option.bind_some, claim] at rows
  have entries := trails.ok r.remediationId
  rw [found] at entries
  refine ⟨rec, _, verificationToRow result, found ▸ abs.lookup r.remediationId, rel.trail, rows, own,
    ?_, ?_⟩
  · rw [← List.getLast?_map, entries]
    change (trailOf rec.status).getLast? = _
    rcases ends with ⟨st, _⟩ | ⟨st, _⟩ <;> rw [st] <;> rfl
  · rcases ends with ⟨st, status⟩ | ⟨st, status⟩
    · exact .inl ⟨st, congrArg str status⟩
    · exact .inr ⟨st, congrArg str status⟩

/-- The completion of an execution that a call has seen leaves the remediation settled. -/
lemma completedExecution_settled {w' : World b.Store} {v' : World InMemoryStore}
    {r result final events env' out response} (rel' : b.Rel w' v') (inv' : Inv cfg v')
    (trails' : TrailInv v')
    (call : CallOk cfg v.store (.execute r) (.completingExecution result final events))
    (e : stepCall cfg InMemoryStore.repository env' v (.execute r)
      (.completingExecution result final events) = some out)
    (returned : out.phase = .returned response) (store : v'.store = out.store) :
    Settled b w'.store (.execute r) := by
  obtain ⟨begun, _, fin, ends⟩ := call
  cases e
  obtain ⟨rec, run⟩ := commit_seen returned
  obtain ⟨_, _, _, _, updated, stored⟩ :=
    @InMemoryStore.finishExecution_ok _ _ (newExecutionId r.token) _ _ _ _ _ run
  have found : v'.store.get r.remediationId = some rec := by
    rw [store]
    change InMemoryStore.get (commit _ _ _).1 _ = _
    rw [stored]
    exact @get_put _ _ events _
  have own : result.val.executionId = newExecutionId r.token := by
    rw [fin]
    rfl
  rw [updated] at found
  exact .execution rel' inv' trails' found rfl own ends

/-- The completion of a verification that a call has seen leaves the remediation settled. -/
lemma completedVerification_settled {w' : World b.Store} {v' : World InMemoryStore}
    {r result final events env' out response} (rel' : b.Rel w' v') (inv' : Inv cfg v')
    (trails' : TrailInv v')
    (call : CallOk cfg v.store (.verifyRecovery r) (.completingVerification result final events))
    (e : stepCall cfg InMemoryStore.repository env' v (.verifyRecovery r)
      (.completingVerification result final events) = some out)
    (returned : out.phase = .returned response) (store : v'.store = out.store) :
    Settled b w'.store (.verifyRecovery r) := by
  obtain ⟨begun, pending, ⟨_, _, _, eid, rfl⟩, fin, ends⟩ := call
  cases e
  obtain ⟨rec, run⟩ := commit_seen returned
  obtain ⟨_, _, _, _, updated, stored⟩ :=
    @InMemoryStore.finishVerification_ok _ _ (newVerificationId r.token) _ _ _ _ _ run
  have found : v'.store.get r.remediationId = some rec := by
    rw [store]
    change InMemoryStore.get (commit _ _ _).1 _ = _
    rw [stored]
    exact @get_put _ _ events _
  have own : result.val.verificationId = newVerificationId r.token := by
    rw [fin]
    rfl
  rw [updated] at found
  exact .verification rel' inv' trails' found rfl own ends

/-- A step of a call with a claim, when the executor or the verifier it runs answers, brings the
call closer to its completion, and its last step leaves the remediation settled. -/
lemma settles_of_answered {w' : World b.Store} {l} (reach : (b.service cfg).Reachable w)
    (st : (b.service cfg).step w l = some w') (healthy : Healthy b w l w')
    (answered : Answered cfg b w l w') : Settles b w l w' := by
  rintro i env c rfl hc claim
  obtain ⟨v, rel, inv, reachV⟩ := Backend.related_of_reachable reach
  have hcV : v.calls[i]? = some c := (rel.abstracts inv).calls ▸ hc
  have call := inv.calls i c hcV
  have new := (trailInv_of_reachable reachV).calls i c hcV
  have fits := correlationFits_of_reachable reach i c hc
  have answer := answered i env c rfl hc
  obtain ⟨quiet, unknown⟩ := healthy i env rfl
  have unknown := unknown c hc
  obtain ⟨out, ho, _, _, next⟩ := step_advanced st hc
  obtain ⟨k, v', matched, stV, rel'⟩ := rel.step inv st
  obtain ⟨env', rfl⟩ := matched.advanced rfl
  have moved : step cfg InMemoryStore.repository v (.advance i env') = some v' := stV
  obtain ⟨outV, hoV, storeV, _, nextV⟩ := step_advanced moved hcV
  have inv' : Inv cfg v' := inv.step moved
  have same : out.phase = outV.phase := by
    rw [(rel'.abstracts inv').calls, nextV] at next
    exact (congrArg Call.phase (Option.some.inj next)).symm
  have trails' := trailInv_of_reachable (reachV.step stV)
  refine ⟨out.phase, next, ?_⟩
  obtain ⟨req, ph⟩ := c
  dsimp only at *
  cases ph with
  | executing begun pending =>
    cases req with
    | execute r =>
      obtain ⟨_, ⟨_, result, final, events, e⟩ | ⟨silent, _⟩⟩ := executing_step fits ho
      · rw [e]
        exact ⟨Nat.one_lt_two, fun h => by cases h⟩
      · exact absurd answer silent
    | propose r => exact absurd call id
    | decide r => exact absurd call id
    | verifyRecovery r => exact absurd call id
  | verifying begun pending =>
    cases req with
    | verifyRecovery r =>
      obtain ⟨_, _, _, eid, own⟩ := call
      obtain ⟨_, ⟨_, result, final, events, e⟩ | ⟨endless, _⟩⟩ := verifying_step own fits ho
      · rw [e]
        exact ⟨Nat.one_lt_two, fun h => by cases h⟩
      · exact absurd answer endless
    | propose r => exact absurd call id
    | decide r => exact absurd call id
    | execute r => exact absurd call id
  | completingExecution result final events =>
    cases req with
    | execute r =>
      obtain ⟨response, returned⟩ := completingExecution_returns rel reach call new quiet unknown ho
      refine ⟨by rw [returned]; exact Nat.one_pos, fun _ => ?_⟩
      exact completedExecution_settled rel' inv' trails' call hoV (same ▸ returned) storeV
    | propose r => exact absurd call id
    | decide r => exact absurd call id
    | verifyRecovery r => exact absurd call id
  | completingVerification result final events =>
    cases req with
    | verifyRecovery r =>
      obtain ⟨response, returned⟩ :=
        completingVerification_returns rel reach call new quiet unknown ho
      refine ⟨by rw [returned]; exact Nat.one_pos, fun _ => ?_⟩
      exact completedVerification_settled rel' inv' trails' call hoV (same ▸ returned) storeV
    | propose r => exact absurd call id
    | decide r => exact absurd call id
    | execute r => exact absurd call id
  | started => cases claim
  | creating record events => cases claim
  | deciding np a events => cases claim
  | claimingExecution pending events => cases claim
  | claimingVerification pending events => cases claim
  | returned response => cases claim
  | raised e => cases claim

/-- Only `execute` and `verify_recovery` hold a claim. -/
lemma CallOk.claimant {m req ph} (call : CallOk cfg m req ph) (claim : ph.holdsClaim = true) :
    (∃ r, req = .execute r) ∨ ∃ r, req = .verifyRecovery r := by
  cases req with
  | execute r => exact .inl ⟨r, rfl⟩
  | verifyRecovery r => exact .inr ⟨r, rfl⟩
  | propose r => cases ph <;> first | exact absurd call id | cases claim
  | decide r => cases ph <;> first | exact absurd call id | cases claim

/-- A settled remediation is in no status of a claim. -/
lemma Settled.unclaimed {store : b.Store} {req rec}
    (settled : Settled b store req) (kind : (∃ r, req = .execute r) ∨ ∃ r, req = .verifyRecovery r)
    (look : b.lookup store req.target = .ok (some rec)) :
    ¬ (rec.status = .executing ∨ rec.status = .verifying) := by
  intro claimed
  rcases kind with ⟨r, rfl⟩ | ⟨r, rfl⟩
  · obtain ⟨rec', _, _, look', _, _, _, _, ends⟩ := settled
    cases look.symm.trans look'
    rcases claimed with st | st <;> rcases ends with ⟨st', _⟩ | ⟨st', _⟩ <;> rw [st] at st' <;> cases st'
  · obtain ⟨rec', _, _, look', _, _, _, _, ends⟩ := settled
    cases look.symm.trans look'
    rcases claimed with st | st <;> rcases ends with ⟨st', _⟩ | ⟨st', _⟩ <;> rw [st] at st' <;> cases st'

/-- A call with a claim that goes on does not end in an exception that leaves the store alone. -/
lemma Settles.not_raised {w' : World b.Store} {i e} {c : Call}
    (settles : Settles b w (.advance i env) w') (rel : b.Rel w v) (inv : Inv cfg v)
    (hc : w.calls[i]? = some c) (call : CallOk cfg v.store c.request c.phase)
    (claim : c.phase.holdsClaim = true) (next : w'.calls[i]? = some { c with phase := .raised e })
    (same : w'.store = w.store) : False := by
  obtain ⟨ph, next', _, settled⟩ := settles i env c rfl hc claim
  have raised : ph = .raised e := congrArg Call.phase (Option.some.inj (next'.symm.trans next))
  rw [raised, same] at settled
  obtain ⟨rec, found, claimed⟩ := call.claimed claim
  have look := (rel.abstracts inv).lookup c.request.target
  rw [found] at look
  exact (settled rfl).unclaimed (call.claimant claim) look claimed

/-- A call that goes on had its executor or its verifier answer. -/
lemma answered_of_settles {w' : World b.Store} {l} (reach : (b.service cfg).Reachable w)
    (st : (b.service cfg).step w l = some w') (settles : Settles b w l w') :
    Answered cfg b w l w' := by
  rintro i env c rfl hc
  obtain ⟨v, rel, inv, _⟩ := Backend.related_of_reachable reach
  have call := inv.calls i c ((rel.abstracts inv).calls ▸ hc)
  have fits := correlationFits_of_reachable reach i c hc
  obtain ⟨out, ho, store, _, next⟩ := step_advanced st hc
  obtain ⟨req, ph⟩ := c
  cases req with
  | execute r =>
    cases ph with
    | executing begun pending =>
      obtain ⟨same, ⟨answers, _⟩ | ⟨_, e, raised⟩⟩ := executing_step fits ho
      · exact answers
      · rw [raised] at next
        exact (settles.not_raised rel inv hc call rfl next (store.trans same)).elim
    | _ => exact trivial
  | verifyRecovery r =>
    cases ph with
    | verifying begun pending =>
      have claim : VerificationClaim cfg v.store r begun pending := call
      obtain ⟨_, _, _, eid, own⟩ := claim
      obtain ⟨same, ⟨countable, _⟩ | ⟨_, e, raised⟩⟩ := verifying_step own fits ho
      · exact countable
      · rw [raised] at next
        exact (settles.not_raised rel inv hc call rfl next (store.trans same)).elim
    | _ => exact trivial
  | propose r => exact trivial
  | decide r => exact trivial

/-- A record is in a status of a claim. -/
def RemediationRecord.claimed (rec : RemediationRecord) : Prop :=
  rec.status = .executing ∨ rec.status = .verifying

/-- A transaction whose storage does not fail after it took effect leaves a remediation in a status
of a claim only when it had been there before, or when the call goes on with the claim. -/
lemma commit_claims {fault} {m m' : InMemoryStore} {run : Except Error (InMemoryStore × RemediationRecord)}
    {out} {f : RemediationRecord → Phase} {rid rec} (quiet : ∀ e, fault ≠ some (.after e))
    (e : commit fault m run = (m', out))
    (applied : ∀ a, run = .ok (m', a) → (f a).holdsClaim = true ∨
      ∃ x, m'.get rid = some x ∧ ¬ x.claimed)
    (found : m'.get rid = some rec) (claimed : rec.claimed) :
    m' = m ∨ (settle f out).holdsClaim = true := by
  rcases commit_cases e with ⟨same, _⟩ | ⟨a, done, rfl | ⟨x, rfl⟩⟩
  · exact .inl same
  · rcases applied a done with holds | ⟨x, found', free⟩
    · exact .inr holds
    · cases found'.symm.trans found
      exact absurd claimed free
  · rcases commit_error e with same | ⟨y, hy⟩
    · exact .inl same
    · exact absurd hy (quiet y)

/-- A step that leaves the remediation its call names in a status of a claim had found it so, or its
call holds the claim. -/
lemma stepCall_claims {req ph out rec} (call : CallOk cfg v.store req ph)
    (quiet : ∀ e, env.storage ≠ some (.after e))
    (e : stepCall cfg InMemoryStore.repository env v req ph = some out)
    (found : out.store.get req.target = some rec) (claimed : rec.claimed) :
    out.store = v.store ∨ out.phase.holdsClaim = true := by
  cases stepCall_stepped e with
  | propose | decide | verifyRecovery | executor | verifier => exact .inl rfl
  | execute => exact .inl (stepExecuteStart_cases rfl).1
  | @create r record events _ _ done =>
    refine commit_claims quiet done (fun a run => .inr ?_) found claimed
    have fresh : FreshRecord r record := call
    obtain ⟨_, _, stored⟩ := InMemoryStore.create_ok run
    refine ⟨record, ?_, ?_⟩
    · change InMemoryStore.get _ (newRemediationId r.token) = _
      rw [stored, ← fresh.own]
      exact Dict.get?_set.trans (if_pos rfl)
    · rintro (st | st) <;> rcases fresh.fresh with st' | st' <;> rw [st] at st' <;> cases st'
  | @recordDecision r np approval events _ _ done =>
    refine commit_claims quiet done (fun a run => .inr ?_) found claimed
    obtain ⟨rec, _, ready⟩ := call
    obtain ⟨_, _, _, decided, stored⟩ := InMemoryStore.recordDecision_ok run
    refine ⟨a, ?_, ?_⟩
    · rw [stored]
      exact get_put
    · have st : a.status = r.target := by
        rw [decided]
        exact congrArg (·.val.status) ready.proposal
      unfold RemediationRecord.claimed
      rw [st]
      unfold DecideRequest.target
      split <;> simp
  | beginExecution done | beginVerification done =>
    exact commit_claims quiet done (fun _ _ => .inl rfl) found claimed
  | @finishExecution r result final events _ _ done =>
    refine commit_claims quiet done (fun a run => .inr ?_) found claimed
    obtain ⟨begun, _, _, ends⟩ := call
    obtain ⟨_, _, _, _, updated, stored⟩ :=
      @InMemoryStore.finishExecution_ok _ _ (newExecutionId r.token) _ _ _ _ _ run
    refine ⟨a, ?_, ?_⟩
    · rw [stored]
      exact @get_put _ _ events _
    · have st : a.status = final := by
        rw [updated]
        rfl
      unfold RemediationRecord.claimed
      rw [st]
      rcases ends with ⟨rfl, _⟩ | ⟨rfl, _⟩ <;> simp
  | @finishVerification r result final events _ _ done =>
    refine commit_claims quiet done (fun a run => .inr ?_) found claimed
    obtain ⟨begun, _, _, _, ends⟩ := call
    obtain ⟨_, _, _, _, updated, stored⟩ :=
      @InMemoryStore.finishVerification_ok _ _ (newVerificationId r.token) _ _ _ _ _ run
    refine ⟨a, ?_, ?_⟩
    · rw [stored]
      exact @get_put _ _ events _
    · have st : a.status = final := by
        rw [updated]
        rfl
      unfold RemediationRecord.claimed
      rw [st]
      rcases ends with ⟨rfl, _⟩ | ⟨rfl, _⟩ <;> simp

/-- The storage of a matching step fails after no step that the original did not fail after. -/
lemma Matched.quiet {i env env'} (h : Matched (.advance i env) (.advance i env'))
    (quiet : env.storage = none) : ∀ e, env'.storage ≠ some (.after e) := by
  intro e he
  rcases h with same | ⟨_, _, x, _, same⟩
  · cases same
    rw [quiet] at he
    cases he
  · cases same
    cases he

/-- Every step of a healthy run whose executors and verifiers answer leaves no claim without its
call. -/
lemma Owned.step {w' : World b.Store} {l} (owned : Owned b w) (reach : (b.service cfg).Reachable w)
    (st : (b.service cfg).step w l = some w') (healthy : Healthy b w l w')
    (settles : Settles b w l w') : Owned b w' := by
  intro rid rec' look claimed
  obtain ⟨v, rel, inv, _⟩ := Backend.related_of_reachable reach
  obtain ⟨k, v', matched, stV, rel'⟩ := rel.step inv st
  have moved : Remediation.step cfg InMemoryStore.repository v k = some v' := stV
  have abs := rel.abstracts inv
  have abs' := rel'.abstracts (inv.step moved)
  have found' : v'.store.get rid = some rec' := Except.ok.inj ((abs'.lookup rid).symm.trans look)
  have owner : v'.store.get rid = v.store.get rid →
      ∃ (i : Nat) (c : Call), v.calls[i]? = some c ∧ c.request.target = rid ∧
        c.phase.holdsClaim = true := by
    intro same
    rw [← abs.calls]
    exact owned rid rec' ((abs.lookup rid).trans (by rw [← same, found'])) claimed
  rw [abs'.calls]
  rcases step_cases moved with ⟨r, rfl, rfl⟩ | ⟨j, env, c, out, rfl, hc, ho, rfl⟩
  · obtain ⟨i, c, hc, target, holds⟩ := owner rfl
    refine ⟨i, c, ?_, target, holds⟩
    rw [List.getElem?_append_left]
    · exact hc
    · rw [List.getElem?_eq_some_iff] at hc
      exact hc.1
  · obtain ⟨env0, rfl⟩ := matched.advance rfl
    have there := hc
    rw [List.getElem?_eq_some_iff] at there
    have call := inv.calls j c hc
    have hcW : w.calls[j]? = some c := abs.calls ▸ hc
    -- the call that moves keeps a claim it has, since its remediation is not settled
    have kept : c.phase.holdsClaim = true → c.request.target = rid →
        out.phase.holdsClaim = true := by
      intro holds target
      obtain ⟨ph, next, _, settled⟩ := settles j env0 c rfl hcW holds
      rw [abs'.calls] at next
      change (v.calls.set j _)[j]? = _ at next
      rw [List.getElem?_set_self there.1] at next
      have same : out.phase = ph := congrArg Call.phase (Option.some.inj next)
      by_contra free
      rw [Bool.not_eq_true, ← Phase.remaining_eq_zero, same] at free
      exact (settled free).unclaimed (call.claimant holds) (target ▸ look) claimed
    by_cases same : out.store.get rid = v.store.get rid
    · obtain ⟨i, d, hd, target, holds⟩ := owner same
      by_cases ij : j = i
      · subst ij
        cases hc.symm.trans hd
        exact ⟨j, _, List.getElem?_set_self there.1, target, kept holds target⟩
      · refine ⟨i, d, ?_, target, holds⟩
        rw [List.getElem?_set_ne ij]
        exact hd
    · obtain ⟨target, _⟩ := (stepCall_ok inv.store call ho).frame rid same
      have quiet := matched.quiet (healthy j env0 rfl).1
      rcases stepCall_claims call quiet ho (target ▸ found') claimed with unchanged | holds
      · exact absurd (congrArg (InMemoryStore.get · rid) unchanged) same
      · exact ⟨j, _, List.getElem?_set_self there.1, target.symm, holds⟩

end

/-- Whether a step is healthy. -/
def healthyTest (b : Backend) (w : World b.Store) : Label → Bool
  | .call _ => true
  | .advance i env => env.storage.isNone && w.calls[i]?.all fun c =>
    c.phase.events.all fun e => decide (e.val.auditId ∉ b.auditIds w.store)

/-- A step that passes the test is healthy. -/
lemma healthy_of_test {b : Backend} {w w' : World b.Store} {l} (h : healthyTest b w l = true) :
    Healthy b w l w' := by
  rintro i env rfl
  obtain ⟨quiet, fresh⟩ := (Bool.and_eq_true _ _).mp h
  refine ⟨Option.isNone_iff_eq_none.mp quiet, ?_⟩
  intro c hc e he
  rw [hc] at fresh
  exact of_decide_eq_true (List.all_eq_true.mp fresh e he)

/-- Whether the executor call of a step answers. -/
def answersTest (w : World InMemoryStore) : Label → Bool
  | .call _ => true
  | .advance i env => w.calls[i]?.all fun c =>
    match c.request, c.phase with
    | .execute r, .executing begun _ =>
      match executorAnswer r begun env w.sim with
      | .ok _ => true
      | .error e => decide (e.cls = .executor)
    | .verifyRecovery _, .verifying _ _ => false
    | _, _ => true

/-- A step that passes the test is answered. -/
lemma answered_of_test {w w' : World InMemoryStore} {l} (h : answersTest w l = true) :
    Answered cfg .inMemory w l w' := by
  rintro i env c rfl hc
  unfold answersTest at h
  dsimp only at h
  rw [hc] at h
  obtain ⟨req, ph⟩ := c
  cases req with
  | execute r =>
    cases ph with
    | executing begun pending =>
      intro e answer
      change (match executorAnswer r begun env w.sim with
        | .ok _ => true
        | .error e => decide (e.cls = .executor)) = true at h
      rw [answer] at h
      exact of_decide_eq_true h
    | _ => exact trivial
  | verifyRecovery r =>
    cases ph with
    | verifying begun pending => cases h
    | _ => exact trivial
  | propose r => exact trivial
  | decide r => exact trivial

/-- A restart is proposed, approved and claimed, and the executor ends with the given exception. -/
def restartWith (e : Error) : List Label :=
  alone 0 (proposeRestart "inc_000000000000000a" 0 0) 2 ++ alone 1 (decideOn 0 .approve 10) 2 ++
    alone 2 (executeOn 0 false 20) 2 ++ [.advance 2 { executor := .raises e .empty }]

/-- The restart is executed and its verification begun. -/
def restartInHaste : List Label :=
  alone 0 (proposeRestart "inc_000000000000000a" 0 0) 2 ++ alone 1 (decideOn 0 .approve 10) 2 ++
    alone 2 (executeOn 0 false 20) 4 ++ alone 3 (verifyOn 0 30) 3

/-- A configuration whose poll interval is too small for the number of polls to be a float. -/
def hastyConfig : ServiceConfig where
  verification := ⟨{ pollIntervalSeconds := .fin (1 / 10 ^ 310) }, by decide +kernel⟩
  isWord := asciiConfig.isWord

/-- The restart is in the given status and no call holds a claim. -/
def abandoned (status : RemediationStatus) (w : World InMemoryStore) : Bool :=
  decide (Backend.inMemory.statusOf w.store "rem_0000000000000000" = some status) &&
    w.calls.all fun c => !c.phase.holdsClaim

/-- An abandoned claim has no owner. -/
lemma not_owned {w : World InMemoryStore} {status} (h : abandoned status w = true)
    (claimed : status = .executing ∨ status = .verifying) : ¬ Owned .inMemory w := by
  obtain ⟨st, free⟩ := (Bool.and_eq_true _ _).mp h
  obtain ⟨rec, found, st⟩ := Backend.statusOf_eq_some (of_decide_eq_true st)
  intro owned
  obtain ⟨i, c, hc, _, holds⟩ := owned _ rec found (st ▸ claimed)
  have none' := List.all_eq_true.mp free c (List.mem_of_getElem? hc)
  rw [holds] at none'
  cases none'

set_option maxRecDepth 10000 in
/-- The executor's exception leaves the restart abandoned. -/
lemma restartWith_states : (Backend.inMemory.service asciiConfig).check (healthyTest .inMemory)
    (abandoned .executing) (emptyWorld .inMemory) (restartWith ⟨.other, "RuntimeError"⟩) = true := by
  decide +kernel

set_option maxRecDepth 10000 in
/-- The verifier's exception leaves the restart abandoned. -/
lemma restartInHaste_states : (Backend.inMemory.service hastyConfig).check (healthyTest .inMemory)
    (abandoned .verifying) (emptyWorld .inMemory) restartInHaste = true := by
  decide +kernel

/-- The restart whose executor raises an `ExecutorError`, up to the end of its call. -/
def failingRestart : List Label := restartWith ⟨.executor, "no route to host"⟩ ++ [.advance 2 {}]

set_option maxRecDepth 10000 in
/-- The failing restart ends in `EXECUTION_FAILED`. -/
lemma failingRestart_states : (Backend.inMemory.service asciiConfig).check
    (fun w l => healthyTest .inMemory w l && answersTest w l)
    (fun w => decide (Backend.inMemory.statusOf w.store "rem_0000000000000000" = some .executionFailed))
    (emptyWorld .inMemory) failingRestart = true := by
  decide +kernel

end SentinelOps.Remediation
