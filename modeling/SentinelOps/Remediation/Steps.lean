import SentinelOps.Remediation.Service

/-!
# What each step of a call computes

One lemma for each piece of local computation between two repository calls: from the phase it leads
to, everything that was checked on the way and everything the next repository call will be given.
The developments over the service cite these and never unfold a step again.
-/

namespace SentinelOps.Remediation

variable {σ : Type} {cfg : ServiceConfig} {repo : Repository σ}

/-- A read that succeeded had no fault. -/
lemma readStorage_ok {α : Type} {fault} {read : Except Error α} {a}
    (h : readStorage fault read = .ok a) : fault = none ∧ read = .ok a := by
  unfold readStorage at h
  split at h
  · cases h
  · cases h
  · exact ⟨rfl, h⟩

/-- What a transaction leaves: either the store is untouched and the call sees an error, or the
transaction took effect. -/
lemma commit_cases {α : Type} {fault} {store store' : σ} {run : Except Error (σ × α)} {out}
    (h : commit fault store run = (store', out)) :
    (store' = store ∧ ∃ e, out = .error e) ∨
      ∃ a, run = .ok (store', a) ∧ (out = .ok a ∨ ∃ e, out = .error e) := by
  unfold commit at h
  split at h
  · cases h
    exact .inl ⟨rfl, _, rfl⟩
  · cases h
    exact .inl ⟨rfl, _, rfl⟩
  · cases h
    exact .inr ⟨_, rfl, .inr ⟨_, rfl⟩⟩
  · cases h
    exact .inr ⟨_, rfl, .inl rfl⟩

/-- A call that settles in a phase other than a raise had succeeded. -/
lemma settle_cases {α : Type} {f : α → Phase} {x : Except Error α} {p} (h : settle f x = p) :
    (∃ a, x = .ok a ∧ f a = p) ∨ ∃ e, x = .error e ∧ p = .raised e := by
  cases x with
  | ok a => exact .inl ⟨a, rfl, h⟩
  | error e => exact .inr ⟨e, rfl, h.symm⟩

/-- The arguments `propose` maps its recommendation with. -/
def ProposeRequest.args (cfg : ServiceConfig) (r : ProposeRequest) : MappingArgs where
  incidentId := r.incidentId
  investigationId := r.investigationId
  incidentSeverity := r.incidentSeverity
  targetEnvironment := r.targetEnvironment
  proposedBy := r.proposedBy
  now := r.now
  ttl := cfg.ttl
  token := r.token

/-- The policy decision of a proposal in the light of a history. -/
def ProposeRequest.decision (cfg : ServiceConfig) (r : ProposeRequest)
    (proposal : RemediationProposal) (history : RemediationHistorySnapshot) : PolicyDecision :=
  evaluate cfg.policy proposal { now := r.now, incidentSeverity := r.incidentSeverity, history }

/-- The record a proposal becomes in the light of a history. -/
def ProposeRequest.record (cfg : ServiceConfig) (r : ProposeRequest)
    (proposal : RemediationProposal) (history : RemediationHistorySnapshot) :
    RemediationRecord where
  proposal := proposal.withStatus
    (if (r.decision cfg proposal history).outcome = .allow then .pendingApproval else .blocked)
  policyDecision := r.decision cfg proposal history

/-- `propose` up to its `create`. -/
lemma proposeStart_ok {r fault store p} (h : proposeStart cfg repo r fault store = .ok p) :
    ∃ proposal history events, proposalFromRca r.recommendation (r.args cfg) = .ok (.proposal proposal) ∧
      repo.historySnapshot store proposal.key = .ok history ∧
      p = .creating (r.record cfg proposal history) events := by
  unfold proposeStart at h
  obtain ⟨mapped, hm, h⟩ := Except.bind_eq_ok.mp h
  cases mapped with
  | blocked b => cases h
  | proposal proposal =>
    obtain ⟨history, hread, h⟩ := Except.bind_eq_ok.mp h
    obtain ⟨advanced, hadv, h⟩ := Except.bind_eq_ok.mp h
    obtain ⟨created, _, h⟩ := Except.bind_eq_ok.mp h
    obtain ⟨evaluated, _, h⟩ := Except.bind_eq_ok.mp h
    obtain ⟨blocked, _, h⟩ := Except.bind_eq_ok.mp h
    cases h
    rw [applyPolicyDecision_proposed (proposalFromRca_status hm)] at hadv
    cases hadv
    exact ⟨proposal, history, _, hm, (readStorage_ok hread).2, rfl⟩

/-- A record that was read is the stored one. -/
lemma readRecord_ok {rid fault store record} (h : readRecord repo rid fault store = .ok record) :
    repo.get store rid = .ok (some record) := by
  unfold readRecord at h
  obtain ⟨found, hread, h⟩ := Except.bind_eq_ok.mp h
  cases found with
  | none => cases h
  | some rec =>
    cases h
    exact (readStorage_ok hread).2

/-- What `_check_decidable` checks. -/
lemma checkDecidable_ok {record decision role now u}
    (h : checkDecidable record decision role now = .ok u) :
    record.approval = none ∧ record.status = .pendingApproval ∧
      record.policyDecision.outcome = .allow ∧ now < record.proposal.val.expiresAt ∧
      (decision = .approve → canApprove role record.proposal.val.actionType = true) := by
  unfold checkDecidable at h
  obtain ⟨_, h1, h⟩ := Except.bind_eq_ok.mp h
  obtain ⟨_, h2, h⟩ := Except.bind_eq_ok.mp h
  obtain ⟨_, h3, h⟩ := Except.bind_eq_ok.mp h
  obtain ⟨_, h4, h⟩ := Except.bind_eq_ok.mp h
  rw [ensure_eq_ok, Option.isNone_iff_eq_none] at h1
  rw [ensure_eq_ok] at h2 h3 h4 h
  exact ⟨h1, h2, h3, h4, h⟩

/-- The approval `decide` records. -/
def DecideRequest.approvalFields (r : DecideRequest) : ApprovalFields where
  approvalId := newApprovalId r.token
  remediationId := r.remediationId
  decision := r.decision
  approverIdentity := r.approverIdentity
  approverRole := r.approverRole
  reason := r.reason
  decidedAt := r.now

/-- The status a decision leads to. -/
def DecideRequest.target (r : DecideRequest) : RemediationStatus :=
  if r.decision = .approve then .approved else .rejected

/-- `decide` up to its `record_decision`. -/
lemma decideStart_ok {r fault store p} (h : decideStart cfg repo r fault store = .ok p) :
    ∃ current approval events, repo.get store r.remediationId = .ok (some current) ∧
      checkDecidable current r.decision r.approverRole r.now = .ok () ∧
      approval.val = r.approvalFields ∧
      p = .deciding (current.proposal.withStatus r.target) approval events := by
  unfold decideStart at h
  obtain ⟨current, hread, h⟩ := Except.bind_eq_ok.mp h
  obtain ⟨_, hcheck, h⟩ := Except.bind_eq_ok.mp h
  obtain ⟨_, _, h⟩ := Except.bind_eq_ok.mp h
  obtain ⟨approval, happ, h⟩ := Except.bind_eq_ok.mp h
  obtain ⟨decided, _, h⟩ := Except.bind_eq_ok.mp h
  cases h
  rw [constructOr_eq_ok] at happ
  exact ⟨current, approval, [decided], readRecord_ok hread, hcheck, happ.symm, rfl⟩

/-- What `_check_executable` checks. -/
lemma checkExecutable_ok {record now u} (h : checkExecutable record now = .ok u) :
    record.status = .approved ∧ now < record.proposal.val.expiresAt ∧
      ∃ b, record.approval = some b ∧ b.val.remediationId = record.remediationId ∧
        b.val.decision = .approve := by
  unfold checkExecutable at h
  obtain ⟨_, h1, h⟩ := Except.bind_eq_ok.mp h
  obtain ⟨_, h2, h⟩ := Except.bind_eq_ok.mp h
  obtain ⟨_, _, h⟩ := Except.bind_eq_ok.mp h
  obtain ⟨_, _, h⟩ := Except.bind_eq_ok.mp h
  obtain ⟨_, _, h⟩ := Except.bind_eq_ok.mp h
  rw [ensure_eq_ok] at h1 h
  exact ⟨h1, h, (authorizeExecution_ok h2).2⟩

/-- A real `execute` up to its `begin_execution`. -/
lemma executeStart_ok {r record p} (h : executeStart r record = .ok p) :
    ∃ events, p = .claimingExecution (pendingExecution r record.proposal) events := by
  unfold executeStart at h
  obtain ⟨requested, _, h⟩ := Except.bind_eq_ok.mp h
  obtain ⟨started, _, h⟩ := Except.bind_eq_ok.mp h
  cases h
  exact ⟨_, rfl⟩

/-- The pending result of an execution does not depend on the status of the proposal. -/
@[simp] lemma pendingExecution_withStatus {r p s} :
    pendingExecution r (RemediationProposal.withStatus p s) = pendingExecution r p := rfl

/-- What the first step of an `execute` call leads to. -/
lemma stepExecuteStart_cases {r : ExecuteRequest} {env} {w : World σ} {out}
    (h : stepExecuteStart repo r env w = out) :
    out.store = w.store ∧ out.sim = w.sim ∧ out.invoked ≠ some false ∧
      ((∃ e, out.phase = .raised e) ∨
      (r.dryRun = true ∧ ∃ record result, out.phase = .returned (.execution record result)) ∨
      (r.dryRun = false ∧ ∃ record events, repo.get w.store r.remediationId = .ok (some record) ∧
        checkExecutable record r.now = .ok () ∧
        out.phase = .claimingExecution (pendingExecution r record.proposal) events)) := by
  unfold stepExecuteStart at h
  dsimp only at h
  split at h
  · subst h
    exact ⟨rfl, rfl, by simp, .inl ⟨_, rfl⟩⟩
  · rename_i record checked
    obtain ⟨rec, hread, checked⟩ := Except.bind_eq_ok.mp checked
    obtain ⟨_, hcheck, checked⟩ := Except.bind_eq_ok.mp checked
    cases checked
    split at h
    · rename_i dry
      split at h
      · rename_i result sim hdry
        subst h
        refine ⟨rfl, ?_, by simp, .inr (.inl ⟨dry, record, result, rfl⟩)⟩
        unfold dryRun at hdry
        split at hdry
        · exact execute_dryRun_state hdry
        · cases hdry
      · subst h
        exact ⟨rfl, rfl, by simp, .inl ⟨_, rfl⟩⟩
    · rename_i real
      subst h
      refine ⟨rfl, rfl, by simp, ?_⟩
      rcases settle_cases (rfl : settle id (executeStart r record) = _) with ⟨p, hp, e⟩ | ⟨e, _, he⟩
      · obtain ⟨events, rfl⟩ := executeStart_ok hp
        exact .inr (.inr ⟨by simpa using real, record, events, readRecord_ok hread, hcheck, e.symm⟩)
      · exact .inl ⟨e, he⟩

/-- What one step of a call is: its first step, a transaction of the repository, or a run of the
executor or of the verifier. -/
inductive CallStepped (cfg : ServiceConfig) (repo : Repository σ) (env : Env) (w : World σ) :
    Request → Phase → StepResult σ → Prop
  | propose {r} : CallStepped cfg repo env w (.propose r) .started
    { store := w.store, sim := w.sim
      phase := settle id (proposeStart cfg repo r env.storage w.store) }
  | decide {r} : CallStepped cfg repo env w (.decide r) .started
    { store := w.store, sim := w.sim
      phase := settle id (decideStart cfg repo r env.storage w.store) }
  | execute {r} : CallStepped cfg repo env w (.execute r) .started (stepExecuteStart repo r env w)
  | verifyRecovery {r} : CallStepped cfg repo env w (.verifyRecovery r) .started
    { store := w.store, sim := w.sim
      phase := settle id (verifyStart cfg repo r env.storage w.store) }
  | create {r record events store out}
    (done : commit env.storage w.store (repo.create w.store record events) = (store, out)) :
    CallStepped cfg repo env w (.propose r) (.creating record events)
      { store, sim := w.sim, phase := settle (fun rec => .returned (.record rec)) out }
  | recordDecision {r newProposal approval events store out}
    (done : commit env.storage w.store
      (repo.recordDecision w.store r.remediationId newProposal approval events) = (store, out)) :
    CallStepped cfg repo env w (.decide r) (.deciding newProposal approval events)
      { store, sim := w.sim, phase := settle (fun rec => .returned (.record rec)) out }
  | beginExecution {r pending events store out}
    (done : commit env.storage w.store
      (repo.beginExecution w.store r.remediationId pending events) = (store, out)) :
    CallStepped cfg repo env w (.execute r) (.claimingExecution pending events)
      { store, sim := w.sim, phase := settle (fun begun => .executing begun pending) out }
  | executor {r begun pending sim out}
    (done : invokeExecutor r begun pending env w.sim = (sim, out)) :
    CallStepped cfg repo env w (.execute r) (.executing begun pending)
      { store := w.store, sim, invoked := some false
        phase := settle id (out >>= fun x => executeFinish cfg r begun x.1 x.2) }
  | finishExecution {r result final events store out}
    (done : commit env.storage w.store (repo.finishExecution w.store r.remediationId
      (newExecutionId r.token) result final events) = (store, out)) :
    CallStepped cfg repo env w (.execute r) (.completingExecution result final events)
      { store, sim := w.sim, phase := settle (fun rec => .returned (.execution rec result)) out }
  | beginVerification {r pending events store out}
    (done : commit env.storage w.store
      (repo.beginVerification w.store r.remediationId pending events) = (store, out)) :
    CallStepped cfg repo env w (.verifyRecovery r) (.claimingVerification pending events)
      { store, sim := w.sim, phase := settle (fun begun => .verifying begun pending) out }
  | verifier {r begun pending} : CallStepped cfg repo env w (.verifyRecovery r)
    (.verifying begun pending)
    { store := w.store, sim := w.sim
      phase := settle id
        (verifierRun cfg r begun env w.sim >>= verifyFinish cfg r begun pending) }
  | finishVerification {r result final events store out}
    (done : commit env.storage w.store (repo.finishVerification w.store r.remediationId
      (newVerificationId r.token) result final events) = (store, out)) :
    CallStepped cfg repo env w (.verifyRecovery r) (.completingVerification result final events)
      { store, sim := w.sim
        phase := settle (fun rec => .returned (.verification rec result false)) out }

/-- Every step of a call is one of these. -/
lemma stepCall_stepped {env} {w : World σ} {req ph out}
    (e : stepCall cfg repo env w req ph = some out) : CallStepped cfg repo env w req ph out := by
  unfold stepCall at e
  split at e
  · cases e
    exact .propose
  · cases e
    exact .decide
  · cases e
    exact .execute
  · cases e
    exact .verifyRecovery
  · cases e
    exact .create rfl
  · cases e
    exact .recordDecision rfl
  · cases e
    exact .beginExecution rfl
  · cases e
    exact .executor rfl
  · cases e
    exact .finishExecution rfl
  · cases e
    exact .beginVerification rfl
  · cases e
    exact .verifier
  · cases e
    exact .finishVerification rfl
  · cases e

/-- The repository call that a phase was waiting to make took effect, and returned a record. -/
inductive Written (repo : Repository σ) (s s' : σ) (a : RemediationRecord) : Request → Phase → Prop
  | create {r record events} (run : repo.create s record events = .ok (s', a)) :
    Written repo s s' a (.propose r) (.creating record events)
  | recordDecision {r newProposal approval events}
    (run : repo.recordDecision s r.remediationId newProposal approval events = .ok (s', a)) :
    Written repo s s' a (.decide r) (.deciding newProposal approval events)
  | beginExecution {r pending events}
    (run : repo.beginExecution s r.remediationId pending events = .ok (s', a)) :
    Written repo s s' a (.execute r) (.claimingExecution pending events)
  | finishExecution {r result final events}
    (run : repo.finishExecution s r.remediationId (newExecutionId r.token) result final events =
      .ok (s', a)) :
    Written repo s s' a (.execute r) (.completingExecution result final events)
  | beginVerification {r pending events}
    (run : repo.beginVerification s r.remediationId pending events = .ok (s', a)) :
    Written repo s s' a (.verifyRecovery r) (.claimingVerification pending events)
  | finishVerification {r result final events}
    (run : repo.finishVerification s r.remediationId (newVerificationId r.token) result final
      events = .ok (s', a)) :
    Written repo s s' a (.verifyRecovery r) (.completingVerification result final events)

/-- A step of a call leaves the store as it is, or the repository call of its phase took effect. -/
lemma stepCall_store {env} {w : World σ} {req ph out}
    (e : stepCall cfg repo env w req ph = some out) :
    out.store = w.store ∨ ∃ a, Written repo w.store out.store a req ph := by
  have committed : ∀ {run : Except Error (σ × RemediationRecord)} {store res},
      commit env.storage w.store run = (store, res) → store = w.store ∨ ∃ a, run = .ok (store, a) := by
    intro run store res done
    rcases commit_cases done with ⟨same, _⟩ | ⟨a, done, _⟩
    · exact .inl same
    · exact .inr ⟨a, done⟩
  cases stepCall_stepped e with
  | propose | decide | verifyRecovery | executor | verifier => exact .inl rfl
  | execute => exact .inl (stepExecuteStart_cases rfl).1
  | create done => exact (committed done).imp id (Exists.imp fun _ => .create)
  | recordDecision done => exact (committed done).imp id (Exists.imp fun _ => .recordDecision)
  | beginExecution done => exact (committed done).imp id (Exists.imp fun _ => .beginExecution)
  | finishExecution done => exact (committed done).imp id (Exists.imp fun _ => .finishExecution)
  | beginVerification done => exact (committed done).imp id (Exists.imp fun _ => .beginVerification)
  | finishVerification done =>
    exact (committed done).imp id (Exists.imp fun _ => .finishVerification)

/-- A call that wrote to the dictionaries created the record of its `propose`, or replaced the record
it names, with another decision only when it was deciding. -/
lemma Written.get {m m' : InMemoryStore} {a req ph}
    (h : Written InMemoryStore.repository m m' a req ph) :
    (∃ r events, req = .propose r ∧ ph = .creating a events ∧ m.get a.remediationId = none ∧
      ∀ rid, m'.get rid = if rid = a.remediationId then some a else m.get rid) ∨
    ∃ old, m.get req.target = some old ∧
      (∀ rid, m'.get rid = if rid = req.target then some a else m.get rid) ∧
      (a.approval = old.approval ∨ ∃ np ap events, ph = .deciding np ap events) := by
  cases h with
  | create run =>
    obtain ⟨absent, rfl, rfl⟩ := InMemoryStore.create_ok run
    exact .inl ⟨_, _, rfl, rfl, absent, fun _ => Dict.get?_set⟩
  | recordDecision run =>
    obtain ⟨old, found, _, _, rfl⟩ := InMemoryStore.recordDecision_ok run
    exact .inr ⟨old, found, fun _ => Dict.get?_set, .inr ⟨_, _, _, rfl⟩⟩
  | beginExecution run =>
    obtain ⟨old, found, _, _, rfl, rfl⟩ := InMemoryStore.beginExecution_ok run
    exact .inr ⟨old, found, fun _ => Dict.get?_set, .inl rfl⟩
  | @finishExecution r _ _ _ run =>
    obtain ⟨old, found, _, _, rfl, rfl⟩ :=
      @InMemoryStore.finishExecution_ok _ _ (newExecutionId r.token) _ _ _ _ _ run
    exact .inr ⟨old, found, fun _ => Dict.get?_set, .inl rfl⟩
  | beginVerification run =>
    obtain ⟨old, found, _, _, rfl, rfl⟩ := InMemoryStore.beginVerification_ok run
    exact .inr ⟨old, found, fun _ => Dict.get?_set, .inl rfl⟩
  | @finishVerification r _ _ _ run =>
    obtain ⟨old, found, _, _, rfl, rfl⟩ :=
      @InMemoryStore.finishVerification_ok _ _ (newVerificationId r.token) _ _ _ _ _ run
    exact .inr ⟨old, found, fun _ => Dict.get?_set, .inl rfl⟩

/-- What the service takes a real executor call for: a result of the begun execution, successful
exactly when the remediation is to become `EXECUTED`. -/
lemma invokeExecutor_ok {r begun env sim sim' result final}
    (own : begun.remediationId = r.remediationId)
    (h : invokeExecutor r begun (pendingExecution r begun.proposal) env sim =
      (sim', .ok (result, final))) :
    FinishesExecution (pendingExecution r begun.proposal) result ∧
      ((final = .executed ∧ result.val.status = .succeeded) ∨
        (final = .executionFailed ∧ result.val.status = .failed)) := by
  have failed : ∀ left e, ((if e.cls = .executor then
      (left, .ok (failedExecution (pendingExecution r begun.proposal) e env.clock, .executionFailed))
      else (left, .error e)) : SimulationState × Except Error (ExecutionResult × RemediationStatus)) =
        (sim', .ok (result, final)) →
      FinishesExecution (pendingExecution r begun.proposal) result ∧
        ((final = .executed ∧ result.val.status = .succeeded) ∨
          (final = .executionFailed ∧ result.val.status = .failed)) := by
    intro left e h
    split at h
    · cases h
      exact ⟨rfl, .inr ⟨rfl, rfl⟩⟩
    · cases h
  unfold invokeExecutor at h
  dsimp only at h
  split at h
  · exact failed _ _ h
  · split at h
    · rename_i res sim1 hexec
      cases h
      unfold execute at hexec
      obtain ⟨params, _, hexec⟩ := Except.bind_eq_ok.mp hexec
      obtain ⟨⟨plan, applied⟩, _, hexec⟩ := Except.bind_eq_ok.mp hexec
      cases hexec
      refine ⟨?_, .inl ⟨rfl, rfl⟩⟩
      have own' : begun.proposal.val.remediationId = r.remediationId := own
      simp [FinishesExecution, simulationResult, pendingExecution, own']
    · exact failed _ _ h

/-- `execute` between the executor call and its `finish_execution`. -/
lemma executeFinish_ok {r begun result final p}
    (h : executeFinish cfg r begun result final = .ok p) :
    ∃ events, p = .completingExecution result final events := by
  unfold executeFinish at h
  obtain ⟨finished, _, h⟩ := Except.bind_eq_ok.mp h
  cases h
  exact ⟨_, rfl⟩

/-- `verify_recovery` up to its `begin_verification`, or a replay. -/
lemma verifyStart_ok {r fault store p} (h : verifyStart cfg repo r fault store = .ok p) :
    ∃ record, repo.get store r.remediationId = .ok (some record) ∧
      ((∃ v, record.verification = some v ∧ p = .returned (.verification record v true)) ∨
      ∃ execution events, record.status = .executed ∧ record.execution = some execution ∧
        p = .claimingVerification (pendingVerification cfg r execution.val.executionId) events) := by
  unfold verifyStart at h
  obtain ⟨record, hread, h⟩ := Except.bind_eq_ok.mp h
  refine ⟨record, readRecord_ok hread, ?_⟩
  split at h
  · cases hv : record.verification with
    | none =>
      rw [hv] at h
      cases h
    | some v =>
      rw [hv] at h
      cases h
      exact .inl ⟨v, rfl, rfl⟩
  · obtain ⟨_, _, h⟩ := Except.bind_eq_ok.mp h
    obtain ⟨_, hcheck, h⟩ := Except.bind_eq_ok.mp h
    unfold checkVerifiable at hcheck
    obtain ⟨_, h1, _⟩ := Except.bind_eq_ok.mp hcheck
    rw [ensure_eq_ok] at h1
    cases he : record.execution with
    | none =>
      rw [he] at h
      cases h
    | some execution =>
      rw [he] at h
      obtain ⟨started, _, h⟩ := Except.bind_eq_ok.mp h
      cases h
      exact .inr ⟨execution, _, h1, rfl, rfl⟩

/-- `verify_recovery` between the verifier run and its `finish_verification`: a result of the begun
verification, recovered exactly when the remediation is to become `RECOVERED`. -/
lemma verifyFinish_ok {r begun pending p} {outcome : RecoveryOutcome} (sound : outcome.Sound)
    (own : pending.val.verifierType = verifierTypeLocal ∧
      pending.val.verifierVersion = verifierVersion)
    (h : verifyFinish cfg r begun pending outcome = .ok p) :
    ∃ result final events, p = .completingVerification result final events ∧
      FinishesVerification pending result ∧
      ((final = .recovered ∧ result.val.status = .recovered) ∨
        (final = .recoveryFailed ∧ result.val.status = .recoveryFailed)) := by
  unfold verifyFinish at h
  obtain ⟨result, hres, h⟩ := Except.bind_eq_ok.mp h
  obtain ⟨finished, _, h⟩ := Except.bind_eq_ok.mp h
  cases h
  rw [constructOr_eq_ok] at hres
  refine ⟨result, _, _, rfl, ?_, ?_⟩
  · unfold FinishesVerification
    rw [← hres]
    simp only [verificationFields, sound.verifier.1, sound.verifier.2, own.1, own.2]
  · rw [← hres]
    simp only [verificationFields, RecoveryOutcome.finalStatus, RecoveryOutcome.recovered]
    rcases sound.terminal with e | e
    · exact .inl ⟨by simp [e], e⟩
    · exact .inr ⟨by simp [e], e⟩

/-- The verifier run of a begun verification ends with a sound outcome, when it ends. -/
lemma verifierRun_sound {r begun env sim outcome} (h : verifierRun cfg r begun env sim = .ok outcome) :
    outcome.Sound :=
  verify_sound h

end SentinelOps.Remediation
