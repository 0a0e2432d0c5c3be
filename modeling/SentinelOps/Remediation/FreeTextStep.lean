import SentinelOps.Remediation.FreeText

/-!
# A step of the service over the same free text

Every call of the service, started or resumed over related stores (`SameWorld`), takes the same
branch and reaches the same place: what differs afterwards is again free text only. The repository
is any one that respects free text (`Repository.Respects`).
-/

namespace SentinelOps.Remediation

variable {cfg : ServiceConfig} {p q : RemediationProposal} {x y : RemediationRecord}

/-- The same record with another reason and other evidence. -/
lemma SameRecord.eq_mk (h : SameRecord x y) : ∃ reason evidence valid,
    y = { x with
      proposal := ⟨{ x.proposal.val with reason := reason, evidenceReferences := evidence }, valid⟩ } := by
  obtain ⟨reason, evidence, valid, e⟩ := h.proposal.eq_mk
  refine ⟨reason, evidence, valid, ?_⟩
  obtain ⟨proposal, decision, approval, execution, verification⟩ := y
  cases e
  cases h.policyDecision
  cases h.approval
  cases h.execution
  cases h.verification
  rfl

namespace SameRecord

/-- Whether a decision is acceptable does not depend on free text. -/
lemma checkDecidable (h : SameRecord x y) {decision role now} :
    Remediation.checkDecidable y decision role now =
      Remediation.checkDecidable x decision role now := by
  obtain ⟨reason, evidence, valid, rfl⟩ := h.eq_mk
  rfl

/-- Whether a record may be executed does not depend on free text. -/
lemma checkExecutable (h : SameRecord x y) {now} :
    Remediation.checkExecutable y now = Remediation.checkExecutable x now := by
  obtain ⟨reason, evidence, valid, rfl⟩ := h.eq_mk
  rfl

/-- Whether a record may be verified does not depend on free text. -/
lemma checkVerifiable (h : SameRecord x y) :
    Remediation.checkVerifiable y = Remediation.checkVerifiable x := by
  obtain ⟨reason, evidence, valid, rfl⟩ := h.eq_mk
  rfl

/-- The claim of an execution does not depend on free text. -/
lemma executeStart (h : SameRecord x y) {r} :
    Except.Related SamePhase (Remediation.executeStart r x) (Remediation.executeStart r y) := by
  obtain ⟨reason, evidence, valid, rfl⟩ := h.eq_mk
  unfold Remediation.executeStart
  exact .bind_same fun _ => .bind_same fun _ => .ok .claimingExecution

/-- A dry run does not depend on free text. -/
lemma dryRun (h : SameRecord x y) {r behaviour sim} :
    Remediation.dryRun r y behaviour sim = Remediation.dryRun r x behaviour sim := by
  unfold Remediation.dryRun
  rw [h.proposal.execute]

/-- The executor and what the service makes of its answer do not depend on free text. -/
lemma invokeExecutor (h : SameRecord x y) {r pending env sim} :
    Remediation.invokeExecutor r y pending env sim =
      Remediation.invokeExecutor r x pending env sim := by
  unfold Remediation.invokeExecutor
  rw [h.proposal.execute]

/-- The record of a finished execution does not depend on free text. -/
lemma executeFinish (h : SameRecord x y) {r result final} :
    Except.Related SamePhase (Remediation.executeFinish cfg r x result final)
      (Remediation.executeFinish cfg r y result final) := by
  obtain ⟨reason, evidence, valid, rfl⟩ := h.eq_mk
  unfold Remediation.executeFinish
  exact .bind_same fun _ => .ok .completingExecution

/-- The verifier does not read free text. -/
lemma verifierRun (h : SameRecord x y) {r env sim} :
    Remediation.verifierRun cfg r y env sim = Remediation.verifierRun cfg r x env sim := by
  obtain ⟨reason, evidence, valid, rfl⟩ := h.eq_mk
  rfl

/-- The record of a finished verification does not depend on free text. -/
lemma verifyFinish (h : SameRecord x y) {r pending outcome} :
    Except.Related SamePhase (Remediation.verifyFinish cfg r x pending outcome)
      (Remediation.verifyFinish cfg r y pending outcome) := by
  obtain ⟨reason, evidence, valid, rfl⟩ := h.eq_mk
  unfold Remediation.verifyFinish
  exact .bind_same fun _ => .bind_same fun _ => .ok .completingVerification

end SameRecord

/-- The record of an evaluation does not quote free text of the recommendation. -/
lemma policyEvaluatedEvent_same (h : SameProposal p q) {isWord decision newState ctx} :
    policyEvaluatedEvent isWord q decision newState ctx =
      policyEvaluatedEvent isWord p decision newState ctx := by
  unfold policyEvaluatedEvent
  rw [h.eventFields]

/-- The record of a decision does not quote free text of the recommendation. -/
lemma decisionEvent_same (h : SameProposal p q) {isWord a previous ctx} :
    decisionEvent isWord q a previous ctx = decisionEvent isWord p a previous ctx := by
  unfold decisionEvent
  simp only [h.eventFields]

/-- The record of a begun verification does not quote free text. -/
lemma verificationStartedEvent_same (h : SameProposal p q) {vid eid ctx} :
    verificationStartedEvent q vid eid ctx = verificationStartedEvent p vid eid ctx := by
  unfold verificationStartedEvent
  rw [h.eventFields]

/-- A status does not depend on free text. -/
lemma SameProposal.status (h : SameProposal p q) : q.val.status = p.val.status := by
  obtain ⟨reason, evidence, valid, rfl⟩ := h.eq_mk
  rfl

/-- Same proposals walk along the same path. -/
lemma walk_same (h : SameProposal p q) {path} :
    Except.Related SameProposal (walk p path) (walk q path) := by
  induction path generalizing p q with
  | nil => exact .ok h
  | cons s path ih =>
    unfold walk
    rw [h.status]
    exact .bind_same fun _ => ih h.withStatus

/-- A policy decision is applied to same proposals in the same way. -/
lemma applyPolicyDecision_same (h : SameProposal p q) {decision} :
    Except.Related SameProposal (applyPolicyDecision p decision) (applyPolicyDecision q decision) := by
  unfold applyPolicyDecision
  rw [h.status]
  refine .bind_same fun _ => (walk_same h).bind fun p' q' h' => ?_
  rw [h'.status]
  exact .bind_same fun _ => .ok h'

/-- A proposal with the same intent. -/
lemma SameIntent.eq_mk (h : SameIntent p q) : ∃ rid reason evidence valid,
    q = ⟨{ p.val with
      remediationId := rid
      reason := reason
      evidenceReferences := evidence }, valid⟩ := by
  refine ⟨q.val.remediationId, q.val.reason, q.val.evidenceReferences, h ▸ q.valid, ?_⟩
  exact Validated.ext h

namespace SameIntent

/-- The key of the history does not include ids or free text. -/
lemma key (h : SameIntent p q) : q.key = p.key := by
  obtain ⟨rid, reason, evidence, valid, rfl⟩ := h.eq_mk
  rfl

/-- The policy does not read ids or free text. -/
lemma evaluate (h : SameIntent p q) {config ctx} :
    Remediation.evaluate config q ctx = Remediation.evaluate config p ctx := by
  obtain ⟨rid, reason, evidence, valid, rfl⟩ := h.eq_mk
  rfl

/-- The same intent has one status. -/
lemma status (h : SameIntent p q) : q.val.status = p.val.status := by
  obtain ⟨rid, reason, evidence, valid, rfl⟩ := h.eq_mk
  rfl

/-- The same intent moved to the same status. -/
lemma withStatus (h : SameIntent p q) {s} : SameIntent (p.withStatus s) (q.withStatus s) := by
  obtain ⟨rid, reason, evidence, valid, rfl⟩ := h.eq_mk
  rfl

end SameIntent

/-- A decision advances the same intent to the same status. -/
lemma applyPolicyDecision_intent (proposed : p.val.status = .proposed) (h : SameIntent p q)
    {decision} :
    Except.Related SameIntent (applyPolicyDecision p decision) (applyPolicyDecision q decision) := by
  rw [applyPolicyDecision_proposed proposed, applyPolicyDecision_proposed (h.status.trans proposed)]
  exact .ok h.withStatus

/-- A fresh id of an audit event is well formed. -/
lemma isAuditId_new {t} : isAuditId (newAuditId t) = true := matchesId_token

/-- The fields every audit event takes from a proposal, with other ids. -/
lemma eventFields_intent (h : SameIntent p q) {eventType actorType token} {ctx : AuditContext} :
    eventFields q eventType actorType { ctx with token := token } =
      { eventFields p eventType actorType ctx with
        auditId := newAuditId token
        remediationId := q.val.remediationId } := by
  obtain ⟨rid, reason, evidence, valid, rfl⟩ := h.eq_mk
  rfl

/-- Events that differ in their ids and in what they quote are built or refused alike. -/
lemma buildEvent_related {f : AuditFields} {aid rid reason metadata}
    (hf : isAuditId f.auditId = true) (ha : isAuditId aid = true) (rf : f.reason.length ≤ 1000)
    (rg : reason.length ≤ 1000) :
    Except.Related (fun _ _ => True) (buildEvent f)
      (buildEvent { f with
        auditId := aid
        remediationId := rid
        reason := reason
        metadata := metadata }) := by
  refine (constructOr_related ?_).mono fun _ _ _ => trivial
  simp only [Schema.Valid, hf, ha, rf, rg]

/-- The record of a creation is built or refused whatever the ids. -/
lemma proposalCreatedEvent_intent (h : SameIntent p q) (token : Token) {isWord} {ctx : AuditContext} :
    Except.Related (fun _ _ => True) (proposalCreatedEvent isWord p ctx)
      (proposalCreatedEvent isWord q { ctx with token := token }) := by
  unfold proposalCreatedEvent
  rw [eventFields_intent h]
  exact buildEvent_related isAuditId_new isAuditId_new length_redactText_le length_redactText_le

/-- The reason of an evaluation's record is within its bound. -/
lemma length_evaluationReason_le {isWord detail} {outcome : PolicyOutcome} :
    (if detail = "" then s!"policy {str outcome}" else redactText isWord detail).length ≤ 1000 := by
  split
  · cases outcome with
    | allow => decide
    | deny => decide
  · exact length_redactText_le

/-- The record of an evaluation is built or refused whatever the ids. -/
lemma policyEvaluatedEvent_intent (h : SameIntent p q) (token : Token) {isWord decision newState}
    {ctx : AuditContext} :
    Except.Related (fun _ _ => True) (policyEvaluatedEvent isWord p decision newState ctx)
      (policyEvaluatedEvent isWord q decision newState { ctx with token := token }) := by
  unfold policyEvaluatedEvent
  rw [eventFields_intent h]
  exact buildEvent_related isAuditId_new isAuditId_new length_evaluationReason_le
    length_evaluationReason_le

/-- The reason of a denial's record is within its bound. -/
lemma length_denialReason_le {isWord detail} :
    (Py.orElse (redactText isWord detail) "policy denied the remediation").length ≤ 1000 :=
  length_orElse_le length_redactText_le (by decide)

/-- The record of a denial is built or refused whatever the ids. -/
lemma remediationBlockedEvent_intent (h : SameIntent p q) (token : Token) {isWord decision}
    {ctx : AuditContext} :
    Except.Related (fun _ _ => True) (remediationBlockedEvent isWord p decision ctx)
      (remediationBlockedEvent isWord q decision { ctx with token := token }) := by
  unfold remediationBlockedEvent
  rw [eventFields_intent h]
  refine buildEvent_related isAuditId_new isAuditId_new ?_ ?_
  · dsimp only
    exact length_denialReason_le
  · exact length_denialReason_le

/-- The events of a denial are built or refused whatever the ids. -/
lemma blockedEvents_intent (h : SameIntent p q) (token : Token) {isWord decision}
    {ctx : AuditContext} :
    Except.Related (fun _ _ => True) (blockedEvents isWord p decision ctx)
      (blockedEvents isWord q decision { ctx with token := token }) := by
  unfold blockedEvents
  by_cases allowed : decision.allowed = true
  · rw [if_pos allowed, if_pos allowed]
    exact .ok trivial
  · rw [if_neg allowed, if_neg allowed]
    exact (remediationBlockedEvent_intent h token).map fun _ _ _ => trivial

section
variable {σ : Type} {repo : Repository σ} {S : σ → σ → Prop} {s t : σ}

/-- A related place that a computation leads to. -/
lemma settle_id_same {a b : Except Error Phase} (h : Except.Related SamePhase a b) :
    SamePhase (settle id a) (settle id b) :=
  settle_same h fun _ _ r => r

/-- A call reads the same record, or fails to in the same way. -/
lemma readRecord_same (R : repo.Respects S) (h : S s t) {rid fault} :
    Except.Related SameRecord (readRecord repo rid fault s) (readRecord repo rid fault t) := by
  unfold readRecord
  refine (readStorage_same (R.get h rid)).bind fun a b r => ?_
  cases r with
  | none => exact .error
  | some r => exact .ok r

/-- `propose` takes the same branch for the same advice, and prepares the same record. -/
lemma proposeStart_same (R : repo.Respects S) (h : S s t) {r : ProposeRequest} {advice fault}
    (same : SameAdvice r.recommendation advice) :
    Except.Related SamePhase (proposeStart cfg repo r fault s)
      (proposeStart cfg repo { r with recommendation := advice } fault t) := by
  unfold proposeStart
  refine (proposalFromRca_same same).bind fun _ _ m => ?_
  cases m with
  | blocked => exact .error
  | @proposal p q pq =>
    dsimp only
    rw [pq.key, R.history h]
    refine .bind_same fun history => ?_
    rw [pq.evaluate]
    refine (applyPolicyDecision_same pq).bind fun a b ab => ?_
    rw [policyEvaluatedEvent_same ab, blockedEvents_same ab, ab.status]
    refine (proposalCreatedEvent_same pq).bind fun e f ef => ?_
    refine .bind_same fun evaluated => .bind_same fun blocked => .ok ?_
    refine .creating ⟨ab, rfl, rfl, rfl, rfl⟩ ?_
    exact .cons ef forall₂_sameEvent_refl

/-- `decide` is accepted or refused in the same way, and prepares the same decision. -/
lemma decideStart_same (R : repo.Respects S) (h : S s t) {r fault} :
    Except.Related SamePhase (decideStart cfg repo r fault s) (decideStart cfg repo r fault t) := by
  unfold decideStart
  refine (readRecord_same R h).bind fun x y xy => ?_
  rw [xy.checkDecidable, xy.status]
  refine .bind_same fun _ => .bind_same fun _ => .bind_same fun a => ?_
  rw [decisionEvent_same xy.proposal]
  exact .bind_same fun e => .ok (.deciding xy.proposal.withStatus)

/-- `verify_recovery` is accepted, refused or replayed in the same way. -/
lemma verifyStart_same (R : repo.Respects S) (h : S s t) {r fault} :
    Except.Related SamePhase (verifyStart cfg repo r fault s) (verifyStart cfg repo r fault t) := by
  unfold verifyStart
  refine (readRecord_same R h).bind fun x y xy => ?_
  rw [xy.status, xy.checkVerifiable, ← xy.verification, ← xy.execution]
  by_cases finished : x.status = .recovered ∨ x.status = .recoveryFailed
  · rw [if_pos finished, if_pos finished]
    cases x.verification with
    | none => exact .error
    | some v => exact .ok (.returned (.verification xy))
  · rw [if_neg finished, if_neg finished]
    refine .bind_same fun _ => .bind_same fun _ => ?_
    cases x.execution with
    | none => exact .error
    | some execution =>
      dsimp only
      rw [verificationStartedEvent_same xy.proposal]
      exact .bind_same fun e => .ok .claimingVerification

/-- The ruling on a proposal does not depend on free text or on the random ids. -/
theorem proposeStart_ruling {r r' : ProposeRequest} {fault} (h : SameSituation r r') :
    Except.Related SameRuling (proposeStart cfg repo r fault s)
      (proposeStart cfg repo r' fault s) := by
  obtain ⟨t, t₁, t₂, t₃, same⟩ := h
  unfold proposeStart
  refine (proposalFromRca_branch t same).bind fun _ _ branch => ?_
  cases branch with
  | blocked _ bb =>
    dsimp only
    rw [bb]
    exact .error
  | @proposal p q _ _ proposed pq =>
    dsimp only
    rw [pq.key]
    refine .bind_same fun history => ?_
    rw [pq.evaluate]
    refine (applyPolicyDecision_intent proposed pq).bind fun a b ab => ?_
    rw [ab.status]
    refine (proposalCreatedEvent_intent pq t₁).bind fun _ _ _ => ?_
    refine (policyEvaluatedEvent_intent ab t₂).bind fun _ _ _ => ?_
    refine (blockedEvents_intent ab t₃).bind fun _ _ _ => ?_
    exact .ok (.creating ab rfl)

variable {w v : World σ}

/-- `execute` is accepted or refused in the same way; a dry run has the same effect. -/
lemma stepExecuteStart_same (R : repo.Respects S) (h : SameWorld S w v) {r env} :
    SameResult S (stepExecuteStart repo r env w) (stepExecuteStart repo r env v) := by
  have checked : Except.Related SameRecord
      (do
        let record ← readRecord repo r.remediationId env.storage w.store
        checkExecutable record r.now
        return record)
      (do
        let record ← readRecord repo r.remediationId env.storage v.store
        checkExecutable record r.now
        return record) := by
    refine (readRecord_same R h.store).bind fun x y xy => ?_
    rw [xy.checkExecutable]
    exact .bind_same fun _ => .ok xy
  unfold stepExecuteStart
  dsimp only
  rcases checked.elim with ⟨e, ea, eb⟩ | ⟨x, y, ea, eb, xy⟩
  · rw [ea, eb]
    exact ⟨h.store, h.sim, .raised, rfl⟩
  · rw [ea, eb]
    dsimp only
    rw [xy.dryRun, ← h.sim]
    by_cases dry : r.dryRun = true
    · rw [if_pos dry, if_pos dry]
      cases dryRun r x env.executor w.sim with
      | ok out => exact ⟨h.store, rfl, .returned (.execution xy), rfl⟩
      | error e => exact ⟨h.store, rfl, .raised, rfl⟩
    · rw [if_neg dry, if_neg dry]
      exact ⟨h.store, rfl, settle_id_same xy.executeStart, rfl⟩

/-- A transaction over related stores leads to the same place. -/
lemma SameResult.commit (h : SameWorld S w v) {env : Env} {a b : Except Error (σ × RemediationRecord)}
    {f g : RemediationRecord → Phase}
    (run : Except.Related (fun a b => S a.1 b.1 ∧ SameRecord a.2 b.2) a b)
    (k : ∀ x y, SameRecord x y → SamePhase (f x) (g y)) :
    SameResult S
      { store := (commit env.storage w.store a).1
        sim := w.sim
        phase := settle f (commit env.storage w.store a).2 }
      { store := (commit env.storage v.store b).1
        sim := v.sim
        phase := settle g (commit env.storage v.store b).2 } := by
  obtain ⟨stores, seen⟩ := @commit_same _ S _ _ _ _ env.storage _ _ h.store run
  exact ⟨stores, h.sim, settle_same seen k, rfl⟩

/-- A step of the same call leads to the same place. -/
lemma stepCall_same (cfg : ServiceConfig) (env : Env) (R : repo.Respects S) (h : SameWorld S w v)
    {c d} (call : SameCall c d) :
    Option.Rel (SameResult S) (stepCall cfg repo env w c.request c.phase)
      (stepCall cfg repo env v d.request d.phase) := by
  obtain ⟨c, cp⟩ := c
  obtain ⟨d, dp⟩ := d
  obtain ⟨request, phase⟩ := call
  dsimp only at request phase ⊢
  cases request with
  | @propose r advice same =>
    cases phase with
    | started => exact .some ⟨h.store, h.sim, settle_id_same (proposeStart_same R h.store same), rfl⟩
    | creating rec events =>
      exact .some (.commit h (R.create h.store rec events) fun _ _ xy => .returned (.record xy))
    | _ => exact .none
  | @decide r =>
    cases phase with
    | started => exact .some ⟨h.store, h.sim, settle_id_same (decideStart_same R h.store), rfl⟩
    | deciding pq =>
      exact .some (.commit h (R.recordDecision h.store pq _ _ _)
        fun _ _ xy => .returned (.record xy))
    | _ => exact .none
  | @execute r =>
    cases phase with
    | started => exact .some (stepExecuteStart_same R h)
    | claimingExecution =>
      exact .some (.commit h (R.beginExecution h.store _ _ _) fun _ _ xy => .executing xy)
    | @executing x y pending xy =>
      unfold stepCall
      dsimp only
      rw [xy.invokeExecutor, ← h.sim]
      refine .some ⟨h.store, rfl, settle_id_same ?_, rfl⟩
      exact .bind_same fun _ => xy.executeFinish
    | completingExecution =>
      exact .some (.commit h (R.finishExecution h.store _ _ _ _ _)
        fun _ _ xy => .returned (.execution xy))
    | _ => exact .none
  | @verifyRecovery r =>
    cases phase with
    | started => exact .some ⟨h.store, h.sim, settle_id_same (verifyStart_same R h.store), rfl⟩
    | claimingVerification =>
      exact .some (.commit h (R.beginVerification h.store _ _ _) fun _ _ xy => .verifying xy)
    | @verifying x y pending xy =>
      unfold stepCall
      dsimp only
      rw [xy.verifierRun, ← h.sim]
      refine .some ⟨h.store, rfl, settle_id_same ?_, rfl⟩
      exact .bind_same fun _ => xy.verifyFinish
    | completingVerification =>
      exact .some (.commit h (R.finishVerification h.store _ _ _ _ _)
        fun _ _ xy => .returned (.verification xy))
    | _ => exact .none

/-- Same requests name the same remediation. -/
lemma SameRequest.target {a b : Request} (h : SameRequest a b) : b.target = a.target := by
  cases h with
  | propose => rfl
  | decide => rfl
  | execute => rfl
  | verifyRecovery => rfl

/-- A step over same labels leads to the same world, or is possible in neither. -/
theorem step_same (R : repo.Respects S) {l k} (h : SameWorld S w v) (label : SameLabel l k) :
    Option.Rel (SameWorld S) (step cfg repo w l) (step cfg repo v k) := by
  cases label with
  | call same =>
    refine .some ⟨h.store, h.sim, ?_, h.invocations⟩
    exact List.rel_append h.calls (.cons ⟨same, .started⟩ .nil)
  | @advance i env =>
    unfold step
    dsimp only
    rcases optionRel_elim (getElem?_related h.calls i) with ⟨ea, eb⟩ | ⟨c, d, ea, eb, same⟩
    · rw [ea, eb]
      exact .none
    · rw [ea, eb]
      dsimp only
      rcases optionRel_elim (stepCall_same cfg env R h same) with
        ⟨ea, eb⟩ | ⟨out, out', ea, eb, moved⟩
      · rw [ea, eb]
        exact .none
      · rw [ea, eb]
        refine .some ⟨moved.store, moved.sim, ?_, ?_⟩
        · exact set_related h.calls i ⟨same.request, moved.phase⟩
        · dsimp only
          rw [h.invocations, moved.invoked, same.request.target]

end

end SentinelOps.Remediation
