import SentinelOps.Remediation.Preservation

/-!
# The lifecycle invariant of the reachable worlds

One lemma for each place a call can be at: the step it takes from there is in order (`StepOk`).
`stepCall_ok` collects them over all calls, `Inv.step` over all labels, and `inv_of_reachable` over
all runs of the service with the in-memory repository.
-/

namespace SentinelOps.Remediation

open InMemoryStore (repository)

variable {cfg : ServiceConfig} {m m' : InMemoryStore}

/-- A record that is only a proposal and its policy decision agrees with its status. -/
lemma RecordOk.undecided_record {rec : RemediationRecord} (ha : rec.approval = none)
    (he : rec.execution = none) (hv : rec.verification = none)
    (st : rec.status = .pendingApproval ∧ rec.policyDecision.outcome = .allow ∨
      rec.status = .blocked ∧ rec.policyDecision.outcome = .deny) : RecordOk rec := by
  refine ⟨?_, ?_, ?_, ?_, ?_, ?_⟩
  · rcases st with ⟨e, _⟩ | ⟨e, _⟩ <;> rw [e] <;> simp [storedStatuses]
  · rcases st with ⟨e, d⟩ | ⟨e, d⟩ <;> rw [e, d] <;> rfl
  · refine iff_of_true ha ?_
    rcases st with ⟨e, _⟩ | ⟨e, _⟩
    · exact .inl e
    · exact .inr e
  · intro a h
    rw [ha] at h
    cases h
  · rcases st with ⟨e, _⟩ | ⟨e, _⟩ <;> rw [he, e] <;> rfl
  · rcases st with ⟨e, _⟩ | ⟨e, _⟩ <;> rw [hv, e] <;> rfl

/-- The status of the record a proposal becomes follows from the policy's outcome. -/
lemma ProposeRequest.record_status {r : ProposeRequest} {p history} :
    ((r.record cfg p history).status = .pendingApproval ∧
        (r.record cfg p history).policyDecision.outcome = .allow) ∨
      ((r.record cfg p history).status = .blocked ∧
        (r.record cfg p history).policyDecision.outcome = .deny) := by
  change ((if (r.decision cfg p history).outcome = .allow then _ else _) = _ ∧
      (r.decision cfg p history).outcome = _) ∨
    ((if (r.decision cfg p history).outcome = .allow then _ else _) = _ ∧
      (r.decision cfg p history).outcome = _)
  cases (r.decision cfg p history).outcome with
  | allow => exact .inl ⟨rfl, rfl⟩
  | deny => exact .inr ⟨rfl, rfl⟩

/-- The record a proposal becomes is new and agrees with its status. -/
lemma ProposeRequest.record_fresh {r : ProposeRequest} {p history}
    (h : proposalFromRca r.recommendation (r.args cfg) = .ok (.proposal p)) :
    FreshRecord r (r.record cfg p history) := by
  obtain ⟨_, _, _, _, _, _, _, e⟩ := proposalFromRca_proposal h
  refine ⟨?_, .undecided_record rfl rfl rfl record_status, ?_⟩
  · change p.val.remediationId = _
    rw [e]
    rfl
  · rcases @record_status cfg r p history with ⟨st, _⟩ | ⟨st, _⟩
    · exact .inl st
    · exact .inr st

/-- A read of the in-memory store is a look at its records. -/
lemma get_repository {rid rec} (h : repository.get m rid = .ok (some rec)) :
    m.get rid = some rec :=
  Except.ok.inj h

/-- The first step of `propose`. -/
lemma StepOk.propose {r : ProposeRequest} {fault} (h : StoreOk m) :
    StepOk cfg m m (.propose r) .started (settle id (proposeStart cfg repository r fault m)) := by
  rcases settle_cases (rfl : settle id (proposeStart cfg repository r fault m) = _) with
    ⟨p, hp, e⟩ | ⟨x, _, e⟩
  · obtain ⟨proposal, history, events, mapped, _, rfl⟩ := proposeStart_ok hp
    rw [← e]
    exact .same h (ProposeRequest.record_fresh mapped) (by intro hc; cases hc)
  · rw [e]
    exact .raised h

/-- The first step of `decide`. -/
lemma StepOk.decide {r : DecideRequest} {fault} (h : StoreOk m) :
    StepOk cfg m m (.decide r) .started (settle id (decideStart cfg repository r fault m)) := by
  rcases settle_cases (rfl : settle id (decideStart cfg repository r fault m) = _) with
    ⟨p, hp, e⟩ | ⟨x, _, e⟩
  · obtain ⟨current, approval, events, found, check, happ, rfl⟩ := decideStart_ok hp
    obtain ⟨_, _, allow, inTime, role⟩ := checkDecidable_ok check
    rw [← e]
    exact .same h ⟨current, get_repository found, rfl, allow, happ, inTime, role⟩
      (by intro hc; cases hc)
  · rw [e]
    exact .raised h

/-- The first step of `execute`. -/
lemma StepOk.execute {r : ExecuteRequest} {env} {w : World InMemoryStore} {out}
    (h : StoreOk w.store) (e : stepExecuteStart repository r env w = out) :
    StepOk cfg w.store out.store (.execute r) .started out.phase := by
  obtain ⟨same, _, _, how⟩ := stepExecuteStart_cases e
  rw [same]
  rcases how with ⟨x, hx⟩ | ⟨_, record, result, hx⟩ | ⟨real, record, events, found, _, hx⟩
  · rw [hx]
    exact .raised h
  · rw [hx]
    exact .same h trivial (by intro hc; cases hc)
  · rw [hx]
    exact .same h ⟨real, record, get_repository found, rfl⟩ (by intro hc; cases hc)

/-- The first step of `verify_recovery`. -/
lemma StepOk.verifyRecovery {r : VerifyRequest} {fault} (h : StoreOk m) :
    StepOk cfg m m (.verifyRecovery r) .started
      (settle id (verifyStart cfg repository r fault m)) := by
  rcases settle_cases (rfl : settle id (verifyStart cfg repository r fault m) = _) with
    ⟨p, hp, e⟩ | ⟨x, _, e⟩
  · obtain ⟨record, found, ⟨v, hv, rfl⟩ | ⟨execution, events, _, _, rfl⟩⟩ := verifyStart_ok hp
    · rw [← e]
      exact .same h trivial (by intro hc; cases hc)
    · rw [← e]
      exact .same h ⟨execution.val.executionId, rfl⟩ (by intro hc; cases hc)
  · rw [e]
    exact .raised h

/-- A call that has ended holds nothing that could disagree with the store. -/
lemma CallOk.settled {req} {α : Type} {f : α → Response} {out : Except Error α} :
    CallOk cfg m req (settle (fun x => .returned (f x)) out) := by
  cases out <;> cases req <;> exact trivial

/-- A call that has ended has no claim. -/
lemma Phase.holdsClaim_settled {α : Type} {f : α → Response} {out : Except Error α} :
    ¬ (settle (fun x => Phase.returned (f x)) out).holdsClaim = true := by
  cases out <;> (intro hc; cases hc)

/-- The `create` of `propose`. -/
lemma StepOk.create {r : ProposeRequest} {rec events fault out} {f : RemediationRecord → Response}
    (h : StoreOk m) (fresh : FreshRecord r rec)
    (e : commit fault m (InMemoryStore.create m rec events) = (m', out)) :
    StepOk cfg m m' (.propose r) (.creating rec events)
      (settle (fun x => .returned (f x)) out) := by
  rcases commit_cases e with ⟨rfl, x, rfl⟩ | ⟨a, run, _⟩
  · exact .raised h
  · obtain ⟨absent, _, rfl⟩ := InMemoryStore.create_ok run
    rw [fresh.own] at absent
    have none_e : rec.execution = none := by
      have he := fresh.ok.execution
      rcases fresh.fresh with st | st <;> simpa [st, executionStatusOf] using he
    have none_v : rec.verification = none := by
      have hv := fresh.ok.verification
      rcases fresh.fresh with st | st <;> simpa [st, verificationStatusOf] using hv
    have up : Update m { m with
        records := m.records.set rec.remediationId rec
        order := m.order ++ [rec.remediationId]
        audit := m.audit ++ events } (newRemediationId r.token) rec := by
      refine .put h (by rw [fresh.own]) rfl rfl ?_ ?_
      · simp [InMemoryStore.get, absent, none_e]
      · simp [InMemoryStore.get, absent, none_v]
    refine ⟨h.update up fresh.own fresh.ok, .settled, up.evolves_fresh absent, ?_, ?_⟩
    · intro rid ne
      rw [up.get] at ne
      split at ne
      · rename_i er
        refine ⟨er, ?_⟩
        intro x hx
        rw [er] at hx
        exact absurd (hx.symm.trans absent) (by simp)
      · exact absurd rfl ne
    · intro hc
      exact absurd hc Phase.holdsClaim_settled

/-- The `record_decision` of `decide`: whatever the call has read, the record it decides has no
decision yet and, since its policy allowed it, is pending. -/
lemma StepOk.recordDecision {r : DecideRequest} {np a events fault out}
    {f : RemediationRecord → Response} (h : StoreOk m)
    (call : CallOk cfg m (.decide r) (.deciding np a events))
    (e : commit fault m (InMemoryStore.recordDecision m r.remediationId np a events) = (m', out)) :
    StepOk cfg m m' (.decide r) (.deciding np a events)
      (settle (fun x => .returned (f x)) out) := by
  rcases commit_cases e with ⟨rfl, x, rfl⟩ | ⟨a', run, _⟩
  · exact .raised h
  · obtain ⟨rec, found, undecided, rfl, rfl⟩ := InMemoryStore.recordDecision_ok run
    obtain ⟨rec', found', ready⟩ := call
    -- the record read by the call may be an older version, but its proposal and policy are the same
    have same : rec' = rec := Option.some.inj (found'.symm.trans found)
    subst same
    have ok := h.records _ _ found'
    have pending : rec'.status = .pendingApproval := by
      rcases ok.undecided.mp undecided with st | st
      · exact st
      · have pol := ok.policy
        rw [if_pos st, ready.policy] at pol
        cases pol
    have target : np.val.status = r.target := by
      rw [ready.proposal]
      rfl
    have edge : canTransition rec'.status r.target = true := by
      rw [pending]
      unfold DecideRequest.target
      split <;> rfl
    let new : RemediationRecord := { rec' with proposal := np, approval := some a }
    have new_status : new.status = r.target := target
    have ev : Evolves rec' new := by
      refine ⟨?_, rfl, ?_, ?_⟩
      · rw [new_status]
        exact ready.proposal
      · intro b hb
        rw [undecided] at hb
        cases hb
      · rw [new_status]
        exact .edge edge
    have into : r.target = .approved ∧ r.decision = .approve ∨
        r.target = .rejected ∧ r.decision = .reject := by
      unfold DecideRequest.target
      cases r.decision with
      | approve => exact .inl ⟨rfl, rfl⟩
      | reject => exact .inr ⟨rfl, rfl⟩
    have exec_none : rec'.execution = none := by simpa [pending, executionStatusOf] using ok.execution
    have ver_none : rec'.verification = none := by
      simpa [pending, verificationStatusOf] using ok.verification
    have dec : a.val.decision = r.decision := by rw [ready.approval]; rfl
    have recordOk : RecordOk new := by
      refine ⟨?_, ?_, ?_, ?_, ?_, ?_⟩
      · rw [new_status]
        rcases into with ⟨e1, _⟩ | ⟨e1, _⟩ <;> rw [e1] <;> simp [storedStatuses]
      · rw [new_status]
        change rec'.policyDecision.outcome = _
        rcases into with ⟨e1, _⟩ | ⟨e1, _⟩ <;> rw [e1, ready.policy] <;> rfl
      · rw [new_status]
        rcases into with ⟨e1, _⟩ | ⟨e1, _⟩ <;> simp [e1, new]
      · intro b hb
        obtain rfl : a = b := Option.some.inj hb
        have hexp : new.proposal.val.expiresAt = rec'.proposal.val.expiresAt := by rw [ev.val]
        have hact : new.proposal.val.actionType = rec'.proposal.val.actionType := by rw [ev.val]
        refine ⟨?_, ?_, ?_, ?_⟩
        · rw [ready.approval, ev.remediationId, h.keyed _ _ found']
          rfl
        · rw [new_status, dec]
          rcases into with ⟨e1, e2⟩ | ⟨e1, e2⟩ <;> simp [e1, e2]
        · intro hd
          rw [hact, ready.approval]
          exact ready.role (dec ▸ hd)
        · rw [hexp, ready.approval]
          exact ready.inTime
      · change rec'.execution.map _ = _
        rw [exec_none, new_status]
        rcases into with ⟨e1, _⟩ | ⟨e1, _⟩ <;> rw [e1] <;> rfl
      · change rec'.verification.map _ = _
        rw [ver_none, new_status]
        rcases into with ⟨e1, _⟩ | ⟨e1, _⟩ <;> rw [e1] <;> rfl
    have up : Update m (m.put r.remediationId new events) r.remediationId new := by
      refine .put h rfl rfl rfl ?_ ?_
      · rw [found']
        rfl
      · rw [found']
        rfl
    refine .update h up found' ev recordOk .settled ?_ ?_
    · intro claimed
      rw [pending] at claimed
      rcases claimed with c | c <;> cases c
    · intro hc
      exact absurd hc Phase.holdsClaim_settled

/-- The record an execution was claimed on agrees with its status. -/
lemma StepOk.beginExecution {r : ExecuteRequest} {pending events fault out} (h : StoreOk m)
    (call : CallOk cfg m (.execute r) (.claimingExecution pending events))
    (e : commit fault m (InMemoryStore.beginExecution m r.remediationId pending events) =
      (m', out)) :
    StepOk cfg m m' (.execute r) (.claimingExecution pending events)
      (settle (fun begun => .executing begun pending) out) := by
  rcases commit_cases e with ⟨rfl, x, rfl⟩ | ⟨begun, run, how⟩
  · exact .raised h
  · obtain ⟨rec, found, approved, _, rfl, rfl⟩ := InMemoryStore.beginExecution_ok run
    obtain ⟨real, rec', found', own⟩ := call
    have same : rec' = rec := Option.some.inj (found'.symm.trans found)
    subst same
    have ok := h.records _ _ found'
    have ver : rec'.verification.map (·.val.status) = verificationStatusOf .executing := by
      rw [ok.verification, approved]
      rfl
    have started : (some pending).map (·.val.status) = executionStatusOf .executing := by
      rw [own]
      rfl
    have ev : Evolves rec' { rec'.withStatus .executing with execution := some pending } :=
      .move (by rw [approved]; rfl)
    have up := Update.putExecution h r.remediationId
      { rec'.withStatus .executing with execution := some pending } events rfl
      (by rw [found']; rfl)
    refine .update h up found' ev
      (ok.move (.inl approved) (by simp [storedStatuses]) (by simp) started ver) ?_ ?_ ?_
    · rcases how with rfl | ⟨x, rfl⟩
      · refine ⟨⟨real, ?_, rfl, ?_⟩, ?_⟩
        · rw [up.get, if_pos rfl]
        · change some pending = _
          rw [own]
          rfl
        · rw [own]
          rfl
      · exact trivial
    · intro claimed
      rw [approved] at claimed
      rcases claimed with c | c <;> cases c
    · intro _
      rw [approved]
      simp

/-- The executor call leaves the store alone and keeps the claim. -/
lemma StepOk.invoke {r : ExecuteRequest} {begun pending env sim sim' out} (h : StoreOk m)
    (call : CallOk cfg m (.execute r) (.executing begun pending))
    (e : invokeExecutor r begun pending env sim = (sim', out)) :
    StepOk cfg m m (.execute r) (.executing begun pending)
      (settle id (out >>= fun x => executeFinish cfg r begun x.1 x.2)) := by
  obtain ⟨claim, rfl⟩ := call
  rcases settle_cases (rfl : settle id (out >>= fun x => executeFinish cfg r begun x.1 x.2) = _) with
    ⟨p, hp, hs⟩ | ⟨x, _, hs⟩
  · obtain ⟨⟨result, final⟩, rfl, hp⟩ := Except.bind_eq_ok.mp hp
    obtain ⟨fin, verdict⟩ := invokeExecutor_ok (h.keyed _ _ claim.2.1) e
    obtain ⟨events, rfl⟩ := executeFinish_ok hp
    rw [← hs]
    exact .same h ⟨begun, claim, fin, verdict⟩ (fun _ => rfl)
  · rw [hs]
    exact .raised h

/-- The `finish_execution` of the claimed record. -/
lemma StepOk.finishExecution {r : ExecuteRequest} {result final events fault out}
    {f : RemediationRecord → Response} (h : StoreOk m)
    (call : CallOk cfg m (.execute r) (.completingExecution result final events))
    (e : commit fault m (InMemoryStore.finishExecution m r.remediationId (newExecutionId r.token)
      result final events) = (m', out)) :
    StepOk cfg m m' (.execute r) (.completingExecution result final events)
      (settle (fun x => .returned (f x)) out) := by
  rcases commit_cases e with ⟨rfl, x, rfl⟩ | ⟨a, run, _⟩
  · exact .raised h
  · obtain ⟨rec, found, executing, edge, rfl, rfl⟩ := InMemoryStore.finishExecution_ok run
    obtain ⟨begun, claim, fin, verdict⟩ := call
    have ok := h.records _ _ found
    have ver : rec.verification.map (·.val.status) = verificationStatusOf final := by
      rw [ok.verification, executing]
      rcases verdict with ⟨e1, _⟩ | ⟨e1, _⟩ <;> rw [e1] <;> rfl
    have done : (some result).map (·.val.status) = executionStatusOf final := by
      rcases verdict with ⟨e1, e2⟩ | ⟨e1, e2⟩ <;> rw [e1, Option.map_some, e2] <;> rfl
    have into : final ∈ storedStatuses ∧
        final ≠ .pendingApproval ∧ final ≠ .blocked ∧ final ≠ .rejected := by
      rcases verdict with ⟨e1, _⟩ | ⟨e1, _⟩ <;> rw [e1] <;> simp [storedStatuses]
    have up := Update.putExecution h r.remediationId
      { rec.withStatus final with execution := some result } events rfl
      (by rw [InMemoryStore.get, found]; rfl)
    refine .update h up found (.move (by rw [executing]; exact edge))
      (ok.move (.inr (.inl executing)) into.1 into.2 done ver) .settled (fun _ => rfl) ?_
    intro hc
    exact absurd hc Phase.holdsClaim_settled

/-- The record a verification was claimed on agrees with its status. -/
lemma StepOk.beginVerification {r : VerifyRequest} {pending events fault out} (h : StoreOk m)
    (call : CallOk cfg m (.verifyRecovery r) (.claimingVerification pending events))
    (e : commit fault m (InMemoryStore.beginVerification m r.remediationId pending events) =
      (m', out)) :
    StepOk cfg m m' (.verifyRecovery r) (.claimingVerification pending events)
      (settle (fun begun => .verifying begun pending) out) := by
  rcases commit_cases e with ⟨rfl, x, rfl⟩ | ⟨begun, run, how⟩
  · exact .raised h
  · obtain ⟨rec, found, executed, _, rfl, rfl⟩ := InMemoryStore.beginVerification_ok run
    obtain ⟨eid, own⟩ := call
    have ok := h.records _ _ found
    have exec : rec.execution.map (·.val.status) = executionStatusOf .verifying := by
      rw [ok.execution, executed]
      rfl
    have started : (some pending).map (·.val.status) = verificationStatusOf .verifying := by
      rw [own]
      rfl
    have up := Update.putVerification h r.remediationId
      { rec.withStatus .verifying with verification := some pending } events rfl
      (by rw [InMemoryStore.get, found]; rfl)
    refine .update h up found (.move (by rw [executed]; rfl))
      (ok.move (.inr (.inr (.inl executed))) (by simp [storedStatuses]) (by simp) exec started)
      ?_ ?_ ?_
    · rcases how with rfl | ⟨x, rfl⟩
      · refine ⟨?_, rfl, rfl, eid, own⟩
        rw [up.get, if_pos rfl]
      · exact trivial
    · intro claimed
      rw [executed] at claimed
      rcases claimed with c | c <;> cases c
    · intro _
      rw [executed]
      simp

/-- The verifier run leaves the store alone and keeps the claim. -/
lemma StepOk.verifier {r : VerifyRequest} {begun pending env sim} (h : StoreOk m)
    (call : CallOk cfg m (.verifyRecovery r) (.verifying begun pending)) :
    StepOk cfg m m (.verifyRecovery r) (.verifying begun pending)
      (settle id (verifierRun cfg r begun env sim >>= verifyFinish cfg r begun pending)) := by
  have own : pending.val.verifierType = verifierTypeLocal ∧
      pending.val.verifierVersion = verifierVersion := by
    obtain ⟨eid, rfl⟩ := call.2.2.2
    exact ⟨rfl, rfl⟩
  rcases settle_cases (rfl : settle id
      (verifierRun cfg r begun env sim >>= verifyFinish cfg r begun pending) = _) with
    ⟨p, hp, hs⟩ | ⟨x, _, hs⟩
  · obtain ⟨outcome, ran, hp⟩ := Except.bind_eq_ok.mp hp
    obtain ⟨result, final, events, rfl, fin, verdict⟩ :=
      verifyFinish_ok (verifierRun_sound ran) own hp
    rw [← hs]
    exact .same h ⟨begun, pending, call, fin, verdict⟩ (fun _ => rfl)
  · rw [hs]
    exact .raised h

/-- The `finish_verification` of the claimed record. -/
lemma StepOk.finishVerification {r : VerifyRequest} {result final events fault out}
    {f : RemediationRecord → Response} (h : StoreOk m)
    (call : CallOk cfg m (.verifyRecovery r) (.completingVerification result final events))
    (e : commit fault m (InMemoryStore.finishVerification m r.remediationId
      (newVerificationId r.token) result final events) = (m', out)) :
    StepOk cfg m m' (.verifyRecovery r) (.completingVerification result final events)
      (settle (fun x => .returned (f x)) out) := by
  rcases commit_cases e with ⟨rfl, x, rfl⟩ | ⟨a, run, _⟩
  · exact .raised h
  · obtain ⟨rec, found, verifying, edge, rfl, rfl⟩ := InMemoryStore.finishVerification_ok run
    obtain ⟨begun, pending, claim, fin, verdict⟩ := call
    have ok := h.records _ _ found
    have exec : rec.execution.map (·.val.status) = executionStatusOf final := by
      rw [ok.execution, verifying]
      rcases verdict with ⟨e1, _⟩ | ⟨e1, _⟩ <;> rw [e1] <;> rfl
    have done : (some result).map (·.val.status) = verificationStatusOf final := by
      rcases verdict with ⟨e1, e2⟩ | ⟨e1, e2⟩ <;> rw [e1, Option.map_some, e2] <;> rfl
    have into : final ∈ storedStatuses ∧
        final ≠ .pendingApproval ∧ final ≠ .blocked ∧ final ≠ .rejected := by
      rcases verdict with ⟨e1, _⟩ | ⟨e1, _⟩ <;> rw [e1] <;> simp [storedStatuses]
    have up := Update.putVerification h r.remediationId
      { rec.withStatus final with verification := some result } events rfl
      (by rw [InMemoryStore.get, found]; rfl)
    refine .update h up found (.move (by rw [verifying]; exact edge))
      (ok.move (.inr (.inr (.inr verifying))) into.1 into.2 exec done) .settled (fun _ => rfl) ?_
    intro hc
    exact absurd hc Phase.holdsClaim_settled

/-- The step of a call is in order, wherever the call stands. -/
lemma stepCall_ok {env} {w : World InMemoryStore} {req ph out} (h : StoreOk w.store)
    (call : CallOk cfg w.store req ph) (e : stepCall cfg repository env w req ph = some out) :
    StepOk cfg w.store out.store req ph out.phase := by
  cases stepCall_stepped e with
  | propose => exact .propose h
  | decide => exact .decide h
  | execute => exact .execute h rfl
  | verifyRecovery => exact .verifyRecovery h
  | create done => exact .create h call done
  | recordDecision done => exact .recordDecision h call done
  | beginExecution done => exact .beginExecution h call done
  | executor done => exact .invoke h call done
  | finishExecution done => exact .finishExecution h call done
  | beginVerification done => exact .beginVerification h call done
  | verifier => exact .verifier h call
  | finishVerification done => exact .finishVerification h call done

/-- A step advances one call by one step of its own, or starts a call. -/
lemma step_cases {σ : Type} {repo : Repository σ} {w w' : World σ} {l}
    (e : step cfg repo w l = some w') :
    (∃ r, l = .call r ∧ w' = { w with calls := w.calls ++ [{ request := r, phase := .started }] }) ∨
    ∃ i env c out, l = .advance i env ∧ w.calls[i]? = some c ∧
      stepCall cfg repo env w c.request c.phase = some out ∧
      w' = { store := out.store
             sim := out.sim
             calls := w.calls.set i { c with phase := out.phase }
             invocations := w.invocations ++
               (out.invoked.toList.map fun dry => ⟨i, c.request.target, dry⟩) } := by
  unfold step at e
  split at e
  · cases e
    exact .inl ⟨_, rfl, rfl⟩
  · split at e
    · cases e
    · rename_i i env _ c hc
      obtain ⟨out, ho, rfl⟩ := Option.map_eq_some_iff.mp e
      exact .inr ⟨i, env, c, out, rfl, hc, ho, rfl⟩

/-- What a call can do, the service can do. -/
lemma step_advance {σ : Type} {repo : Repository σ} {w : World σ} {i env} {c : Call} {out}
    (hc : w.calls[i]? = some c) (ho : stepCall cfg repo env w c.request c.phase = some out) :
    step cfg repo w (.advance i env) = some
      { store := out.store
        sim := out.sim
        calls := w.calls.set i { c with phase := out.phase }
        invocations := w.invocations ++
          (out.invoked.toList.map fun dry => ⟨i, c.request.target, dry⟩) } := by
  simp only [step, hc, ho, Option.map_some]

/-- A call that has just started agrees with every store. -/
lemma CallOk.started {req} : CallOk cfg m req .started := by
  cases req <;> exact trivial

/-- Starting a call keeps the invariant. -/
lemma Inv.call {w : World InMemoryStore} {r} (h : Inv cfg w) :
    Inv cfg { w with calls := w.calls ++ [{ request := r, phase := .started }] } := by
  have split : ∀ (j : Nat) (d : Call), (w.calls ++ [{ request := r, phase := .started }])[j]? =
      some d → w.calls[j]? = some d ∨ d = { request := r, phase := .started } := by
    intro j d hd
    rw [List.getElem?_append] at hd
    split at hd
    · exact .inl hd
    · rw [List.getElem?_singleton] at hd
      split at hd
      · exact .inr (Option.some.inj hd).symm
      · cases hd
  refine ⟨h.store, ?_, ?_⟩
  · intro j d hd
    rcases split j d hd with hd | rfl
    · exact h.calls j d hd
    · exact .started
  · intro j k d e hd he hcd hce et
    rcases split j d hd with hd | rfl
    · rcases split k e he with he | rfl
      · exact h.unique j k d e hd he hcd hce et
      · cases hce
    · cases hcd

/-- Every step of the service keeps the lifecycle invariant. -/
theorem Inv.step {w w' : World InMemoryStore} {l} (h : Inv cfg w)
    (e : step cfg repository w l = some w') : Inv cfg w' := by
  rcases step_cases e with ⟨r, rfl, rfl⟩ | ⟨i, env, c, out, rfl, hc, ho, rfl⟩
  · exact h.call
  · exact h.advance hc (stepCall_ok h.store (h.calls i c hc) ho)

/-- Along a step every record evolves. -/
lemma Inv.step_evolves {w w' : World InMemoryStore} {l} (h : Inv cfg w)
    (e : Remediation.step cfg repository w l = some w') {rid rec} (found : w.store.get rid = some rec) :
    ∃ rec', w'.store.get rid = some rec' ∧ Evolves rec rec' := by
  rcases step_cases e with ⟨r, rfl, rfl⟩ | ⟨i, env, c, out, rfl, hc, ho, rfl⟩
  · exact ⟨rec, found, .refl⟩
  · exact (stepCall_ok h.store (h.calls i c hc) ho).evolves rid rec found

/-- Along a run every record evolves. -/
theorem Inv.run_evolves {w w' : World InMemoryStore} {ls} (h : Inv cfg w)
    (r : (service cfg repository).Run w ls w') {rid rec} (found : w.store.get rid = some rec) :
    ∃ rec', w'.store.get rid = some rec' ∧ Evolves rec rec' := by
  induction r generalizing rec with
  | nil => exact ⟨rec, found, .refl⟩
  | cons st _ ih =>
    obtain ⟨rec1, found1, ev1⟩ := h.step_evolves st found
    obtain ⟨rec2, found2, ev2⟩ := ih (h.step st) found1
    exact ⟨rec2, found2, ev1.trans ev2⟩

/-- The empty store is in order. -/
lemma StoreOk.empty : StoreOk {} where
  keyed _ _ h := by cases h
  records _ _ h := by cases h
  executions _ := rfl
  verifications _ := rfl

/-- A world that has not begun satisfies the invariant. -/
lemma Inv.init {w} (h : (service cfg repository).init w) : Inv cfg w := by
  obtain ⟨hs, hc, _⟩ := h
  have store : w.store = {} := hs
  refine ⟨store ▸ .empty, ?_, ?_⟩
  · intro i c hi
    rw [hc] at hi
    cases hi
  · intro i j c d hi
    rw [hc] at hi
    cases hi

/-- Every reachable world satisfies the lifecycle invariant. -/
theorem inv_of_reachable {w} (h : (service cfg repository).Reachable w) : Inv cfg w :=
  h.invariant (fun _ => .init) (fun _ _ _ hI st => hI.step st)

end SentinelOps.Remediation
