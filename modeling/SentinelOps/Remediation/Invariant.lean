import SentinelOps.Remediation.Steps

/-!
# The lifecycle invariant

`RecordOk` ties every part of a stored record to its status: the policy outcome, the decision, the
execution and the verification. `CallOk` ties what a call holds in its local variables to the store:
a stale read is still the same remediation, and a call that claimed an execution or a verification
is the only one that can change the record until it finishes. `Inv` collects both over a world, and
`Inv.step` shows that every step of every call keeps it.
-/

namespace SentinelOps.Remediation

/-- The status of the execution a remediation in a given status has. -/
def executionStatusOf : RemediationStatus → Option ExecutionStatus
  | .executing => some .started
  | .executed | .verifying | .recovered | .recoveryFailed => some .succeeded
  | .executionFailed => some .failed
  | _ => none

/-- The status of the verification a remediation in a given status has. -/
def verificationStatusOf : RemediationStatus → Option VerificationStatus
  | .verifying => some .started
  | .recovered => some .recovered
  | .recoveryFailed => some .recoveryFailed
  | _ => none

/-- The statuses the service stores. -/
def storedStatuses : List RemediationStatus :=
  [.pendingApproval, .blocked, .rejected, .approved, .executing, .executed, .executionFailed,
    .verifying, .recovered, .recoveryFailed]

/-- What the decision on a record must be. -/
structure DecisionOk (rec : RemediationRecord) (a : RemediationApproval) : Prop where
  own : a.val.remediationId = rec.remediationId
  decision : a.val.decision = if rec.status = .rejected then .reject else .approve
  role : a.val.decision = .approve →
    canApprove a.val.approverRole rec.proposal.val.actionType = true
  inTime : a.val.decidedAt < rec.proposal.val.expiresAt

/-- Every part of a record agrees with its status. -/
structure RecordOk (rec : RemediationRecord) : Prop where
  stored : rec.status ∈ storedStatuses
  policy : rec.policyDecision.outcome = if rec.status = .blocked then .deny else .allow
  undecided : rec.approval = none ↔ rec.status = .pendingApproval ∨ rec.status = .blocked
  decided : ∀ a ∈ rec.approval, DecisionOk rec a
  execution : rec.execution.map (·.val.status) = executionStatusOf rec.status
  verification : rec.verification.map (·.val.status) = verificationStatusOf rec.status

/-- Every record of a store is stored under its id and agrees with its status; the two dictionaries
repeat the records' executions and verifications. -/
structure StoreOk (m : InMemoryStore) : Prop where
  keyed : ∀ rid rec, m.get rid = some rec → rec.remediationId = rid
  records : ∀ rid rec, m.get rid = some rec → RecordOk rec
  executions : ∀ rid, m.executions.get? rid = (m.get rid).bind (·.execution)
  verifications : ∀ rid, m.verifications.get? rid = (m.get rid).bind (·.verification)

/-- A status that some transitions lead to from another one. -/
def LeadsTo (s t : RemediationStatus) : Prop :=
  Relation.ReflTransGen (fun a b => canTransition a b = true) s t

/-- A later version of a record: the same remediation further along its lifecycle, whose decision
stays. -/
structure Evolves (old new : RemediationRecord) : Prop where
  proposal : new.proposal = old.proposal.withStatus new.status
  policy : new.policyDecision = old.policyDecision
  approval : ∀ a ∈ old.approval, new.approval = some a
  status : LeadsTo old.status new.status

/-- The record that `propose` is about to create. -/
structure FreshRecord (r : ProposeRequest) (rec : RemediationRecord) : Prop where
  own : rec.remediationId = newRemediationId r.token
  ok : RecordOk rec
  fresh : rec.status = .pendingApproval ∨ rec.status = .blocked

/-- The decision that `decide` is about to record, for the record it has read. -/
structure DecisionReady (r : DecideRequest) (rec : RemediationRecord) (np : RemediationProposal)
    (a : RemediationApproval) : Prop where
  proposal : np = rec.proposal.withStatus r.target
  policy : rec.policyDecision.outcome = .allow
  approval : a.val = r.approvalFields
  inTime : r.now < rec.proposal.val.expiresAt
  role : r.decision = .approve → canApprove r.approverRole rec.proposal.val.actionType = true

/-- The record of the store belongs to the execution that a call began. -/
def ExecutionClaim (m : InMemoryStore) (r : ExecuteRequest) (begun : RemediationRecord) : Prop :=
  r.dryRun = false ∧ m.get r.remediationId = some begun ∧ begun.status = .executing ∧
    begun.execution = some (pendingExecution r begun.proposal)

/-- The record of the store belongs to the verification that a call began. -/
def VerificationClaim (cfg : ServiceConfig) (m : InMemoryStore) (r : VerifyRequest)
    (begun : RemediationRecord) (pending : VerificationResult) : Prop :=
  m.get r.remediationId = some begun ∧ begun.status = .verifying ∧
    begun.verification = some pending ∧ ∃ eid, pending = pendingVerification cfg r eid

/-- What a call holds agrees with the store. -/
def CallOk (cfg : ServiceConfig) (m : InMemoryStore) (req : Request) (ph : Phase) : Prop :=
  match req, ph with
  | _, .started | _, .returned _ | _, .raised _ => True
  | .propose r, .creating rec _ => FreshRecord r rec
  | .decide r, .deciding np a _ =>
    ∃ rec, m.get r.remediationId = some rec ∧ DecisionReady r rec np a
  | .execute r, .claimingExecution pending _ => r.dryRun = false ∧
    ∃ rec, m.get r.remediationId = some rec ∧ pending = pendingExecution r rec.proposal
  | .execute r, .executing begun pending =>
    ExecutionClaim m r begun ∧ pending = pendingExecution r begun.proposal
  | .execute r, .completingExecution result final _ => ∃ begun, ExecutionClaim m r begun ∧
    FinishesExecution (pendingExecution r begun.proposal) result ∧
    ((final = .executed ∧ result.val.status = .succeeded) ∨
      (final = .executionFailed ∧ result.val.status = .failed))
  | .verifyRecovery r, .claimingVerification pending _ => ∃ eid,
    pending = pendingVerification cfg r eid
  | .verifyRecovery r, .verifying begun pending => VerificationClaim cfg m r begun pending
  | .verifyRecovery r, .completingVerification result final _ => ∃ begun pending,
    VerificationClaim cfg m r begun pending ∧ FinishesVerification pending result ∧
    ((final = .recovered ∧ result.val.status = .recovered) ∨
      (final = .recoveryFailed ∧ result.val.status = .recoveryFailed))
  | _, _ => False

/-- The call holds a claim on the remediation it names: nobody else may change that record. -/
def Phase.holdsClaim : Phase → Bool
  | .executing _ _ | .completingExecution _ _ _ | .verifying _ _ | .completingVerification _ _ _ =>
    true
  | _ => false

/-- The lifecycle invariant of a world over the in-memory store. -/
structure Inv (cfg : ServiceConfig) (w : World InMemoryStore) : Prop where
  store : StoreOk w.store
  calls : ∀ (i : Nat) (c : Call), w.calls[i]? = some c → CallOk cfg w.store c.request c.phase
  unique : ∀ (i j : Nat) (c d : Call), w.calls[i]? = some c → w.calls[j]? = some d →
    c.phase.holdsClaim = true → d.phase.holdsClaim = true → c.request.target = d.request.target → i = j

namespace Evolves

/-- A record evolves to itself. -/
lemma refl {rec} : Evolves rec rec where
  proposal := rfl
  policy := rfl
  approval _ h := h
  status := .refl

/-- Versions of a record compose. -/
lemma trans {a b c} (h : Evolves a b) (h' : Evolves b c) : Evolves a c where
  proposal := by rw [h'.proposal, h.proposal]; rfl
  policy := h'.policy.trans h.policy
  approval x hx := h'.approval x (h.approval x hx)
  status := h.status.trans h'.status

/-- Only the status of the proposal differs between two versions. -/
lemma val {old new} (h : Evolves old new) :
    new.proposal.val = { old.proposal.val with status := new.status } := by
  rw [h.proposal]
  rfl

/-- Two versions of a record have one id. -/
lemma remediationId {old new} (h : Evolves old new) :
    new.remediationId = old.remediationId := by
  unfold RemediationRecord.remediationId
  rw [h.val]

end Evolves

/-- A call with a claim sees its record in a claimed status. -/
lemma CallOk.claimed {cfg m req ph} (h : CallOk cfg m req ph) (hc : ph.holdsClaim = true) :
    ∃ rec, m.get req.target = some rec ∧ (rec.status = .executing ∨ rec.status = .verifying) := by
  cases ph with
  | executing begun pending =>
    cases req with
    | execute r => exact ⟨begun, h.1.2.1, .inl h.1.2.2.1⟩
    | propose r => exact absurd h id
    | decide r => exact absurd h id
    | verifyRecovery r => exact absurd h id
  | completingExecution result final events =>
    cases req with
    | execute r =>
      obtain ⟨begun, claim, _⟩ := h
      exact ⟨begun, claim.2.1, .inl claim.2.2.1⟩
    | propose r => exact absurd h id
    | decide r => exact absurd h id
    | verifyRecovery r => exact absurd h id
  | verifying begun pending =>
    cases req with
    | verifyRecovery r => exact ⟨begun, h.1, .inr h.2.1⟩
    | propose r => exact absurd h id
    | decide r => exact absurd h id
    | execute r => exact absurd h id
  | completingVerification result final events =>
    cases req with
    | verifyRecovery r =>
      obtain ⟨begun, pending, claim, _⟩ := h
      exact ⟨begun, claim.1, .inr claim.2.1⟩
    | propose r => exact absurd h id
    | decide r => exact absurd h id
    | execute r => exact absurd h id
  | started => cases hc
  | creating record events => cases hc
  | deciding np a events => cases hc
  | claimingExecution pending events => cases hc
  | claimingVerification pending events => cases hc
  | returned response => cases hc
  | raised e => cases hc

/-- What a call holds stays in agreement with the store when every record it may have read evolved
and no record it has a claim on changed. -/
lemma CallOk.mono {cfg m m' req ph} (h : CallOk cfg m req ph)
    (evolves : ∀ rid rec, m.get rid = some rec → ∃ rec', m'.get rid = some rec' ∧ Evolves rec rec')
    (claims : ph.holdsClaim = true → m'.get req.target = m.get req.target) :
    CallOk cfg m' req ph := by
  cases ph with
  | started => cases req <;> exact trivial
  | returned response => cases req <;> exact trivial
  | raised e => cases req <;> exact trivial
  | creating record events =>
    cases req with
    | propose r => exact h
    | decide r => exact absurd h id
    | execute r => exact absurd h id
    | verifyRecovery r => exact absurd h id
  | deciding np a events =>
    cases req with
    | decide r =>
      obtain ⟨rec, found, ready⟩ := h
      obtain ⟨rec', found', ev⟩ := evolves _ _ found
      refine ⟨rec', found', ?_, ?_, ready.approval, ?_, ?_⟩
      · rw [ready.proposal, ev.proposal]
        rfl
      · rw [ev.policy]
        exact ready.policy
      · rw [ev.val]
        exact ready.inTime
      · rw [ev.val]
        exact ready.role
    | propose r => exact absurd h id
    | execute r => exact absurd h id
    | verifyRecovery r => exact absurd h id
  | claimingExecution pending events =>
    cases req with
    | execute r =>
      obtain ⟨real, rec, found, e⟩ := h
      obtain ⟨rec', found', ev⟩ := evolves _ _ found
      refine ⟨real, rec', found', ?_⟩
      rw [e, ev.proposal, pendingExecution_withStatus]
    | propose r => exact absurd h id
    | decide r => exact absurd h id
    | verifyRecovery r => exact absurd h id
  | executing begun pending =>
    cases req with
    | execute r =>
      -- the claim keeps every other call off the record
      have same : m'.get r.remediationId = m.get r.remediationId := claims rfl
      exact ⟨⟨h.1.1, same ▸ h.1.2.1, h.1.2.2⟩, h.2⟩
    | propose r => exact absurd h id
    | decide r => exact absurd h id
    | verifyRecovery r => exact absurd h id
  | completingExecution result final events =>
    cases req with
    | execute r =>
      have same : m'.get r.remediationId = m.get r.remediationId := claims rfl
      obtain ⟨begun, claim, rest⟩ := h
      exact ⟨begun, ⟨claim.1, same ▸ claim.2.1, claim.2.2⟩, rest⟩
    | propose r => exact absurd h id
    | decide r => exact absurd h id
    | verifyRecovery r => exact absurd h id
  | claimingVerification pending events =>
    cases req with
    | verifyRecovery r => exact h
    | propose r => exact absurd h id
    | decide r => exact absurd h id
    | execute r => exact absurd h id
  | verifying begun pending =>
    cases req with
    | verifyRecovery r =>
      have same : m'.get r.remediationId = m.get r.remediationId := claims rfl
      exact ⟨same ▸ h.1, h.2⟩
    | propose r => exact absurd h id
    | decide r => exact absurd h id
    | execute r => exact absurd h id
  | completingVerification result final events =>
    cases req with
    | verifyRecovery r =>
      have same : m'.get r.remediationId = m.get r.remediationId := claims rfl
      obtain ⟨begun, pending, claim, rest⟩ := h
      exact ⟨begun, pending, ⟨same ▸ claim.1, claim.2⟩, rest⟩
    | propose r => exact absurd h id
    | decide r => exact absurd h id
    | execute r => exact absurd h id

end SentinelOps.Remediation
