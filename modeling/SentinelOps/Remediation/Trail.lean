import SentinelOps.Remediation.Reachable
import SentinelOps.Remediation.Queries

/-!
# What the audit trail of a remediation says

An entry of a trail is what an event says about the lifecycle: its type and the two states it
records. `trailOf` is the trail a remediation in a given status must have. A builder fixes the entry
of the event it builds; `EventsOk` collects, for every place a call can be at, the entries of the
events it is about to append.
-/

namespace SentinelOps.Remediation

/-- What an event says about the lifecycle: its type, `previous_state` and `new_state`. -/
abbrev Entry := AuditEventType × Option RemediationStatus × Option RemediationStatus

/-- The entry of an event. -/
def entryOf (e : RemediationAuditEvent) : Entry :=
  (e.val.eventType, e.val.previousState, e.val.newState)

/-- The entries a new remediation begins with. -/
def createdEntries (s : RemediationStatus) : List Entry :=
  [(.proposalCreated, none, some .proposed),
    (.policyEvaluated, some .policyEvaluation, some s)]

/-- The entry of a denial. -/
def blockedEntry : Entry := (.remediationBlocked, some .policyEvaluation, some .blocked)

/-- The entry of a decision. -/
def decisionEntry : ApprovalDecision → Entry
  | .approve => (.approved, some .pendingApproval, some .approved)
  | .reject => (.rejected, some .pendingApproval, some .rejected)

/-- The entries of a claimed execution. -/
def claimEntries : List Entry :=
  [(.executionRequested, some .approved, some .approved),
    (.executionStarted, some .approved, some .executing)]

/-- The entry of a finished execution. -/
def executionEntry (final : RemediationStatus) : Entry :=
  (if final = .executed then .executionSucceeded else .executionFailed, some .executing, some final)

/-- The entry of a claimed verification. -/
def verificationEntry : Entry := (.verificationStarted, some .executed, some .verifying)

/-- The entry of a finished verification. -/
def verdictEntry (final : RemediationStatus) : Entry :=
  (if final = .recovered then .verificationSucceeded else .verificationFailed, some .verifying,
    some final)

/-- The trail of a remediation that was executed successfully. -/
def executedTrail : List Entry :=
  createdEntries .pendingApproval ++ [decisionEntry .approve] ++ claimEntries ++
    [executionEntry .executed]

/-- The trail of a remediation in a given status. -/
def trailOf : RemediationStatus → List Entry
  | .pendingApproval => createdEntries .pendingApproval
  | .blocked => createdEntries .blocked ++ [blockedEntry]
  | .rejected => createdEntries .pendingApproval ++ [decisionEntry .reject]
  | .approved => createdEntries .pendingApproval ++ [decisionEntry .approve]
  | .executing => createdEntries .pendingApproval ++ [decisionEntry .approve] ++ claimEntries
  | .executionFailed => createdEntries .pendingApproval ++ [decisionEntry .approve] ++
      claimEntries ++ [executionEntry .executionFailed]
  | .executed => executedTrail
  | .verifying => executedTrail ++ [verificationEntry]
  | .recovered => executedTrail ++ [verificationEntry, verdictEntry .recovered]
  | .recoveryFailed => executedTrail ++ [verificationEntry, verdictEntry .recoveryFailed]
  | .proposed | .policyEvaluation | .expired => []

/-- Events about one remediation with the given entries. -/
structure Records (events : List RemediationAuditEvent) (rid : String) (entries : List Entry) :
    Prop where
  own : ∀ e ∈ events, e.val.remediationId = rid
  entries : events.map entryOf = entries

/-- An event about one remediation with a given entry. -/
def RecordsOne (e : RemediationAuditEvent) (rid : String) (entry : Entry) : Prop :=
  e.val.remediationId = rid ∧ entryOf e = entry

/-- No events record nothing. -/
lemma Records.nil {rid} : Records [] rid [] where
  own _ h := by cases h
  entries := rfl

/-- One more event records one more entry. -/
lemma Records.cons {e events rid entry entries} (h : RecordsOne e rid entry)
    (h' : Records events rid entries) : Records (e :: events) rid (entry :: entries) where
  own x hx := by
    rcases List.mem_cons.mp hx with rfl | hx
    · exact h.1
    · exact h'.own x hx
  entries := by rw [List.map_cons, h.2, h'.entries]

/-- A single event. -/
lemma Records.one {e rid entry} (h : RecordsOne e rid entry) : Records [e] rid [entry] :=
  .cons h .nil

/-- A built event has the fields it was built from. -/
lemma buildEvent_ok {fields e} (h : buildEvent fields = .ok e) : e.val = fields := by
  unfold buildEvent at h
  rw [constructOr_eq_ok] at h
  exact h.symm

/-- A built event records what its fields say. -/
lemma buildEvent_records {fields e rid entry} (h : buildEvent fields = .ok e)
    (own : fields.remediationId = rid)
    (entries : (fields.eventType, fields.previousState, fields.newState) = entry) :
    RecordsOne e rid entry := by
  have fs := buildEvent_ok h
  unfold RecordsOne entryOf
  rw [fs]
  exact ⟨own, entries⟩

section
variable {isWord : WordTable} {p : RemediationProposal} {d : PolicyDecision} {ctx : AuditContext}
variable {e : RemediationAuditEvent}

/-- The entry of a created proposal. -/
lemma proposalCreatedEvent_records (h : proposalCreatedEvent isWord p ctx = .ok e) :
    RecordsOne e p.val.remediationId (.proposalCreated, none, some .proposed) := by
  unfold proposalCreatedEvent at h
  exact buildEvent_records h rfl rfl

/-- The entry of an evaluated policy. -/
lemma policyEvaluatedEvent_records {s} (h : policyEvaluatedEvent isWord p d s ctx = .ok e) :
    RecordsOne e p.val.remediationId (.policyEvaluated, some .policyEvaluation, some s) := by
  unfold policyEvaluatedEvent at h
  exact buildEvent_records h rfl rfl

/-- The entry of a denial event. -/
lemma remediationBlockedEvent_records (h : remediationBlockedEvent isWord p d ctx = .ok e) :
    RecordsOne e p.val.remediationId blockedEntry := by
  unfold remediationBlockedEvent at h
  exact buildEvent_records h rfl rfl

/-- The entry of a decision event on a pending remediation. -/
lemma decisionEvent_records {a : RemediationApproval}
    (h : decisionEvent isWord p a .pendingApproval ctx = .ok e) :
    RecordsOne e p.val.remediationId (decisionEntry a.val.decision) := by
  unfold decisionEvent at h
  refine buildEvent_records h rfl ?_
  cases a.val.decision <;> rfl

/-- The first entry of a claimed execution. -/
lemma executionRequestedEvent_records {eid} (h : executionRequestedEvent p eid ctx = .ok e) :
    RecordsOne e p.val.remediationId (.executionRequested, some .approved, some .approved) := by
  unfold executionRequestedEvent at h
  exact buildEvent_records h rfl rfl

/-- The second entry of a claimed execution. -/
lemma executionStartedEvent_records {eid} (h : executionStartedEvent p eid ctx = .ok e) :
    RecordsOne e p.val.remediationId (.executionStarted, some .approved, some .executing) := by
  unfold executionStartedEvent at h
  exact buildEvent_records h rfl rfl

/-- The entry of a finished execution event. -/
lemma executionFinishedEvent_records {result final}
    (h : executionFinishedEvent isWord p result final ctx = .ok e) :
    RecordsOne e p.val.remediationId (executionEntry final) := by
  unfold executionFinishedEvent at h
  refine buildEvent_records h rfl ?_
  unfold executionEntry
  by_cases hf : final = .executed <;> simp [eventFields, hf]

/-- The entry of a claimed verification event. -/
lemma verificationStartedEvent_records {vid eid}
    (h : verificationStartedEvent p vid eid ctx = .ok e) :
    RecordsOne e p.val.remediationId verificationEntry := by
  unfold verificationStartedEvent at h
  exact buildEvent_records h rfl rfl

/-- The entry of a finished verification event. -/
lemma verificationFinishedEvent_records {vid eid final outcome}
    (h : verificationFinishedEvent isWord p vid eid final outcome ctx = .ok e) :
    RecordsOne e p.val.remediationId (verdictEntry final) := by
  unfold verificationFinishedEvent at h
  refine buildEvent_records h rfl ?_
  unfold verdictEntry
  by_cases hf : final = .recovered <;> simp [eventFields, hf]

end

/-- The entries a call is about to append are those of the step it is about to commit. -/
def EventsOk (req : Request) (ph : Phase) : Prop :=
  match req, ph with
  | .propose r, .creating rec events =>
    Records events (newRemediationId r.token) (trailOf rec.status)
  | .decide r, .deciding _ _ events =>
    Records events r.remediationId [decisionEntry r.decision]
  | .execute r, .claimingExecution _ events => Records events r.remediationId claimEntries
  | .execute r, .completingExecution _ final events =>
    Records events r.remediationId [executionEntry final]
  | .verifyRecovery r, .claimingVerification _ events =>
    Records events r.remediationId [verificationEntry]
  | .verifyRecovery r, .completingVerification _ final events =>
    Records events r.remediationId [verdictEntry final]
  | _, _ => True

section
variable {σ : Type} {cfg : ServiceConfig} {repo : Repository σ}

/-- `propose` is about to append the whole trail of the record it creates. -/
lemma proposeStart_events {r fault store p} (h : proposeStart cfg repo r fault store = .ok p) :
    EventsOk (.propose r) p := by
  unfold proposeStart at h
  obtain ⟨mapped, hm, h⟩ := Except.bind_eq_ok.mp h
  cases mapped with
  | blocked b => cases h
  | proposal proposal =>
    obtain ⟨history, _, h⟩ := Except.bind_eq_ok.mp h
    obtain ⟨advanced, hadv, h⟩ := Except.bind_eq_ok.mp h
    obtain ⟨created, hcreated, h⟩ := Except.bind_eq_ok.mp h
    obtain ⟨evaluated, hevaluated, h⟩ := Except.bind_eq_ok.mp h
    obtain ⟨blocked, hblocked, h⟩ := Except.bind_eq_ok.mp h
    cases h
    rw [applyPolicyDecision_proposed (proposalFromRca_status hm)] at hadv
    cases hadv
    have fresh : FreshRecord r (r.record cfg proposal history) := ProposeRequest.record_fresh hm
    have own : proposal.val.remediationId = newRemediationId r.token := fresh.own
    have first := proposalCreatedEvent_records hcreated
    have second := policyEvaluatedEvent_records hevaluated
    rw [own] at first
    change RecordsOne evaluated proposal.val.remediationId _ at second
    rw [own] at second
    change Records ([created, evaluated] ++ blocked) _ (trailOf (if _ then _ else _))
    unfold blockedEvents at hblocked
    split at hblocked
    · rename_i allowed
      cases hblocked
      have outcome := of_decide_eq_true allowed
      rw [if_pos outcome]
      change RecordsOne evaluated _ (_, _, some (if _ then _ else _)) at second
      rw [if_pos outcome] at second
      exact .cons first (.one second)
    · rename_i denied
      obtain ⟨b, hb, rfl⟩ := Except.map_eq_ok.mp hblocked
      have outcome := fun e => denied (decide_eq_true e)
      have third := remediationBlockedEvent_records hb
      change RecordsOne b proposal.val.remediationId _ at third
      rw [own] at third
      rw [if_neg outcome]
      change RecordsOne evaluated _ (_, _, some (if _ then _ else _)) at second
      rw [if_neg outcome] at second
      exact .cons first (.cons second (.one third))

/-- `decide` is about to append the entry of its decision. -/
lemma decideStart_events {r fault store p}
    (keyed : ∀ rec, repo.get store r.remediationId = .ok (some rec) →
      rec.remediationId = r.remediationId)
    (h : decideStart cfg repo r fault store = .ok p) : EventsOk (.decide r) p := by
  unfold decideStart at h
  obtain ⟨current, hread, h⟩ := Except.bind_eq_ok.mp h
  obtain ⟨_, hcheck, h⟩ := Except.bind_eq_ok.mp h
  obtain ⟨_, _, h⟩ := Except.bind_eq_ok.mp h
  obtain ⟨approval, happ, h⟩ := Except.bind_eq_ok.mp h
  obtain ⟨decided, hdecided, h⟩ := Except.bind_eq_ok.mp h
  cases h
  rw [(checkDecidable_ok hcheck).2.1] at hdecided
  have one := decisionEvent_records hdecided
  rw [constructOr_eq_ok] at happ
  rw [← happ] at one
  have own : current.proposal.val.remediationId = r.remediationId := keyed _ (readRecord_ok hread)
  rw [own] at one
  exact .one one

/-- A real `execute` is about to append the entries of its claim. -/
lemma executeStart_events {r record p} (own : record.remediationId = r.remediationId)
    (h : executeStart r record = .ok p) : EventsOk (.execute r) p := by
  unfold executeStart at h
  obtain ⟨requested, hrequested, h⟩ := Except.bind_eq_ok.mp h
  obtain ⟨started, hstarted, h⟩ := Except.bind_eq_ok.mp h
  cases h
  have own' : record.proposal.val.remediationId = r.remediationId := own
  have first := executionRequestedEvent_records hrequested
  have second := executionStartedEvent_records hstarted
  rw [own'] at first second
  exact .cons first (.one second)

/-- An `execute` call whose executor has answered is about to append the entry of its result. -/
lemma executeFinish_events {r begun result final p} (own : begun.remediationId = r.remediationId)
    (h : executeFinish cfg r begun result final = .ok p) : EventsOk (.execute r) p := by
  unfold executeFinish at h
  obtain ⟨finished, hfinished, h⟩ := Except.bind_eq_ok.mp h
  cases h
  have own' : begun.proposal.val.remediationId = r.remediationId := own
  have one := executionFinishedEvent_records hfinished
  rw [own'] at one
  exact .one one

/-- `verify_recovery` is about to append the entry of its claim, or has nothing to append. -/
lemma verifyStart_events {r fault store p}
    (keyed : ∀ rec, repo.get store r.remediationId = .ok (some rec) →
      rec.remediationId = r.remediationId)
    (h : verifyStart cfg repo r fault store = .ok p) : EventsOk (.verifyRecovery r) p := by
  unfold verifyStart at h
  obtain ⟨record, hread, h⟩ := Except.bind_eq_ok.mp h
  split at h
  · cases hv : record.verification with
    | none =>
      rw [hv] at h
      cases h
    | some v =>
      rw [hv] at h
      cases h
      exact trivial
  · obtain ⟨_, _, h⟩ := Except.bind_eq_ok.mp h
    obtain ⟨_, _, h⟩ := Except.bind_eq_ok.mp h
    cases he : record.execution with
    | none =>
      rw [he] at h
      cases h
    | some execution =>
      rw [he] at h
      obtain ⟨started, hstarted, h⟩ := Except.bind_eq_ok.mp h
      cases h
      have own : record.proposal.val.remediationId = r.remediationId := keyed _ (readRecord_ok hread)
      have one := verificationStartedEvent_records hstarted
      rw [own] at one
      exact .one one

/-- A `verify_recovery` call whose verifier has finished is about to append the entry of its
verdict. -/
lemma verifyFinish_events {r begun pending p} {outcome : RecoveryOutcome}
    (own : begun.remediationId = r.remediationId)
    (h : verifyFinish cfg r begun pending outcome = .ok p) : EventsOk (.verifyRecovery r) p := by
  unfold verifyFinish at h
  obtain ⟨result, _, h⟩ := Except.bind_eq_ok.mp h
  obtain ⟨finished, hfinished, h⟩ := Except.bind_eq_ok.mp h
  cases h
  have own' : begun.proposal.val.remediationId = r.remediationId := own
  have one := verificationFinishedEvent_records hfinished
  rw [own'] at one
  exact .one one

end

end SentinelOps.Remediation
