import SentinelOps.Remediation.Audit

/-!
# The persistence boundary and the in-memory repository

A `RemediationRecord` is a proposal with its policy decision and, as the lifecycle goes on, its
approval, its execution and its verification. `Repository σ` is the protocol of the repository over
stores of type `σ`: every method is one atomic step under the row lock, and a method that raises
leaves the store alone. `InMemoryStore` is the reference implementation; the lemmas
`InMemoryStore.*_ok` say, for each method, when it succeeds and what it then does.
-/

namespace SentinelOps.Remediation

/-- The repository's view of one remediation. -/
structure RemediationRecord where
  proposal : RemediationProposal
  policyDecision : PolicyDecision
  approval : Option RemediationApproval := none
  execution : Option ExecutionResult := none
  verification : Option VerificationResult := none

namespace RemediationRecord

/-- `record.remediation_id`. -/
def remediationId (r : RemediationRecord) : String := r.proposal.val.remediationId

/-- `record.status`. -/
def status (r : RemediationRecord) : RemediationStatus := r.proposal.val.status

/-- `with_status`. -/
def withStatus (r : RemediationRecord) (s : RemediationStatus) : RemediationRecord :=
  { r with proposal := r.proposal.withStatus s }

@[simp] lemma status_withStatus {r : RemediationRecord} {s} : (r.withStatus s).status = s := rfl

@[simp] lemma remediationId_withStatus {r : RemediationRecord} {s} :
    (r.withStatus s).remediationId = r.remediationId := rfl

end RemediationRecord

/-- A result finishes a begun execution: it differs in the result columns only. -/
def FinishesExecution (begun result : ExecutionResult) : Prop :=
  result.val = { begun.val with
    status := result.val.status
    simulatedEffect := result.val.simulatedEffect
    metadata := result.val.metadata
    error := result.val.error
    completedAt := result.val.completedAt }

/-- A result finishes a begun verification: it differs in the result columns only. -/
def FinishesVerification (begun result : VerificationResult) : Prop :=
  result.val = { begun.val with
    status := result.val.status
    attempts := result.val.attempts
    checks := result.val.checks
    failureReason := result.val.failureReason
    metadata := result.val.metadata
    completedAt := result.val.completedAt }

/-- `_ACTIVE_PRE_EXECUTION`: the statuses the duplicate rule counts as active. -/
def activeStatuses : List RemediationStatus :=
  [.proposed, .policyEvaluation, .pendingApproval, .approved, .executing, .executed, .verifying]

/-- `_COOLDOWN_ANCHOR_STATUSES`. -/
def cooldownAnchorStatuses : List RemediationStatus :=
  [.approved, .executing, .executed, .executionFailed]

/-- What identifies the remediations that a history snapshot looks at. -/
structure HistoryKey where
  incidentId : String
  actionType : RemediationActionType
  serviceName : String
  environment : String
  deriving DecidableEq

/-- The history key of a proposal. -/
def RemediationProposal.key (p : RemediationProposal) : HistoryKey where
  incidentId := p.val.incidentId
  actionType := p.val.actionType
  serviceName := p.val.target.val.serviceName
  environment := p.val.target.val.environment

@[simp] lemma RemediationProposal.key_withStatus {p : RemediationProposal} {s} :
    (p.withStatus s).key = p.key := rfl

/-- The repository protocol over stores of type `σ`. -/
structure Repository (σ : Type) where
  empty : σ
  create : σ → RemediationRecord → List RemediationAuditEvent → Except Error (σ × RemediationRecord)
  get : σ → String → Except Error (Option RemediationRecord)
  recordDecision : σ → String → RemediationProposal → RemediationApproval →
    List RemediationAuditEvent → Except Error (σ × RemediationRecord)
  beginExecution : σ → String → ExecutionResult → List RemediationAuditEvent →
    Except Error (σ × RemediationRecord)
  finishExecution : σ → String → String → ExecutionResult → RemediationStatus →
    List RemediationAuditEvent → Except Error (σ × RemediationRecord)
  beginVerification : σ → String → VerificationResult → List RemediationAuditEvent →
    Except Error (σ × RemediationRecord)
  finishVerification : σ → String → String → VerificationResult → RemediationStatus →
    List RemediationAuditEvent → Except Error (σ × RemediationRecord)
  historySnapshot : σ → HistoryKey → Except Error RemediationHistorySnapshot

/-- `_Store`. -/
structure InMemoryStore where
  records : Dict String RemediationRecord := .empty
  order : List String := []
  executions : Dict String ExecutionResult := .empty
  verifications : Dict String VerificationResult := .empty
  audit : List RemediationAuditEvent := []

namespace InMemoryStore

/-- `create`. -/
def create (m : InMemoryStore) (record : RemediationRecord) (events : List RemediationAuditEvent) :
    Except Error (InMemoryStore × RemediationRecord) :=
  let rid := record.remediationId
  match m.records.get? rid with
  | some _ => .error ⟨.remediationDomain, s!"remediation {rid} already exists"⟩
  | none => .ok ({ m with
      records := m.records.set rid record
      order := m.order ++ [rid]
      audit := m.audit ++ events }, record)

/-- `get`. -/
def get (m : InMemoryStore) (rid : String) : Option RemediationRecord := m.records.get? rid

/-- Store an updated record and append the audit events of the update. -/
def put (m : InMemoryStore) (rid : String) (record : RemediationRecord)
    (events : List RemediationAuditEvent) : InMemoryStore :=
  { m with records := m.records.set rid record, audit := m.audit ++ events }

/-- `record_decision`. -/
def recordDecision (m : InMemoryStore) (rid : String) (newProposal : RemediationProposal)
    (approval : RemediationApproval) (events : List RemediationAuditEvent) :
    Except Error (InMemoryStore × RemediationRecord) :=
  match m.records.get? rid with
  | none => .error ⟨.notFound, rid⟩
  | some rec => do
    ensure (rec.approval.isNone = true) ⟨.alreadyDecided, rid⟩
    let updated := { rec with proposal := newProposal, approval := some approval }
    return (m.put rid updated events, updated)

/-- `begin_execution`. -/
def beginExecution (m : InMemoryStore) (rid : String) (pending : ExecutionResult)
    (events : List RemediationAuditEvent) : Except Error (InMemoryStore × RemediationRecord) :=
  match m.records.get? rid with
  | none => .error ⟨.notFound, rid⟩
  | some rec => do
    ensure (rec.status = .approved ∧ m.executions.get? rid = none) ⟨.executionConflict, rid⟩
    validateTransition .approved .executing
    let updated := { rec.withStatus .executing with execution := some pending }
    return ({ m.put rid updated events with executions := m.executions.set rid pending }, updated)

/-- `finish_execution`. -/
def finishExecution (m : InMemoryStore) (rid : String) (_executionId : String)
    (result : ExecutionResult) (finalStatus : RemediationStatus)
    (events : List RemediationAuditEvent) : Except Error (InMemoryStore × RemediationRecord) :=
  match m.records.get? rid with
  | none => .error ⟨.notFound, rid⟩
  | some rec => do
    ensure (rec.status = .executing) ⟨.executionConflict, rid⟩
    validateTransition .executing finalStatus
    let updated := { rec.withStatus finalStatus with execution := some result }
    return ({ m.put rid updated events with executions := m.executions.set rid result }, updated)

/-- `begin_verification`. -/
def beginVerification (m : InMemoryStore) (rid : String) (pending : VerificationResult)
    (events : List RemediationAuditEvent) : Except Error (InMemoryStore × RemediationRecord) :=
  match m.records.get? rid with
  | none => .error ⟨.notFound, rid⟩
  | some rec => do
    ensure (rec.status = .executed ∧ m.verifications.get? rid = none) ⟨.verificationConflict, rid⟩
    validateTransition .executed .verifying
    let updated := { rec.withStatus .verifying with verification := some pending }
    return ({ m.put rid updated events with verifications := m.verifications.set rid pending },
      updated)

/-- `finish_verification`. -/
def finishVerification (m : InMemoryStore) (rid : String) (_verificationId : String)
    (result : VerificationResult) (finalStatus : RemediationStatus)
    (events : List RemediationAuditEvent) : Except Error (InMemoryStore × RemediationRecord) :=
  match m.records.get? rid with
  | none => .error ⟨.notFound, rid⟩
  | some rec => do
    ensure (rec.status = .verifying) ⟨.verificationConflict, rid⟩
    validateTransition .verifying finalStatus
    let updated := { rec.withStatus finalStatus with verification := some result }
    return ({ m.put rid updated events with verifications := m.verifications.set rid result },
      updated)

/-- The later of a running maximum and a timestamp. -/
def laterOf (last : Option Instant) (ts : Instant) : Option Instant :=
  match last with
  | none => some ts
  | some l => if l < ts then some ts else some l

/-- One iteration of the loop of `history_snapshot`. -/
def observe (key : HistoryKey) (acc : RemediationHistorySnapshot) (rec : RemediationRecord) :
    RemediationHistorySnapshot :=
  if rec.proposal.key ≠ key then acc
  else
    { activeExists := acc.activeExists || decide (rec.status ∈ activeStatuses)
      lastCompleted :=
        match rec.approval with
        | some a =>
          if rec.status ∈ cooldownAnchorStatuses then laterOf acc.lastCompleted a.val.decidedAt
          else acc.lastCompleted
        | none => acc.lastCompleted }

/-- `history_snapshot`. -/
def historySnapshot (m : InMemoryStore) (key : HistoryKey) : RemediationHistorySnapshot :=
  m.records.values.foldl (observe key) {}

/-- `InMemoryRemediationRepository`. -/
def repository : Repository InMemoryStore where
  empty := {}
  create
  get m rid := .ok (m.get rid)
  recordDecision
  beginExecution
  finishExecution
  beginVerification
  finishVerification
  historySnapshot m key := .ok (m.historySnapshot key)

/-- When `create` succeeds, and what it stores. -/
lemma create_ok {m record events m' r} (h : create m record events = .ok (m', r)) :
    m.records.get? record.remediationId = none ∧ r = record ∧
      m' = { m with
        records := m.records.set record.remediationId record
        order := m.order ++ [record.remediationId]
        audit := m.audit ++ events } := by
  unfold create at h
  dsimp only at h
  split at h
  · cases h
  · rename_i absent
    cases h
    exact ⟨absent, rfl, rfl⟩

/-- When `record_decision` succeeds, and what it stores. -/
lemma recordDecision_ok {m rid np a events m' r}
    (h : recordDecision m rid np a events = .ok (m', r)) :
    ∃ rec, m.records.get? rid = some rec ∧ rec.approval = none ∧
      r = { rec with proposal := np, approval := some a } ∧ m' = m.put rid r events := by
  unfold recordDecision at h
  split at h
  · cases h
  · rename_i rec found
    obtain ⟨_, undecided, h⟩ := Except.bind_eq_ok.mp h
    rw [ensure_eq_ok, Option.isNone_iff_eq_none] at undecided
    cases h
    exact ⟨rec, found, undecided, rfl, rfl⟩

/-- When `begin_execution` succeeds, and what it stores. -/
lemma beginExecution_ok {m rid pending events m' r}
    (h : beginExecution m rid pending events = .ok (m', r)) :
    ∃ rec, m.records.get? rid = some rec ∧ rec.status = .approved ∧
      m.executions.get? rid = none ∧
      r = { rec.withStatus .executing with execution := some pending } ∧
      m' = { m.put rid r events with executions := m.executions.set rid pending } := by
  unfold beginExecution at h
  split at h
  · cases h
  · rename_i rec found
    obtain ⟨_, claim, h⟩ := Except.bind_eq_ok.mp h
    rw [ensure_eq_ok] at claim
    obtain ⟨_, _, h⟩ := Except.bind_eq_ok.mp h
    cases h
    exact ⟨rec, found, claim.1, claim.2, rfl, rfl⟩

/-- When `finish_execution` succeeds, and what it stores. -/
lemma finishExecution_ok {m rid eid result final events m' r}
    (h : finishExecution m rid eid result final events = .ok (m', r)) :
    ∃ rec, m.records.get? rid = some rec ∧ rec.status = .executing ∧
      canTransition .executing final = true ∧
      r = { rec.withStatus final with execution := some result } ∧
      m' = { m.put rid r events with executions := m.executions.set rid result } := by
  unfold finishExecution at h
  split at h
  · cases h
  · rename_i rec found
    obtain ⟨_, claimed, h⟩ := Except.bind_eq_ok.mp h
    rw [ensure_eq_ok] at claimed
    obtain ⟨_, edge, h⟩ := Except.bind_eq_ok.mp h
    rw [validateTransition, ensure_eq_ok] at edge
    cases h
    exact ⟨rec, found, claimed, edge, rfl, rfl⟩

/-- When `begin_verification` succeeds, and what it stores. -/
lemma beginVerification_ok {m rid pending events m' r}
    (h : beginVerification m rid pending events = .ok (m', r)) :
    ∃ rec, m.records.get? rid = some rec ∧ rec.status = .executed ∧
      m.verifications.get? rid = none ∧
      r = { rec.withStatus .verifying with verification := some pending } ∧
      m' = { m.put rid r events with verifications := m.verifications.set rid pending } := by
  unfold beginVerification at h
  split at h
  · cases h
  · rename_i rec found
    obtain ⟨_, claim, h⟩ := Except.bind_eq_ok.mp h
    rw [ensure_eq_ok] at claim
    obtain ⟨_, _, h⟩ := Except.bind_eq_ok.mp h
    cases h
    exact ⟨rec, found, claim.1, claim.2, rfl, rfl⟩

/-- When `finish_verification` succeeds, and what it stores. -/
lemma finishVerification_ok {m rid vid result final events m' r}
    (h : finishVerification m rid vid result final events = .ok (m', r)) :
    ∃ rec, m.records.get? rid = some rec ∧ rec.status = .verifying ∧
      canTransition .verifying final = true ∧
      r = { rec.withStatus final with verification := some result } ∧
      m' = { m.put rid r events with verifications := m.verifications.set rid result } := by
  unfold finishVerification at h
  split at h
  · cases h
  · rename_i rec found
    obtain ⟨_, claimed, h⟩ := Except.bind_eq_ok.mp h
    rw [ensure_eq_ok] at claimed
    obtain ⟨_, edge, h⟩ := Except.bind_eq_ok.mp h
    rw [validateTransition, ensure_eq_ok] at edge
    cases h
    exact ⟨rec, found, claimed, edge, rfl, rfl⟩

/-- The later of a known maximum and a timestamp. -/
lemma laterOf_some {l ts} : laterOf (some l) ts = some (max l ts) := by
  unfold laterOf
  by_cases h : l < ts
  · simp [h, max_eq_right h.le]
  · simp [h, max_eq_left (not_lt.mp h)]

/-- The later of two timestamps bounds both. -/
lemma le_laterOf {last : Option Instant} {ts l}
    (h : l ≤ ts ∨ ∃ x ∈ last, l ≤ x) : ∃ x ∈ laterOf last ts, l ≤ x := by
  cases last with
  | none =>
    rcases h with h | ⟨x, hx, _⟩
    · exact ⟨ts, rfl, h⟩
    · cases hx
  | some k =>
    rw [laterOf_some]
    refine ⟨max k ts, rfl, ?_⟩
    rcases h with h | ⟨x, hx, h⟩
    · exact le_max_of_le_right h
    · cases hx
      exact le_max_of_le_left h

/-- The later of two timestamps is one of them. -/
lemma laterOf_eq {last : Option Instant} {ts x} (h : x ∈ laterOf last ts) : x = ts ∨ x ∈ last := by
  cases last with
  | none =>
    cases h
    exact .inl rfl
  | some k =>
    rw [laterOf_some] at h
    cases h
    rcases max_choice k ts with e | e
    · exact .inr (by rw [e]; rfl)
    · exact .inl e

/-- A record that anchors the cooldown of a key, with the time of its decision. -/
def Anchors (key : HistoryKey) (rec : RemediationRecord) (t : Instant) : Prop :=
  rec.proposal.key = key ∧ rec.status ∈ cooldownAnchorStatuses ∧
    ∃ a, rec.approval = some a ∧ a.val.decidedAt = t

/-- A record of another key is skipped. -/
lemma observe_other {key acc} {rec : RemediationRecord} (other : rec.proposal.key ≠ key) :
    observe key acc rec = acc := by simp [observe, other]

/-- A record never moves the last completion back, and an anchor moves it to its decision. -/
lemma le_observe {key acc rec t} (h : t ∈ acc.lastCompleted ∨ Anchors key rec t) :
    ∃ y ∈ (observe key acc rec).lastCompleted, t ≤ y := by
  by_cases own : rec.proposal.key = key
  · unfold observe
    simp only [own, ne_eq, not_true_eq_false, if_false]
    cases ha : rec.approval with
    | none =>
      rcases h with h | ⟨_, _, b, hb, _⟩
      · exact ⟨t, h, le_rfl⟩
      · rw [ha] at hb
        cases hb
    | some a =>
      dsimp only
      split
      · apply le_laterOf
        rcases h with h | ⟨_, _, b, hb, e⟩
        · exact .inr ⟨t, h, le_rfl⟩
        · rw [ha] at hb
          cases hb
          exact .inl e.ge
      · rename_i hs
        rcases h with h | ⟨_, hs', _⟩
        · exact ⟨t, h, le_rfl⟩
        · exact absurd hs' hs
  · rw [observe_other own]
    exact ⟨t, h.resolve_right fun anchor => own anchor.1, le_rfl⟩

/-- The last completion after a record was there before, or is the decision of an anchor. -/
lemma observe_source {key acc rec y} (h : y ∈ (observe key acc rec).lastCompleted) :
    y ∈ acc.lastCompleted ∨ Anchors key rec y := by
  by_cases own : rec.proposal.key = key
  · unfold observe at h
    simp only [own, ne_eq, not_true_eq_false, if_false] at h
    cases ha : rec.approval with
    | none =>
      rw [ha] at h
      exact .inl h
    | some a =>
      rw [ha] at h
      dsimp only at h
      split at h
      · rename_i hs
        rcases laterOf_eq h with e | h
        · exact .inr ⟨own, hs, a, ha, e.symm⟩
        · exact .inl h
      · exact .inl h
  · rw [observe_other own] at h
    exact .inl h

/-- A record of the key in an active status makes the key active. -/
lemma observe_active {key acc} {rec : RemediationRecord} :
    (observe key acc rec).activeExists = true ↔
      acc.activeExists = true ∨ (rec.proposal.key = key ∧ rec.status ∈ activeStatuses) := by
  by_cases own : rec.proposal.key = key
  · unfold observe
    simp only [own, ne_eq, not_true_eq_false, if_false, Bool.or_eq_true, decide_eq_true_eq, true_and]
  · rw [observe_other own]
    simp [own]

/-- What the fold of `history_snapshot` has seen of a key. -/
lemma foldl_observe {key} {recs : List RemediationRecord} {acc : RemediationHistorySnapshot} :
    ((recs.foldl (observe key) acc).activeExists = true ↔
      acc.activeExists = true ∨ ∃ r ∈ recs, r.proposal.key = key ∧ r.status ∈ activeStatuses) ∧
    (∀ t, (t ∈ acc.lastCompleted ∨ ∃ r ∈ recs, Anchors key r t) →
      ∃ x ∈ (recs.foldl (observe key) acc).lastCompleted, t ≤ x) ∧
    (∀ x ∈ (recs.foldl (observe key) acc).lastCompleted,
      x ∈ acc.lastCompleted ∨ ∃ r ∈ recs, Anchors key r x) := by
  induction recs generalizing acc with
  | nil =>
    refine ⟨by simp, ?_, ?_⟩
    · rintro t (h | ⟨r, hr, _⟩)
      · exact ⟨t, h, le_rfl⟩
      · cases hr
    · intro x hx
      exact .inl hx
  | cons rec recs ih =>
    obtain ⟨act, low, up⟩ := @ih (observe key acc rec)
    rw [List.foldl_cons]
    refine ⟨?_, ?_, ?_⟩
    · rw [act, observe_active, List.exists_mem_cons_iff]
      exact or_assoc
    · intro t h
      have h' : (t ∈ acc.lastCompleted ∨ Anchors key rec t) ∨ ∃ r ∈ recs, Anchors key r t := by
        rcases h with h | ⟨r, hr, h⟩
        · exact .inl (.inl h)
        · rcases List.mem_cons.mp hr with rfl | hr
          · exact .inl (.inr h)
          · exact .inr ⟨r, hr, h⟩
      rcases h' with h' | h'
      · obtain ⟨y, hy, le⟩ := le_observe h'
        obtain ⟨x, hx, le'⟩ := low y (.inl hy)
        exact ⟨x, hx, le_trans le le'⟩
      · exact low t (.inr h')
    · intro x hx
      rcases up x hx with h | ⟨r, hr, h⟩
      · rcases observe_source h with h | h
        · exact .inl h
        · exact .inr ⟨rec, List.mem_cons_self, h⟩
      · exact .inr ⟨r, List.mem_cons_of_mem _ hr, h⟩

/-- The snapshot reports an active remediation exactly when the store has one for the key. -/
theorem historySnapshot_active {m : InMemoryStore} {key} :
    (m.historySnapshot key).activeExists = true ↔
      ∃ rid rec, m.get rid = some rec ∧ rec.proposal.key = key ∧ rec.status ∈ activeStatuses := by
  unfold historySnapshot
  rw [foldl_observe.1]
  simp only [Bool.false_eq_true, false_or, Dict.mem_values_iff, get]
  constructor
  · rintro ⟨r, ⟨k, h⟩, h'⟩
    exact ⟨k, r, h, h'⟩
  · rintro ⟨k, r, h, h'⟩
    exact ⟨r, ⟨k, h⟩, h'⟩

/-- The snapshot's last completion is the latest decision time of the anchors of the key. -/
theorem historySnapshot_last {m : InMemoryStore} {key} :
    (∀ rid rec t, m.get rid = some rec → Anchors key rec t →
      ∃ x ∈ (m.historySnapshot key).lastCompleted, t ≤ x) ∧
    (∀ x ∈ (m.historySnapshot key).lastCompleted,
      ∃ rid rec, m.get rid = some rec ∧ Anchors key rec x) := by
  unfold historySnapshot
  obtain ⟨_, low, up⟩ := @foldl_observe key m.records.values {}
  constructor
  · intro rid rec t h ha
    exact low t (.inr ⟨rec, Dict.mem_values_iff.mpr ⟨rid, h⟩, ha⟩)
  · intro x hx
    rcases up x hx with h | ⟨r, hr, h⟩
    · cases h
    · obtain ⟨k, hk⟩ := Dict.mem_values_iff.mp hr
      exact ⟨k, r, hk, h⟩

end InMemoryStore

end SentinelOps.Remediation
