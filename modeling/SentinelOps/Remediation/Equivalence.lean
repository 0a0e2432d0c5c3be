import SentinelOps.Remediation.Queries

/-!
# The two repositories are equivalent

A `RepositoryCall` is a call of the repository; `MadeByService` says of a sequence of calls what the
service sees to: ids are fresh, a decision moves the status of the stored proposal only, and a
finishing call finishes the execution or verification that was begun. Over such a sequence both
repositories give the same replies, and `Mirrors` holds of the stores they are left with
(`call_agrees`, `repositories_equivalent`).
-/

namespace SentinelOps.Remediation

/-- A call of the repository. -/
inductive RepositoryCall where
  | create (record : RemediationRecord) (events : List RemediationAuditEvent)
  | get (rid : String)
  | list (flt : RemediationFilter)
  | recordDecision (rid : String) (newProposal : RemediationProposal)
      (approval : RemediationApproval) (events : List RemediationAuditEvent)
  | beginExecution (rid : String) (pending : ExecutionResult) (events : List RemediationAuditEvent)
  | finishExecution (rid executionId : String) (result : ExecutionResult)
      (final : RemediationStatus) (events : List RemediationAuditEvent)
  | beginVerification (rid : String) (pending : VerificationResult)
      (events : List RemediationAuditEvent)
  | finishVerification (rid verificationId : String) (result : VerificationResult)
      (final : RemediationStatus) (events : List RemediationAuditEvent)
  | listAuditEvents (rid : String) (limit offset : Nat)
  | historySnapshot (key : HistoryKey)

/-- What a call returns. -/
inductive Reply where
  | record (r : RemediationRecord)
  | found (r : Option RemediationRecord)
  | records (rs : List RemediationRecord)
  | events (es : List RemediationAuditEvent)
  | snapshot (h : RemediationHistorySnapshot)

/-- A writing call: the store it leaves and its reply; one that raises leaves the store alone. -/
def writing {σ : Type} (store : σ) : Except Error (σ × RemediationRecord) → σ × Except Error Reply
  | .ok (s, r) => (s, .ok (.record r))
  | .error e => (store, .error e)

/-- A call of the in-memory repository. -/
def InMemoryStore.call (m : InMemoryStore) : RepositoryCall → InMemoryStore × Except Error Reply
  | .create record events => writing m (m.create record events)
  | .get rid => (m, .ok (.found (m.get rid)))
  | .list flt => (m, .records <$> m.list flt)
  | .recordDecision rid np a events => writing m (m.recordDecision rid np a events)
  | .beginExecution rid pending events => writing m (m.beginExecution rid pending events)
  | .finishExecution rid eid result final events =>
    writing m (m.finishExecution rid eid result final events)
  | .beginVerification rid pending events => writing m (m.beginVerification rid pending events)
  | .finishVerification rid vid result final events =>
    writing m (m.finishVerification rid vid result final events)
  | .listAuditEvents rid limit offset => (m, .ok (.events (m.listAuditEvents rid limit offset)))
  | .historySnapshot key => (m, .ok (.snapshot (m.historySnapshot key)))

/-- A call of the SQL repository. -/
def SqlStore.call (s : SqlStore) : RepositoryCall → SqlStore × Except Error Reply
  | .create record events => writing s (s.create record events)
  | .get rid => (s, .found <$> s.get rid)
  | .list flt => (s, .records <$> s.list flt)
  | .recordDecision rid np a events => writing s (s.recordDecision rid np a events)
  | .beginExecution rid pending events => writing s (s.beginExecution rid pending events)
  | .finishExecution rid eid result final events =>
    writing s (s.finishExecution rid eid result final events)
  | .beginVerification rid pending events => writing s (s.beginVerification rid pending events)
  | .finishVerification rid vid result final events =>
    writing s (s.finishVerification rid vid result final events)
  | .listAuditEvents rid limit offset => (s, .events <$> s.listAuditEvents rid limit offset)
  | .historySnapshot key => (s, .ok (.snapshot (s.historySnapshot key)))

/-- The audit events a call is about to append. -/
def RepositoryCall.appended : RepositoryCall → List RemediationAuditEvent
  | .create _ events | .recordDecision _ _ _ events | .beginExecution _ _ events
  | .finishExecution _ _ _ _ events | .beginVerification _ _ events
  | .finishVerification _ _ _ _ events => events
  | .get _ | .list _ | .listAuditEvents _ _ _ | .historySnapshot _ => []

/-- Events about one remediation whose ids are new. -/
structure FreshEvents (m : InMemoryStore) (rid : String) (events : List RemediationAuditEvent) :
    Prop where
  own : ∀ e ∈ events, e.val.remediationId = rid
  fresh : ∀ e ∈ events, ∀ e' ∈ m.audit, e'.val.auditId ≠ e.val.auditId
  distinct : (events.map (·.val.auditId)).Nodup

/-- What `propose` sees to when it creates a record. -/
structure FreshCreate (m : InMemoryStore) (record : RemediationRecord)
    (events : List RemediationAuditEvent) : Prop where
  absent : m.get record.remediationId = none
  bare : record.approval = none ∧ record.execution = none ∧ record.verification = none
  created : ∀ rid rec, m.get rid = some rec →
    rec.proposal.val.createdAt ≠ record.proposal.val.createdAt
  events : FreshEvents m record.remediationId events

/-- What `decide` sees to when it records a decision. -/
structure FreshDecision (m : InMemoryStore) (rid : String) (np : RemediationProposal)
    (a : RemediationApproval) (events : List RemediationAuditEvent) : Prop where
  same : ∀ rec, m.get rid = some rec → np = rec.proposal.withStatus np.val.status
  own : a.val.remediationId = rid
  fresh : ∀ rid' rec b, m.get rid' = some rec → rec.approval = some b →
    b.val.approvalId ≠ a.val.approvalId
  events : FreshEvents m rid events

/-- A call the service may make on the store. -/
def AsServiceMakes (m : InMemoryStore) : RepositoryCall → Prop
  | .create record events => FreshCreate m record events
  | .recordDecision rid np a events => FreshDecision m rid np a events
  | .beginExecution rid pending events => pending.val.remediationId = rid ∧
    (∀ rid' x, m.executions.get? rid' = some x → x.val.executionId ≠ pending.val.executionId) ∧
    FreshEvents m rid events
  | .finishExecution rid eid result _ events =>
    (∀ rec, m.get rid = some rec → rec.status = .executing →
      ∃ x, rec.execution = some x ∧ x.val.executionId = eid ∧ FinishesExecution x result) ∧
    FreshEvents m rid events
  | .beginVerification rid pending events => pending.val.remediationId = rid ∧
    (∀ rid' x, m.verifications.get? rid' = some x →
      x.val.verificationId ≠ pending.val.verificationId) ∧
    FreshEvents m rid events
  | .finishVerification rid vid result _ events =>
    (∀ rec, m.get rid = some rec → rec.status = .verifying →
      ∃ x, rec.verification = some x ∧ x.val.verificationId = vid ∧
        FinishesVerification x result) ∧
    FreshEvents m rid events
  | .get _ | .list _ | .listAuditEvents _ _ _ | .historySnapshot _ => True

/-- A sequence of calls as the service makes them, from a given store on. -/
def MadeByService : InMemoryStore → List RepositoryCall → Prop
  | _, [] => True
  | m, c :: cs => AsServiceMakes m c ∧ MadeByService (m.call c).1 cs

/-- The same reply, or an error of the same class. -/
inductive SameReply : Except Error Reply → Except Error Reply → Prop where
  | ok {r} : SameReply (.ok r) (.ok r)
  | error {e e'} : e.cls = e'.cls → SameReply (.error e) (.error e')

/-- The tables hold the in-memory store written out, and both keep their ids apart. -/
structure Mirrors (s : SqlStore) (m : InMemoryStore) : Prop where
  rel : SqlRel s m
  approvalIds : ∀ id row, s.approvals.get? id = some row → row.id = id
  auditIds : (m.audit.map (·.val.auditId)).Nodup
  order : m.order.Nodup
  listed : ∀ rid, rid ∈ m.order ↔ m.get rid ≠ none
  created : ∀ rid rid' rec rec', m.get rid = some rec → m.get rid' = some rec' →
    rec.proposal.val.createdAt = rec'.proposal.val.createdAt → rid = rid'

/-- The result of a writing method on both stores: both fail in the same way, or both succeed with
the same record. -/
inductive Agree : Except Error (SqlStore × RemediationRecord) →
    Except Error (InMemoryStore × RemediationRecord) → Prop where
  | ok {s m r} : Mirrors s m → Agree (.ok (s, r)) (.ok (m, r))
  | error {e e'} : e.cls = e'.cls → Agree (.error e) (.error e')

/-- Agreeing methods give the same reply and leave matching stores. -/
lemma Agree.writing {s m x y} (h : Mirrors s m) (a : Agree x y) :
    SameReply (writing s x).2 (Remediation.writing m y).2 ∧
      Mirrors (Remediation.writing s x).1 (Remediation.writing m y).1 := by
  cases a with
  | ok h' => exact ⟨.ok, h'⟩
  | error e => exact ⟨.error e, h⟩

/-- A guard of both methods that refuses in the same class. -/
lemma Agree.ensure {p q : Prop} [Decidable p] [Decidable q] {e e' : Error} {x y} (same : p ↔ q)
    (cls : e.cls = e'.cls) (k : q → Agree x y) :
    Agree (ensure p e >>= fun _ => x) (ensure q e' >>= fun _ => y) := by
  by_cases hq : q
  · rw [ensure_of (same.mpr hq), ensure_of hq]
    exact k hq
  · rw [ensure_of_not (fun hp => hq (same.mp hp)), ensure_of_not hq]
    exact .error cls

section
variable {s : SqlStore} {m : InMemoryStore} {rid : String} {events : List RemediationAuditEvent}

/-- New events can be appended to the tables when their remediation is there. -/
lemma SqlRel.insertAudit {t : SqlStore} (h : SqlRel s m)
    (apart : (m.audit.map (·.val.auditId)).Nodup) (fresh : FreshEvents m rid events)
    (audit : t.audit = s.audit) (there : t.remediations.contains rid = true) :
    t.insertAudit events = .ok { t with audit := t.audit ++ events.map auditToRow } := by
  unfold SqlStore.insertAudit
  rw [ensure_of]
  · rfl
  · refine ⟨?_, fun e he => fresh.own e he ▸ there⟩
    have ids : (t.audit.map (·.auditId)) = m.audit.map (·.val.auditId) := by
      rw [audit, h.audit, List.map_map]
      rfl
    rw [ids, List.nodup_append]
    refine ⟨apart, fresh.distinct, ?_⟩
    intro a ha b hb
    obtain ⟨e', he', rfl⟩ := List.mem_map.mp ha
    obtain ⟨e, he, rfl⟩ := List.mem_map.mp hb
    exact fresh.fresh e he e' he'

/-- The ids of the trail stay apart when new events are appended. -/
lemma Mirrors.nodup_audit (h : Mirrors s m) (fresh : FreshEvents m rid events) :
    ((m.audit ++ events).map (·.val.auditId)).Nodup := by
  rw [List.map_append, List.nodup_append]
  refine ⟨h.auditIds, fresh.distinct, ?_⟩
  intro a ha b hb
  obtain ⟨e', he', rfl⟩ := List.mem_map.mp ha
  obtain ⟨e, he, rfl⟩ := List.mem_map.mp hb
  exact fresh.fresh e he e' he'

/-- Matching stores after a stored record was replaced by one with the same creation time. -/
lemma Mirrors.replace {s' : SqlStore} {m' : InMemoryStore} {rec rec'} (h : Mirrors s m)
    (rel : SqlRel s' m') (found : m.get rid = some rec)
    (created : rec'.proposal.val.createdAt = rec.proposal.val.createdAt)
    (records : m'.records = m.records.set rid rec') (order : m'.order = m.order)
    (fresh : FreshEvents m rid events) (audit : m'.audit = m.audit ++ events)
    (approvals : ∀ id row, s'.approvals.get? id = some row → row.id = id) : Mirrors s' m' := by
  have get : ∀ r, m'.get r = if r = rid then some rec' else m.get r := by
    intro r
    unfold InMemoryStore.get
    rw [records, Dict.get?_set]
  -- the creation time stored under an id is the one it had before
  have time : ∀ r x, m'.get r = some x → ∃ y, m.get r = some y ∧
      y.proposal.val.createdAt = x.proposal.val.createdAt := by
    intro r x hx
    rw [get] at hx
    split at hx
    · rename_i e
      cases hx
      exact ⟨rec, e ▸ found, created.symm⟩
    · exact ⟨x, hx, rfl⟩
  refine ⟨rel, approvals, ?_, order ▸ h.order, ?_, ?_⟩
  · rw [audit]
    exact h.nodup_audit fresh
  · intro r
    rw [order, h.listed, get]
    split
    · rename_i e
      rw [e, found]
      simp
    · exact Iff.rfl
  · intro r r' x x' hx hx' same
    obtain ⟨y, hy, ty⟩ := time r x hx
    obtain ⟨y', hy', ty'⟩ := time r' x' hx'
    exact h.created r r' y y' hy hy' (by rw [ty, ty', same])

/-- The stored record after an update. -/
lemma get_put {rec : RemediationRecord} : (m.put rid rec events).get rid = some rec := by
  unfold InMemoryStore.get InMemoryStore.put
  rw [Dict.get?_set, if_pos rfl]

/-- What a method reads again after its commit. -/
lemma SqlRel.reread (h : SqlRel s m) {rec} (found : m.get rid = some rec) :
    s.reread rid = .ok (s, rec) := by
  unfold SqlStore.reread
  rw [h.get, found]
  rfl

/-- A method that inserts its row and then its audit events returns the record it reads again. -/
lemma SqlRel.insertAndReread {cls} {insert : Except Error SqlStore} {s1 s2 : SqlStore} {rec}
    (h : SqlRel s2 m) (ins : insert = .ok s1) (aud : s1.insertAudit events = .ok s2)
    (found : m.get rid = some rec) :
    (SqlStore.onIntegrityError cls rid (insert >>= fun s1 => s1.insertAudit events) >>=
      fun s' => s'.reread rid) = .ok (s2, rec) := by
  rw [ins, Except.ok_bind, aud]
  exact h.reread found

/-- Both stores hold the row of a record, or neither does. -/
lemma SqlRel.lockRow (h : SqlRel s m) : s.lockRow rid =
    (m.get rid).elim (.error ⟨.notFound, rid⟩) fun rec => .ok (recordToRow rec) := by
  unfold SqlStore.lockRow InMemoryStore.get
  rw [h.rows]
  cases m.records.get? rid <;> rfl

/-- The row of a stored record is there. -/
lemma SqlRel.contains (h : SqlRel s m) {rec} (found : m.get rid = some rec) :
    s.remediations.contains rid = true := by
  unfold Dict.contains
  rw [h.rows, show m.records.get? rid = some rec from found]
  rfl

/-- A table that was just written under an id holds that id. -/
lemma contains_set {ρ : Type} {t : Dict String ρ} {row : ρ} : (t.set rid row).contains rid = true := by
  unfold Dict.contains
  rw [Dict.get?_set, if_pos rfl]
  rfl

/-- `create` agrees. -/
lemma Mirrors.create {record} (h : Mirrors s m) (made : FreshCreate m record events) :
    Agree (s.create record events) (m.create record events) := by
  have absent : m.records.get? record.remediationId = none := made.absent
  have absent' : s.remediations.get? record.remediationId = none := by
    rw [h.rel.rows, absent]
    rfl
  let s1 : SqlStore :=
    { s with remediations := s.remediations.set record.remediationId (recordToRow record) }
  have ins := h.rel.insertAudit (t := s1) h.auditIds made.events rfl contains_set
  have run : s.create record events =
      .ok ({ s1 with audit := s1.audit ++ events.map auditToRow }, record) := by
    unfold SqlStore.create
    change (SentinelOps.ensure ((s.remediations.get? record.remediationId).isNone = true) _ >>= fun _ =>
      s1.insertAudit events >>= fun s' => .ok (s', record)) = _
    rw [ensure_of (by rw [absent']; rfl), ins]
    rfl
  obtain ⟨m', runM, rel⟩ := h.rel.create made.bare run
  rw [run, runM]
  obtain ⟨_, _, rfl⟩ := InMemoryStore.create_ok runM
  have get : ∀ r, InMemoryStore.get { m with
      records := m.records.set record.remediationId record
      order := m.order ++ [record.remediationId]
      audit := m.audit ++ events } r =
        if r = record.remediationId then some record else m.get r := fun r => Dict.get?_set
  refine .ok ⟨rel, h.approvalIds, h.nodup_audit made.events, ?_, ?_, ?_⟩
  · rw [List.nodup_append]
    refine ⟨h.order, List.nodup_singleton _, ?_⟩
    intro a ha b hb e
    rw [List.mem_singleton] at hb
    rw [e, hb] at ha
    exact (h.listed _).mp ha made.absent
  · intro r
    rw [get, List.mem_append, List.mem_singleton, h.listed]
    by_cases e : r = record.remediationId <;> simp [e]
  · intro r r' x x' hx hx' same
    rw [get] at hx hx'
    split at hx
    · rename_i e
      cases hx
      split at hx'
      · rename_i e'
        rw [e, e']
      · exact absurd same.symm (made.created r' x' hx')
    · split at hx'
      · cases hx'
        exact absurd same (made.created r x hx)
      · exact h.created r r' x x' hx hx' same

/-- The id of a new decision is new in the table of the approvals. -/
lemma Mirrors.approval_fresh {np a} (h : Mirrors s m) (made : FreshDecision m rid np a events) :
    s.approvals.get? a.val.approvalId = none := by
  cases found : s.approvals.get? a.val.approvalId with
  | none => rfl
  | some row =>
    have mem : row ∈ s.approvalsOf row.remediationId :=
      List.mem_filter.mpr ⟨Dict.mem_values_iff.mpr ⟨_, found⟩, decide_eq_true rfl⟩
    rw [h.rel.approvals] at mem
    obtain ⟨b, hb, e⟩ := List.mem_map.mp mem
    obtain ⟨rec, hrec, hb⟩ := Option.bind_eq_some_iff.mp (Option.mem_toList.mp hb)
    have same : b.val.approvalId = a.val.approvalId := by
      rw [← h.approvalIds _ _ found, ← e]
      rfl
    exact absurd same (made.fresh _ rec b hrec hb)

/-- Recording the first decision on a remediation succeeds on the tables. -/
lemma SqlRel.recordDecision_run {rec np a} (h : SqlRel s m)
    (apart : (m.audit.map (·.val.auditId)).Nodup)
    (unknown : s.approvals.get? a.val.approvalId = none) (found : m.get rid = some rec)
    (undecided : rec.approval = none) (same : np = rec.proposal.withStatus np.val.status)
    (own : a.val.remediationId = rid) (new : FreshEvents m rid events) :
    ∃ s', s.recordDecision rid np a events =
      .ok (s', { rec with proposal := np, approval := some a }) ∧
      s'.approvals = s.approvals.set a.val.approvalId (approvalToRow rid a) ∧
      SqlRel s' (m.put rid { rec with proposal := np, approval := some a } events) := by
  have free : (s.approvalsOf rid).isEmpty = true := by
    rw [h.approvals, show m.records.get? rid = some rec from found, Option.bind_some, undecided]
    rfl
  let s0 : SqlStore := { s with remediations := s.remediations.set rid (decidedRow rec np a) }
  let s1 : SqlStore :=
    { s0 with approvals := s0.approvals.set a.val.approvalId (approvalToRow rid a) }
  have ins : s0.insertApproval (approvalToRow rid a) = .ok s1 := by
    unfold SqlStore.insertApproval
    rw [ensure_of]
    · rfl
    · exact ⟨Option.isNone_iff_eq_none.mpr unknown, free⟩
  have aud := h.insertAudit (t := s1) apart new rfl contains_set
  have rel := h.decided found undecided same own ins aud
  refine ⟨{ s1 with audit := s1.audit ++ events.map auditToRow }, ?_, rfl, rel⟩
  unfold SqlStore.recordDecision
  rw [h.lockRow, found, Option.elim_some, Except.ok_bind, ensure_of free, Except.ok_bind]
  exact rel.insertAndReread ins aud get_put

/-- `record_decision` agrees. -/
lemma Mirrors.recordDecision {np a} (h : Mirrors s m) (made : FreshDecision m rid np a events) :
    Agree (s.recordDecision rid np a events) (m.recordDecision rid np a events) := by
  cases found : m.records.get? rid with
  | none =>
    unfold SqlStore.recordDecision InMemoryStore.recordDecision
    rw [h.rel.lockRow, show m.get rid = none from found, found]
    exact .error rfl
  | some rec =>
    have there : m.get rid = some rec := found
    by_cases undecided : rec.approval = none
    · obtain ⟨s', run, approvals, rel⟩ := h.rel.recordDecision_run h.auditIds (h.approval_fresh made)
        there undecided (made.same rec there) made.own made.events
      unfold InMemoryStore.recordDecision
      rw [run, found]
      dsimp only
      rw [ensure_of (Option.isNone_iff_eq_none.mpr undecided), Except.ok_bind]
      refine .ok (h.replace rel there ?_ rfl rfl made.events rfl ?_)
      · change np.val.createdAt = _
        rw [made.same rec there]
        rfl
      · intro id x hx
        rw [approvals, Dict.get?_set] at hx
        split at hx
        · rename_i e
          cases hx
          exact e.symm
        · exact h.approvalIds id x hx
    · unfold SqlStore.recordDecision InMemoryStore.recordDecision
      rw [h.rel.lockRow, there, found, Option.elim_some, Except.ok_bind]
      refine .ensure ?_ rfl ?_
      · rw [h.rel.approvals, found]
        cases ha : rec.approval <;> simp [ha]
      · intro none'
        exact absurd (Option.isNone_iff_eq_none.mp none') undecided

/-- The id of a new execution is new in the table of the executions. -/
lemma Mirrors.execution_fresh {id : String} (h : Mirrors s m)
    (fresh : ∀ rid' x, m.executions.get? rid' = some x → x.val.executionId ≠ id) :
    s.executions.get? id = none := by
  cases found : s.executions.get? id with
  | none => rfl
  | some row =>
    have mem : row ∈ s.executionsOf row.remediationId :=
      List.mem_filter.mpr ⟨Dict.mem_values_iff.mpr ⟨_, found⟩, decide_eq_true rfl⟩
    rw [h.rel.executions, ← h.rel.executionsDict] at mem
    obtain ⟨x, hx, e⟩ := List.mem_map.mp mem
    have same : x.val.executionId = id := by
      rw [← h.rel.executionIds _ _ found, ← e]
      rfl
    exact absurd same (fresh _ x (Option.mem_toList.mp hx))

/-- The id of a new verification is new in the table of the verifications. -/
lemma Mirrors.verification_fresh {id : String} (h : Mirrors s m)
    (fresh : ∀ rid' x, m.verifications.get? rid' = some x → x.val.verificationId ≠ id) :
    s.verifications.get? id = none := by
  cases found : s.verifications.get? id with
  | none => rfl
  | some row =>
    have mem : row ∈ s.verificationsOf row.remediationId :=
      List.mem_filter.mpr ⟨Dict.mem_values_iff.mpr ⟨_, found⟩, decide_eq_true rfl⟩
    rw [h.rel.verifications, ← h.rel.verificationsDict] at mem
    obtain ⟨x, hx, e⟩ := List.mem_map.mp mem
    have same : x.val.verificationId = id := by
      rw [← h.rel.verificationIds _ _ found, ← e]
      rfl
    exact absurd same (fresh _ x (Option.mem_toList.mp hx))

/-- The status column of a record's row. -/
lemma recordToRow_status {rec : RemediationRecord} {st : RemediationStatus} :
    (recordToRow rec).status = str st ↔ rec.status = st := StrEnum.str_inj

/-- `begin_execution` agrees. -/
lemma Mirrors.beginExecution {pending} (h : Mirrors s m) (own : pending.val.remediationId = rid)
    (fresh : ∀ rid' x, m.executions.get? rid' = some x →
      x.val.executionId ≠ pending.val.executionId) (new : FreshEvents m rid events) :
    Agree (s.beginExecution rid pending events) (m.beginExecution rid pending events) := by
  unfold SqlStore.beginExecution InMemoryStore.beginExecution
  rw [h.rel.lockRow]
  cases found : m.records.get? rid with
  | none =>
    rw [show m.get rid = none from found]
    exact .error rfl
  | some rec =>
    have there : m.get rid = some rec := found
    rw [there, Option.elim_some, Except.ok_bind]
    dsimp only
    by_cases approved : rec.status = .approved
    swap
    · rw [ensure_of_not (fun e => approved (recordToRow_status.mp e)),
        ensure_of_not (fun e => approved e.1)]
      exact .error rfl
    rw [ensure_of (recordToRow_status.mpr approved), Except.ok_bind]
    have edge : validateTransition .approved .executing = .ok () := ensure_of rfl
    rw [edge, Except.ok_bind]
    let s0 : SqlStore := s.setStatus rid (recordToRow rec) .executing
    cases hx : rec.execution with
    | some x =>
      -- a record that has an execution already: the table and the dictionary both refuse a second
      have taken : (s0.executionsOf (executionToRow pending).remediationId).isEmpty ≠ true := by
        change (s.executionsOf pending.val.remediationId).isEmpty ≠ true
        rw [own, h.rel.executions, found]
        simp [hx]
      have refused : s0.insertExecution (executionToRow pending) =
          .error ⟨.integrity, "remediation_executions"⟩ := by
        unfold SqlStore.insertExecution
        rw [ensure_of_not (fun c => taken c.2.1)]
        rfl
      change Agree (SqlStore.onIntegrityError .executionConflict rid
        (s0.insertExecution (executionToRow pending) >>= fun s1 => s1.insertAudit events) >>=
          fun s' => s'.reread rid) _
      rw [refused, ensure_of_not]
      · exact .error rfl
      · intro claim
        have none := claim.2
        rw [h.rel.executionsDict, found, Option.bind_some, hx] at none
        cases none
    | none =>
      have free : m.executions.get? rid = none := by
        rw [h.rel.executionsDict, found, Option.bind_some, hx]
      rw [ensure_of ⟨approved, free⟩, Except.ok_bind, Except.ok_bind]
      let s1 : SqlStore :=
        { s0 with executions := s0.executions.set pending.val.executionId (executionToRow pending) }
      have ins : s0.insertExecution (executionToRow pending) = .ok s1 := by
        unfold SqlStore.insertExecution
        rw [ensure_of]
        · rfl
        · refine ⟨?_, ?_, ?_⟩
          · rw [Option.isNone_iff_eq_none]
            exact h.execution_fresh fresh
          · change (s.executionsOf pending.val.remediationId).isEmpty = true
            rw [own, h.rel.executions, found, Option.bind_some, hx]
            rfl
          · change (s.remediations.set rid _).contains pending.val.remediationId = true
            rw [own]
            exact contains_set
      have aud := h.rel.insertAudit (t := s1) h.auditIds new rfl contains_set
      have rel := h.rel.executionBegun found hx own ins aud
      change Agree (SqlStore.onIntegrityError .executionConflict rid
        (s0.insertExecution (executionToRow pending) >>= fun s1 => s1.insertAudit events) >>=
          fun s' => s'.reread rid) _
      rw [rel.insertAndReread ins aud (@get_put m rid events _)]
      refine .ok (h.replace rel there ?_ rfl rfl new rfl h.approvalIds)
      rfl

/-- `begin_verification` agrees. -/
lemma Mirrors.beginVerification {pending} (h : Mirrors s m)
    (own : pending.val.remediationId = rid)
    (fresh : ∀ rid' x, m.verifications.get? rid' = some x →
      x.val.verificationId ≠ pending.val.verificationId) (new : FreshEvents m rid events) :
    Agree (s.beginVerification rid pending events) (m.beginVerification rid pending events) := by
  unfold SqlStore.beginVerification InMemoryStore.beginVerification
  rw [h.rel.lockRow]
  cases found : m.records.get? rid with
  | none =>
    rw [show m.get rid = none from found]
    exact .error rfl
  | some rec =>
    have there : m.get rid = some rec := found
    rw [there, Option.elim_some, Except.ok_bind]
    dsimp only
    by_cases executed : rec.status = .executed
    swap
    · rw [ensure_of_not (fun e => executed (recordToRow_status.mp e)),
        ensure_of_not (fun e => executed e.1)]
      exact .error rfl
    rw [ensure_of (recordToRow_status.mpr executed), Except.ok_bind]
    have edge : validateTransition .executed .verifying = .ok () := ensure_of rfl
    rw [edge, Except.ok_bind]
    let s0 : SqlStore := s.setStatus rid (recordToRow rec) .verifying
    cases hx : rec.verification with
    | some x =>
      -- a record that has a verification already: the table and the dictionary both refuse a second
      have taken : (s0.verificationsOf (verificationToRow pending).remediationId).isEmpty ≠ true := by
        change (s.verificationsOf pending.val.remediationId).isEmpty ≠ true
        rw [own, h.rel.verifications, found]
        simp [hx]
      have refused : s0.insertVerification (verificationToRow pending) =
          .error ⟨.integrity, "remediation_verifications"⟩ := by
        unfold SqlStore.insertVerification
        rw [ensure_of_not (fun c => taken c.2.1)]
        rfl
      change Agree (SqlStore.onIntegrityError .verificationConflict rid
        (s0.insertVerification (verificationToRow pending) >>= fun s1 => s1.insertAudit events) >>=
          fun s' => s'.reread rid) _
      rw [refused, ensure_of_not]
      · exact .error rfl
      · intro claim
        have none := claim.2
        rw [h.rel.verificationsDict, found, Option.bind_some, hx] at none
        cases none
    | none =>
      have free : m.verifications.get? rid = none := by
        rw [h.rel.verificationsDict, found, Option.bind_some, hx]
      rw [ensure_of ⟨executed, free⟩, Except.ok_bind, Except.ok_bind]
      let s1 : SqlStore := { s0 with
        verifications := s0.verifications.set pending.val.verificationId (verificationToRow pending) }
      have ins : s0.insertVerification (verificationToRow pending) = .ok s1 := by
        unfold SqlStore.insertVerification
        rw [ensure_of]
        · rfl
        · refine ⟨?_, ?_, ?_⟩
          · rw [Option.isNone_iff_eq_none]
            exact h.verification_fresh fresh
          · change (s.verificationsOf pending.val.remediationId).isEmpty = true
            rw [own, h.rel.verifications, found, Option.bind_some, hx]
            rfl
          · change (s.remediations.set rid _).contains pending.val.remediationId = true
            rw [own]
            exact contains_set
      have aud := h.rel.insertAudit (t := s1) h.auditIds new rfl contains_set
      have rel := h.rel.verificationBegun found hx own ins aud
      change Agree (SqlStore.onIntegrityError .verificationConflict rid
        (s0.insertVerification (verificationToRow pending) >>= fun s1 => s1.insertAudit events) >>=
          fun s' => s'.reread rid) _
      rw [rel.insertAndReread ins aud (@get_put m rid events _)]
      refine .ok (h.replace rel there ?_ rfl rfl new rfl h.approvalIds)
      rfl

/-- Finishing the execution that was begun succeeds on the tables. -/
lemma SqlRel.finishExecution_run {rec x result final} (h : SqlRel s m)
    (apart : (m.audit.map (·.val.auditId)).Nodup) (found : m.get rid = some rec)
    (executing : rec.status = .executing) (edge : canTransition .executing final = true)
    (hx : rec.execution = some x) (fin : FinishesExecution x result)
    (new : FreshEvents m rid events) :
    ∃ s', s.finishExecution rid x.val.executionId result final events =
      .ok (s', { rec.withStatus final with execution := some result }) ∧
      s'.approvals = s.approvals ∧
      SqlRel s' { m.put rid { rec.withStatus final with execution := some result } events with
        executions := m.executions.set rid result } := by
  let s1 : SqlStore := { s.setStatus rid (recordToRow rec) final with
    executions := s.executions.set x.val.executionId (finishedExecutionRow x result) }
  have aud := h.insertAudit (t := s1) apart new rfl contains_set
  have rel := h.executionFinished found hx fin aud
  refine ⟨{ s1 with audit := s1.audit ++ events.map auditToRow }, ?_, rfl, rel⟩
  unfold SqlStore.finishExecution
  have step : validateTransition .executing final = .ok () := ensure_of edge
  rw [h.lockRow, found, Option.elim_some, Except.ok_bind,
    ensure_of (recordToRow_status.mpr executing), Except.ok_bind, step, Except.ok_bind,
    (h.executionRow found hx).1]
  change (s1.insertAudit events >>= fun s' => s'.reread rid) = _
  rw [aud, Except.ok_bind, rel.reread (@get_put m rid events _)]

/-- `finish_execution` agrees. -/
lemma Mirrors.finishExecution {eid result final} (h : Mirrors s m)
    (began : ∀ rec, m.get rid = some rec → rec.status = .executing →
      ∃ x, rec.execution = some x ∧ x.val.executionId = eid ∧ FinishesExecution x result)
    (new : FreshEvents m rid events) :
    Agree (s.finishExecution rid eid result final events)
      (m.finishExecution rid eid result final events) := by
  cases found : m.records.get? rid with
  | none =>
    unfold SqlStore.finishExecution InMemoryStore.finishExecution
    rw [h.rel.lockRow, show m.get rid = none from found, found]
    exact .error rfl
  | some rec =>
    have there : m.get rid = some rec := found
    by_cases claim : rec.status = .executing ∧ canTransition .executing final = true
    · obtain ⟨executing, edge⟩ := claim
      obtain ⟨x, hx, rfl, fin⟩ := began rec there executing
      obtain ⟨s', run, same, rel⟩ :=
        h.rel.finishExecution_run h.auditIds there executing edge hx fin new
      have step : validateTransition .executing final = .ok () := ensure_of edge
      unfold InMemoryStore.finishExecution
      rw [run, found]
      dsimp only
      rw [ensure_of executing, Except.ok_bind, step, Except.ok_bind]
      refine .ok (h.replace rel there ?_ rfl rfl new rfl (same ▸ h.approvalIds))
      rfl
    · unfold SqlStore.finishExecution InMemoryStore.finishExecution
      rw [h.rel.lockRow, there, found, Option.elim_some, Except.ok_bind]
      refine .ensure recordToRow_status rfl ?_
      intro executing
      refine .ensure Iff.rfl rfl ?_
      intro edge
      exact absurd ⟨executing, edge⟩ claim

/-- Finishing the verification that was begun succeeds on the tables. -/
lemma SqlRel.finishVerification_run {rec x result final} (h : SqlRel s m)
    (apart : (m.audit.map (·.val.auditId)).Nodup) (found : m.get rid = some rec)
    (verifying : rec.status = .verifying) (edge : canTransition .verifying final = true)
    (hx : rec.verification = some x) (fin : FinishesVerification x result)
    (new : FreshEvents m rid events) :
    ∃ s', s.finishVerification rid x.val.verificationId result final events =
      .ok (s', { rec.withStatus final with verification := some result }) ∧
      s'.approvals = s.approvals ∧
      SqlRel s' { m.put rid { rec.withStatus final with verification := some result } events with
        verifications := m.verifications.set rid result } := by
  let s1 : SqlStore := { s.setStatus rid (recordToRow rec) final with
    verifications := s.verifications.set x.val.verificationId (finishedVerificationRow x result) }
  have aud := h.insertAudit (t := s1) apart new rfl contains_set
  have rel := h.verificationFinished found hx fin aud
  refine ⟨{ s1 with audit := s1.audit ++ events.map auditToRow }, ?_, rfl, rel⟩
  unfold SqlStore.finishVerification
  have step : validateTransition .verifying final = .ok () := ensure_of edge
  rw [h.lockRow, found, Option.elim_some, Except.ok_bind,
    ensure_of (recordToRow_status.mpr verifying), Except.ok_bind, step, Except.ok_bind,
    (h.verificationRow found hx).1]
  change (s1.insertAudit events >>= fun s' => s'.reread rid) = _
  rw [aud, Except.ok_bind, rel.reread (@get_put m rid events _)]

/-- `finish_verification` agrees. -/
lemma Mirrors.finishVerification {vid result final} (h : Mirrors s m)
    (began : ∀ rec, m.get rid = some rec → rec.status = .verifying →
      ∃ x, rec.verification = some x ∧ x.val.verificationId = vid ∧ FinishesVerification x result)
    (new : FreshEvents m rid events) :
    Agree (s.finishVerification rid vid result final events)
      (m.finishVerification rid vid result final events) := by
  cases found : m.records.get? rid with
  | none =>
    unfold SqlStore.finishVerification InMemoryStore.finishVerification
    rw [h.rel.lockRow, show m.get rid = none from found, found]
    exact .error rfl
  | some rec =>
    have there : m.get rid = some rec := found
    by_cases claim : rec.status = .verifying ∧ canTransition .verifying final = true
    · obtain ⟨verifying, edge⟩ := claim
      obtain ⟨x, hx, rfl, fin⟩ := began rec there verifying
      obtain ⟨s', run, same, rel⟩ :=
        h.rel.finishVerification_run h.auditIds there verifying edge hx fin new
      have step : validateTransition .verifying final = .ok () := ensure_of edge
      unfold InMemoryStore.finishVerification
      rw [run, found]
      dsimp only
      rw [ensure_of verifying, Except.ok_bind, step, Except.ok_bind]
      refine .ok (h.replace rel there ?_ rfl rfl new rfl (same ▸ h.approvalIds))
      rfl
    · unfold SqlStore.finishVerification InMemoryStore.finishVerification
      rw [h.rel.lockRow, there, found, Option.elim_some, Except.ok_bind]
      refine .ensure recordToRow_status rfl ?_
      intro verifying
      refine .ensure Iff.rfl rfl ?_
      intro edge
      exact absurd ⟨verifying, edge⟩ claim

/-- The stored records in the order of their creation. -/
def InMemoryStore.listing (m : InMemoryStore) : List RemediationRecord := m.order.filterMap m.get

/-- Listing ids that are all there. -/
lemma mapM_getItem {ids : List String} (h : ∀ rid ∈ ids, m.get rid ≠ none) :
    ids.mapM m.getItem = .ok (ids.filterMap m.get) := by
  induction ids with
  | nil => rfl
  | cons rid ids ih =>
    obtain ⟨rec, found⟩ := Option.ne_none_iff_exists'.mp (h rid List.mem_cons_self)
    have item : m.getItem rid = .ok rec := by
      unfold InMemoryStore.getItem
      rw [show m.records.get? rid = some rec from found]
    rw [List.mapM_cons, item, ih fun r hr => h r (List.mem_cons_of_mem _ hr),
      List.filterMap_cons_some found]
    rfl

/-- A listed record is a stored one. -/
lemma Mirrors.mem_listing {rec} (h : Mirrors s m) :
    rec ∈ m.listing ↔ ∃ rid, m.get rid = some rec := by
  unfold InMemoryStore.listing
  rw [List.mem_filterMap]
  constructor
  · rintro ⟨rid, _, found⟩
    exact ⟨rid, found⟩
  · rintro ⟨rid, found⟩
    refine ⟨rid, (h.listed rid).mpr ?_, found⟩
    rw [found]
    exact Option.some_ne_none _

/-- The ids of the listed records. -/
lemma map_remediationId {ids : List String} (keyed : ∀ rid rec, m.get rid = some rec →
    rec.remediationId = rid) (h : ∀ rid ∈ ids, m.get rid ≠ none) :
    (ids.filterMap m.get).map (·.remediationId) = ids := by
  induction ids with
  | nil => rfl
  | cons rid ids ih =>
    obtain ⟨rec, found⟩ := Option.ne_none_iff_exists'.mp (h rid List.mem_cons_self)
    rw [List.filterMap_cons_some found, List.map_cons, keyed rid rec found,
      ih fun r hr => h r (List.mem_cons_of_mem _ hr)]

/-- The rows of the table are the listed records written out, in some order. -/
lemma Mirrors.values_perm (h : Mirrors s m) :
    s.remediations.values.Perm (m.listing.map recordToRow) := by
  have ids : ∀ e ∈ s.remediations.entries, e.2.id = e.1 := by
    intro e he
    have found : s.remediations.get? e.1 = some e.2 := Dict.get?_eq_some_iff.mpr he
    rw [h.rel.rows] at found
    obtain ⟨rec, hrec, hrow⟩ := Option.map_eq_some_iff.mp found
    rw [← hrow]
    exact (h.rel.keyed _ _ hrec).1
  rw [List.perm_ext_iff_of_nodup]
  · intro row
    rw [Dict.mem_values_iff, List.mem_map]
    constructor
    · rintro ⟨k, found⟩
      rw [h.rel.rows] at found
      obtain ⟨rec, hrec, hrow⟩ := Option.map_eq_some_iff.mp found
      exact ⟨rec, h.mem_listing.mpr ⟨k, hrec⟩, hrow⟩
    · rintro ⟨rec, hrec, rfl⟩
      obtain ⟨rid, found⟩ := h.mem_listing.mp hrec
      refine ⟨rid, ?_⟩
      rw [h.rel.rows, show m.records.get? rid = some rec from found]
      rfl
  · apply List.Nodup.of_map (·.id)
    have keys : s.remediations.values.map (·.id) = s.remediations.entries.map Prod.fst := by
      unfold Dict.values
      rw [List.map_map]
      exact List.map_congr_left ids
    rw [keys]
    exact s.remediations.nodup
  · apply List.Nodup.of_map (·.id)
    rw [List.map_map]
    have keyed : ∀ rid rec, m.get rid = some rec → rec.remediationId = rid :=
      fun rid rec found => (h.rel.keyed rid rec found).1
    have eq : m.listing.map (RemediationRow.id ∘ recordToRow) = m.order :=
      map_remediationId keyed fun rid hr => (h.listed rid).mp hr
    rw [eq]
    exact h.order

/-- Both filters select the same remediations. -/
lemma selects_recordToRow {flt} {rec : RemediationRecord} :
    SqlStore.selects flt (recordToRow rec) = InMemoryStore.selects flt rec := by
  have st : ∀ x : RemediationStatus, decide ((recordToRow rec).status = str x) =
      decide (rec.status = x) := fun x => decide_eq_decide.mpr recordToRow_status
  have act : ∀ x : RemediationActionType, decide ((recordToRow rec).actionType = str x) =
      decide (rec.proposal.val.actionType = x) := fun x => decide_eq_decide.mpr StrEnum.str_inj
  unfold SqlStore.selects InMemoryStore.selects
  simp only [st, act]
  rfl

/-- Rows of stored records are read back as the records. -/
lemma SqlRel.mapM_rowToRecord (h : SqlRel s m) {recs : List RemediationRecord}
    (stored : ∀ rec ∈ recs, ∃ rid, m.get rid = some rec) :
    (recs.map recordToRow).mapM s.rowToRecord = .ok recs := by
  induction recs with
  | nil => rfl
  | cons rec recs ih =>
    obtain ⟨rid, found⟩ := stored rec List.mem_cons_self
    rw [List.map_cons, List.mapM_cons, h.rowToRecord found,
      ih fun r hr => stored r (List.mem_cons_of_mem _ hr)]
    rfl

/-- The newer of two records comes first. -/
def newerFirst (a b : RemediationRecord) : Bool :=
  decide (b.proposal.val.createdAt ≤ a.proposal.val.createdAt)

/-- The newer of two rows comes first. -/
def newerRowFirst (a b : RemediationRow) : Bool := decide (b.createdAt ≤ a.createdAt)

/-- Records sorted by `newerFirst` are sorted. -/
lemma pairwise_newerFirst {l : List RemediationRecord} :
    (l.mergeSort newerFirst).Pairwise fun a b => newerFirst a b = true := by
  apply List.pairwise_mergeSort
  · intro a b c hab hbc
    exact decide_eq_true (le_trans (of_decide_eq_true hbc) (of_decide_eq_true hab))
  · intro a b
    simpa [newerFirst] using le_total b.proposal.val.createdAt a.proposal.val.createdAt

/-- Rows sorted by `newerRowFirst` are sorted. -/
lemma pairwise_newerRowFirst {l : List RemediationRow} :
    (l.mergeSort newerRowFirst).Pairwise fun a b => newerRowFirst a b = true := by
  apply List.pairwise_mergeSort
  · intro a b c hab hbc
    exact decide_eq_true (le_trans (of_decide_eq_true hbc) (of_decide_eq_true hab))
  · intro a b
    simpa [newerRowFirst] using le_total b.createdAt a.createdAt

/-- Both repositories put the selected remediations in the same order. -/
lemma Mirrors.sorted_rows {flt} (h : Mirrors s m) :
    (s.remediations.values.filter (SqlStore.selects flt)).mergeSort newerRowFirst =
      ((m.listing.filter (InMemoryStore.selects flt)).mergeSort newerFirst).map recordToRow := by
  have selected : (m.listing.map recordToRow).filter (SqlStore.selects flt) =
      (m.listing.filter (InMemoryStore.selects flt)).map recordToRow := by
    rw [List.filter_map]
    exact congrArg _ (List.filter_congr fun _ _ => selects_recordToRow)
  have perm := ((List.mergeSort_perm _ newerRowFirst).trans
    (h.values_perm.filter (SqlStore.selects flt))).trans
      ((List.Perm.of_eq selected).trans ((List.mergeSort_perm _ newerFirst).map recordToRow).symm)
  refine List.Perm.eq_of_pairwise ?_ pairwise_newerRowFirst ?_ perm
  · intro a b ha hb hab hba
    have mem : ∀ x : RemediationRow, x ∈ s.remediations.values →
        ∃ rid rec, m.get rid = some rec ∧ x = recordToRow rec := by
      intro x hx
      obtain ⟨rec, hrec, rfl⟩ := List.mem_map.mp (h.values_perm.mem_iff.mp hx)
      obtain ⟨rid, found⟩ := h.mem_listing.mp hrec
      exact ⟨rid, rec, found, rfl⟩
    have ha' := List.mem_of_mem_filter (List.mem_mergeSort.mp ha)
    have hb' := List.mem_of_mem_filter (List.mem_mergeSort.mp (perm.symm.mem_iff.mp hb))
    obtain ⟨rid, rec, found, rfl⟩ := mem a ha'
    obtain ⟨rid', rec', found', rfl⟩ := mem b hb'
    have same : rec.proposal.val.createdAt = rec'.proposal.val.createdAt :=
      le_antisymm (of_decide_eq_true hba) (of_decide_eq_true hab)
    have e := h.created rid rid' rec rec' found found' same
    rw [e, found'] at found
    cases found
    rfl
  · rw [List.pairwise_map]
    exact pairwise_newerFirst

/-- Both repositories list the same remediations. -/
lemma Mirrors.list {flt} (h : Mirrors s m) : s.list flt = m.list flt := by
  have items : m.order.mapM m.getItem = .ok m.listing :=
    mapM_getItem fun rid hr => (h.listed rid).mp hr
  unfold SqlStore.list InMemoryStore.list
  rw [items, Except.ok_bind]
  change (page _ _ ((s.remediations.values.filter _).mergeSort newerRowFirst)).mapM _ = _
  rw [h.sorted_rows, page_map]
  apply h.rel.mapM_rowToRecord
  intro rec hrec
  have mem : rec ∈ (m.listing.filter (InMemoryStore.selects flt)).mergeSort newerFirst :=
    List.mem_of_mem_drop (List.mem_of_mem_take hrec)
  exact h.mem_listing.mp (List.mem_of_mem_filter (List.mem_mergeSort.mp mem))

/-- A call of the service gives the same reply on both stores and leaves them matching. -/
theorem Mirrors.call {c} (h : Mirrors s m) (made : AsServiceMakes m c) :
    SameReply (s.call c).2 (m.call c).2 ∧ Mirrors (s.call c).1 (m.call c).1 := by
  cases c with
  | create record events => exact (h.create made).writing h
  | get rid =>
    refine ⟨?_, h⟩
    change SameReply (Reply.found <$> s.get rid) _
    rw [h.rel.get]
    exact .ok
  | list flt =>
    refine ⟨?_, h⟩
    change SameReply (Reply.records <$> s.list flt) (Reply.records <$> m.list flt)
    rw [h.list]
    cases m.list flt with
    | ok rs => exact .ok
    | error e => exact .error rfl
  | recordDecision rid np a events => exact (h.recordDecision made).writing h
  | beginExecution rid pending events =>
    exact (h.beginExecution made.1 made.2.1 made.2.2).writing h
  | finishExecution rid eid result final events => exact (h.finishExecution made.1 made.2).writing h
  | beginVerification rid pending events =>
    exact (h.beginVerification made.1 made.2.1 made.2.2).writing h
  | finishVerification rid vid result final events =>
    exact (h.finishVerification made.1 made.2).writing h
  | listAuditEvents rid limit offset =>
    refine ⟨?_, h⟩
    change SameReply (Reply.events <$> s.listAuditEvents rid limit offset) _
    rw [h.rel.listAuditEvents]
    exact .ok
  | historySnapshot key =>
    refine ⟨?_, h⟩
    change SameReply (.ok (.snapshot (s.historySnapshot key))) _
    rw [h.rel.historySnapshot]
    exact .ok

/-- What a writing call of the in-memory repository returned is stored, and its audit events were
appended. -/
lemma InMemoryStore.call_record {c rec} (keyed : ∀ rid rec, m.get rid = some rec →
    rec.remediationId = rid) (made : AsServiceMakes m c) (h : (m.call c).2 = .ok (.record rec)) :
    (m.call c).1.get rec.remediationId = some rec ∧ (m.call c).1.audit = m.audit ++ c.appended := by
  have written : ∀ {run : Except Error (InMemoryStore × RemediationRecord)},
      (writing m run).2 = .ok (.record rec) → ∃ m', run = .ok (m', rec) ∧ (writing m run).1 = m' := by
    intro run hr
    cases run with
    | ok out =>
      cases hr
      exact ⟨out.1, rfl, rfl⟩
    | error e => cases hr
  -- the record a call updates keeps the id it is stored under
  have kept : ∀ {rid old} {new : RemediationRecord}, m.get rid = some old →
      new.proposal.val.remediationId = old.proposal.val.remediationId →
      new.remediationId = rid := fun found same => same.trans (keyed _ _ found)
  cases c with
  | create record events =>
    obtain ⟨m', run, e⟩ := written h
    obtain ⟨_, rfl, rfl⟩ := create_ok run
    change (writing m _).1.get _ = _ ∧ (writing m _).1.audit = _
    rw [e]
    refine ⟨?_, rfl⟩
    exact Dict.get?_set.trans (if_pos rfl)
  | recordDecision rid np a events =>
    obtain ⟨m', run, e⟩ := written h
    obtain ⟨old, found, _, rfl, rfl⟩ := recordDecision_ok run
    change (writing m _).1.get _ = _ ∧ (writing m _).1.audit = _
    rw [e, kept found (by rw [made.same old found]; rfl)]
    exact ⟨get_put, rfl⟩
  | beginExecution rid pending events =>
    obtain ⟨m', run, e⟩ := written h
    obtain ⟨old, found, _, _, hr, rfl⟩ := beginExecution_ok run
    change (writing m _).1.get _ = _ ∧ (writing m _).1.audit = _
    rw [e, kept found (by rw [hr]; rfl)]
    exact ⟨@get_put m rid events _, rfl⟩
  | finishExecution rid eid result final events =>
    obtain ⟨m', run, e⟩ := written h
    obtain ⟨old, found, _, _, hr, rfl⟩ := finishExecution_ok run
    change (writing m _).1.get _ = _ ∧ (writing m _).1.audit = _
    rw [e, kept found (by rw [hr]; rfl)]
    exact ⟨@get_put m rid events _, rfl⟩
  | beginVerification rid pending events =>
    obtain ⟨m', run, e⟩ := written h
    obtain ⟨old, found, _, _, hr, rfl⟩ := beginVerification_ok run
    change (writing m _).1.get _ = _ ∧ (writing m _).1.audit = _
    rw [e, kept found (by rw [hr]; rfl)]
    exact ⟨@get_put m rid events _, rfl⟩
  | finishVerification rid vid result final events =>
    obtain ⟨m', run, e⟩ := written h
    obtain ⟨old, found, _, _, hr, rfl⟩ := finishVerification_ok run
    change (writing m _).1.get _ = _ ∧ (writing m _).1.audit = _
    rw [e, kept found (by rw [hr]; rfl)]
    exact ⟨@get_put m rid events _, rfl⟩
  | get rid => cases h
  | list flt =>
    obtain ⟨rs, _, e⟩ := Except.map_eq_ok.mp h
    cases e
  | listAuditEvents rid limit offset => cases h
  | historySnapshot key => cases h

end

/-- A sequence of calls: the store it leaves and the replies it gives. -/
def runCalls {σ : Type} (call : σ → RepositoryCall → σ × Except Error Reply) :
    σ → List RepositoryCall → σ × List (Except Error Reply)
  | s, [] => (s, [])
  | s, c :: cs => ((runCalls call (call s c).1 cs).1, (call s c).2 :: (runCalls call (call s c).1 cs).2)

/-- Over a sequence of calls of the service both stores give the same replies and stay matching. -/
theorem Mirrors.run {s m cs} (h : Mirrors s m) (made : MadeByService m cs) :
    List.Forall₂ SameReply (runCalls SqlStore.call s cs).2 (runCalls InMemoryStore.call m cs).2 ∧
      Mirrors (runCalls SqlStore.call s cs).1 (runCalls InMemoryStore.call m cs).1 := by
  induction cs generalizing s m with
  | nil => exact ⟨.nil, h⟩
  | cons c cs ih =>
    obtain ⟨same, h'⟩ := h.call made.1
    obtain ⟨replies, left⟩ := ih h' made.2
    exact ⟨.cons same replies, left⟩

/-- The empty stores match. -/
lemma Mirrors.empty : Mirrors {} {} where
  rel := .empty
  approvalIds _ _ h := by cases h
  auditIds := List.nodup_nil
  order := List.nodup_nil
  listed rid := by simp [InMemoryStore.get, Dict.get?, Dict.lookup, Dict.empty]
  created _ _ _ _ h := by cases h

/-- Over every sequence of calls as the service makes them, the two repositories give the same
replies, errors of the same class included, and are left with the same records, listings, audit
trails and history snapshots; what a further call writes is read back from the tables as it was
written. -/
theorem repositories_equivalent (calls : List RepositoryCall) (made : MadeByService {} calls) :
    List.Forall₂ SameReply (runCalls SqlStore.call {} calls).2
        (runCalls InMemoryStore.call {} calls).2 ∧
      ∀ s m, s = (runCalls SqlStore.call {} calls).1 → m = (runCalls InMemoryStore.call {} calls).1 →
        (∀ rid, s.get rid = .ok (m.get rid)) ∧ (∀ flt, s.list flt = m.list flt) ∧
        (∀ rid limit offset,
          s.listAuditEvents rid limit offset = .ok (m.listAuditEvents rid limit offset)) ∧
        (∀ key, s.historySnapshot key = m.historySnapshot key) ∧
        ∀ c rec, AsServiceMakes m c → (s.call c).2 = .ok (.record rec) →
          (s.call c).1.get rec.remediationId = .ok (some rec) ∧
          ∃ trail, s.audit.mapM rowToAudit = .ok trail ∧
            (s.call c).1.audit.mapM rowToAudit = .ok (trail ++ c.appended) := by
  obtain ⟨replies, left⟩ := Mirrors.empty.run made
  refine ⟨replies, ?_⟩
  rintro s m rfl rfl
  refine ⟨fun _ => left.rel.get, fun _ => left.list, fun _ _ _ => left.rel.listAuditEvents,
    fun _ => left.rel.historySnapshot, ?_⟩
  intro c rec next written
  obtain ⟨same, left'⟩ := left.call next
  rw [written] at same
  generalize reply : ((runCalls InMemoryStore.call {} calls).1.call c).2 = r at same
  cases same
  obtain ⟨stored, appended⟩ :=
    InMemoryStore.call_record (fun rid rec found => (left.rel.keyed rid rec found).1) next reply
  refine ⟨?_, (runCalls InMemoryStore.call {} calls).1.audit, ?_, ?_⟩
  · rw [left'.rel.get, stored]
  · rw [left.rel.audit, mapM_rowToAudit]
  · rw [left'.rel.audit, mapM_rowToAudit, appended]

/-- The service that is restarted is an admissible target. -/
lemma ordersTarget_valid : Schema.Valid
    ({ serviceName := "orders-service", environment := "development" } : ServiceTargetFields) := by
  decide

/-- A restart that waits for its approval. -/
def pendingRestart : RemediationRecord where
  proposal :=
    ⟨{ remediationId := "rem_0000000000000001"
       incidentId := "inc_0000000000000001"
       investigationId := none
       trigger := .rcaRecommendation
       proposedBy := "api"
       actionType := .restartService
       target := ⟨{ serviceName := "orders-service", environment := "development" },
         ordersTarget_valid⟩
       parameters := .empty
       riskLevel := .low
       sourceRecommendation := "RESTART_SERVICE"
       reason := ""
       expectedEffect := ""
       evidenceReferences := []
       status := .pendingApproval
       createdAt := 0
       expiresAt := 1 }, by decide +kernel⟩
  policyDecision :=
    { outcome := .allow
      reasonCodes := []
      policyVersion := "1"
      evaluatedRules := []
      evaluatedAt := 0 }

/-- The approval of the restart. -/
def restartApproval : RemediationApproval where
  val :=
    { approvalId := "apr_0000000000000001"
      remediationId := "rem_0000000000000001"
      decision := .approve
      approverIdentity := "responder"
      approverRole := .incidentResponder
      reason := ""
      decidedAt := 0 }
  valid := by decide +kernel

/-- The event of the approval. -/
def approvedRecord : RemediationAuditEvent where
  val :=
    { auditId := "aud_0000000000000001"
      remediationId := "rem_0000000000000001"
      incidentId := "inc_0000000000000001"
      investigationId := none
      eventType := .approved
      actorType := .human
      actorId := "responder"
      previousState := some .pendingApproval
      newState := some .approved
      actionType := some .restartService
      targetService := some "orders-service"
      targetEnvironment := some "development"
      correlationId := none
      occurredAt := 0 }
  valid := by decide +kernel

/-- The restart is created and read back; its approval is what a next call may write. -/
theorem repositories_equivalent_restart :
    let calls := [.create pendingRestart [], .get "rem_0000000000000001"]
    let approve := .recordDecision "rem_0000000000000001"
      (pendingRestart.proposal.withStatus .approved) restartApproval [approvedRecord]
    ∃ rec trail, (runCalls SqlStore.call {} calls).1.get "rem_0000000000000001" =
        .ok (some pendingRestart) ∧
      ((runCalls SqlStore.call {} calls).1.call approve).2 = .ok (.record rec) ∧
      ((runCalls SqlStore.call {} calls).1.call approve).1.get rec.remediationId = .ok (some rec) ∧
      ((runCalls SqlStore.call {} calls).1.call approve).1.audit.mapM rowToAudit =
        .ok (trail ++ [approvedRecord]) := by
  intro calls approve
  have created : FreshCreate {} pendingRestart [] := by
    refine ⟨rfl, ⟨rfl, rfl, rfl⟩, ?_, ?_, ?_, List.nodup_nil⟩
    · intro rid rec found
      cases found
    · intro e he
      cases he
    · intro e he
      cases he
  have made : MadeByService {} calls := ⟨created, trivial, trivial⟩
  have get : ∀ rid, (runCalls InMemoryStore.call {} calls).1.get rid =
      if rid = "rem_0000000000000001" then some pendingRestart else none :=
    fun rid => Dict.get?_set
  have next : AsServiceMakes (runCalls InMemoryStore.call {} calls).1 approve := by
    refine ⟨?_, rfl, ?_, ?_, ?_, ?_⟩
    · intro rec found
      rw [get, if_pos rfl] at found
      cases found
      rfl
    · intro rid rec b found decided
      rw [get] at found
      split at found
      · cases found
        cases decided
      · cases found
    · intro e he
      rw [List.mem_singleton] at he
      rw [he]
      rfl
    · intro e _ e' he'
      cases he'
    · exact List.nodup_singleton _
  obtain ⟨replies, same⟩ := repositories_equivalent calls made
  obtain ⟨read, _, _, _, back⟩ := same _ _ rfl rfl
  obtain ⟨reply, left⟩ := (Mirrors.empty.run made).2.call next
  have decided : ((runCalls InMemoryStore.call {} calls).1.call approve).2 =
      .ok (.record { pendingRestart with
        proposal := pendingRestart.proposal.withStatus .approved
        approval := some restartApproval }) := by
    change (writing _ (InMemoryStore.recordDecision _ _ _ _ _)).2 = _
    unfold InMemoryStore.recordDecision
    rw [show (runCalls InMemoryStore.call {} calls).1.records.get? "rem_0000000000000001" =
      some pendingRestart from (get _).trans (if_pos rfl)]
    rfl
  rw [decided] at reply
  generalize sql : ((runCalls SqlStore.call {} calls).1.call approve).2 = r at reply
  cases reply
  obtain ⟨stored, trail, _, appended⟩ := back approve _ next sql
  refine ⟨_, trail, ?_, rfl, stored, appended⟩
  rw [read, get, if_pos rfl]

end SentinelOps.Remediation
