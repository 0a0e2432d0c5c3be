import SentinelOps.Remediation.SqlRepository

/-!
# The SQL repository refines the in-memory one

`SqlRel s m` relates the tables `s` to the in-memory store `m`: the row of every record is the
record written out, its approval, execution and verification rows are the ones the record has and no
others, and the audit table is the audit trail written out. Reading a record back gives the record
(`SqlRel.get`), and every method that commits on the tables succeeds on the in-memory store with the
same result and keeps the relation. The method lemmas state what the caller must pass: the service
only ever moves the status of the stored proposal, and it finishes the execution it began.
-/

namespace SentinelOps.Remediation

/-- Enumeration columns are read back as they were written. -/
@[simp] lemma parseEnum_str {α : Type} [StrEnum α] {a : α} : parseEnum (str a) = .ok a := by
  simp [parseEnum]

/-- A validated value is read back from its fields. -/
@[simp] lemma constructOr_val {α : Type} [Schema α] {title} {x : Validated α} :
    constructOr title x.val = .ok x := by
  simp [constructOr]

/-- A list of enumeration values is read back as it was written. -/
lemma mapM_parseEnum_str {α : Type} [StrEnum α] {l : List α} :
    (l.map str).mapM (parseEnum (α := α)) = .ok l := by
  induction l with
  | nil => rfl
  | cons a l ih =>
    rw [List.map_cons, List.mapM_cons, parseEnum_str, ih]
    rfl

/-- A violation is read back as it was written. -/
lemma loadViolation_dump {v : PolicyViolation} :
    loadViolation (str v.code, v.rule, v.detail) = .ok v := by
  unfold loadViolation
  rw [parseEnum_str]
  simp [bind, Except.bind, v.bounds.1, v.bounds.2, pure, Except.pure]

/-- The violations of a decision are read back as they were written. -/
lemma mapM_loadViolation {vs : List PolicyViolation} :
    (vs.map fun v => (str v.code, v.rule, v.detail)).mapM loadViolation = .ok vs := by
  induction vs with
  | nil => rfl
  | cons v vs ih =>
    rw [List.map_cons, List.mapM_cons, loadViolation_dump, ih]
    rfl

/-- A decision is read back from its document. -/
lemma loadDecision_dump {d : PolicyDecision} : loadDecision (dumpDecision d) = .ok d := by
  unfold loadDecision dumpDecision
  dsimp only
  rw [parseEnum_str, mapM_parseEnum_str, mapM_loadViolation]
  rfl

/-- The only kind of target is a service, so its two columns determine a target. -/
lemma constructOr_target {t : ServiceTarget} :
    constructOr (α := ServiceTargetFields) "ServiceTarget"
      { serviceName := t.val.serviceName, environment := t.val.environment } = .ok t := by
  have e : ({ serviceName := t.val.serviceName, environment := t.val.environment } :
      ServiceTargetFields) = t.val := by
    cases h : t.val with
    | mk kind name env => cases kind; rfl
  rw [e, constructOr_val]

/-- The proposal of a record is read back from its row. -/
lemma rowToProposal_recordToRow {rec : RemediationRecord} :
    rowToProposal (recordToRow rec) = .ok rec.proposal := by
  unfold rowToProposal recordToRow
  dsimp only
  rw [parseEnum_str, parseEnum_str, constructOr_target, parseEnum_str, parseEnum_str]
  exact constructOr_val

/-- An approval is read back from its row. -/
lemma rowToApproval_approvalToRow {a : RemediationApproval} :
    rowToApproval (approvalToRow a.val.remediationId a) = .ok a := by
  unfold rowToApproval approvalToRow
  dsimp only
  rw [parseEnum_str, parseEnum_str]
  exact constructOr_val

/-- An execution is read back from its row. -/
lemma rowToExecution_executionToRow {r : ExecutionResult} :
    rowToExecution (executionToRow r) = .ok r := by
  unfold rowToExecution executionToRow
  dsimp only
  rw [parseEnum_str, parseEnum_str, parseEnum_str]
  exact constructOr_val

/-- A verification is read back from its row. -/
lemma rowToVerification_verificationToRow {v : VerificationResult} :
    rowToVerification (verificationToRow v) = .ok v := by
  unfold rowToVerification verificationToRow
  dsimp only
  rw [parseEnum_str]
  exact constructOr_val

/-- The tables hold the in-memory store written out. -/
structure SqlRel (s : SqlStore) (m : InMemoryStore) : Prop where
  rows : ∀ rid, s.remediations.get? rid = (m.records.get? rid).map recordToRow
  keyed : ∀ rid rec, m.records.get? rid = some rec → rec.remediationId = rid ∧
    ∀ a ∈ rec.approval, a.val.remediationId = rid
  approvals : ∀ rid, s.approvalsOf rid =
    ((m.records.get? rid).bind (·.approval)).toList.map (approvalToRow rid)
  executions : ∀ rid, s.executionsOf rid =
    ((m.records.get? rid).bind (·.execution)).toList.map executionToRow
  verifications : ∀ rid, s.verificationsOf rid =
    ((m.records.get? rid).bind (·.verification)).toList.map verificationToRow
  executionIds : ∀ id row, s.executions.get? id = some row → row.id = id
  verificationIds : ∀ id row, s.verifications.get? id = some row → row.id = id
  executionsDict : ∀ rid, m.executions.get? rid = (m.records.get? rid).bind (·.execution)
  verificationsDict : ∀ rid, m.verifications.get? rid = (m.records.get? rid).bind (·.verification)
  audit : s.audit = m.audit.map auditToRow

namespace SqlRel

/-- The empty stores are related. -/
lemma empty : SqlRel {} {} where
  rows _ := rfl
  keyed _ _ h := by cases h
  approvals _ := rfl
  executions _ := rfl
  verifications _ := rfl
  executionIds _ _ h := by cases h
  verificationIds _ _ h := by cases h
  executionsDict _ := rfl
  verificationsDict _ := rfl
  audit := rfl

/-- A stored record is read back as it was written. -/
lemma rowToRecord {s m rid rec} (h : SqlRel s m) (found : m.records.get? rid = some rec) :
    s.rowToRecord (recordToRow rec) = .ok rec := by
  have id_eq : (recordToRow rec).id = rid := (h.keyed rid rec found).1
  unfold SqlStore.rowToRecord
  rw [rowToProposal_recordToRow, id_eq, h.approvals, h.executions, h.verifications, found]
  have hd : (recordToRow rec).policyDecision = dumpDecision rec.policyDecision := rfl
  rw [hd, loadDecision_dump]
  have ha : loadOptional rowToApproval (rec.approval.toList.map (approvalToRow rid)).head? =
      .ok rec.approval := by
    cases e : rec.approval with
    | none => rfl
    | some a =>
      have ra := (h.keyed rid rec found).2 a e
      simp only [Option.toList_some, List.map_cons, List.head?_cons, loadOptional]
      rw [← ra, rowToApproval_approvalToRow]
      rfl
  have he : loadOptional rowToExecution (rec.execution.toList.map executionToRow).head? =
      .ok rec.execution := by
    cases rec.execution with
    | none => rfl
    | some e =>
      simp only [Option.toList_some, List.map_cons, List.head?_cons, loadOptional]
      rw [rowToExecution_executionToRow]
      rfl
  have hv : loadOptional rowToVerification (rec.verification.toList.map verificationToRow).head? =
      .ok rec.verification := by
    cases rec.verification with
    | none => rfl
    | some v =>
      simp only [Option.toList_some, List.map_cons, List.head?_cons, loadOptional]
      rw [rowToVerification_verificationToRow]
      rfl
  simp only [Option.bind_some]
  rw [ha, he, hv]
  rfl

/-- Both repositories return the same record. -/
lemma get {s m rid} (h : SqlRel s m) : s.get rid = .ok (m.get rid) := by
  unfold SqlStore.get InMemoryStore.get
  rw [h.rows]
  cases found : m.records.get? rid with
  | none => rfl
  | some rec =>
    simp only [Option.map_some, loadOptional]
    rw [h.rowToRecord found]
    rfl

/-- A row is locked exactly when the in-memory store has the record. -/
lemma lockRow_ok {s m rid row} (h : SqlRel s m) (e : s.lockRow rid = .ok row) :
    ∃ rec, m.records.get? rid = some rec ∧ row = recordToRow rec := by
  unfold SqlStore.lockRow at e
  rw [h.rows] at e
  cases found : m.records.get? rid with
  | none =>
    rw [found] at e
    cases e
  | some rec =>
    rw [found] at e
    cases e
    exact ⟨rec, rfl, rfl⟩

/-- What a method rereads after its commit is the in-memory record. -/
lemma reread_ok {s m rid s' r} (h : SqlRel s m) (e : s.reread rid = .ok (s', r)) :
    s' = s ∧ m.records.get? rid = some r := by
  unfold SqlStore.reread at e
  rw [h.get] at e
  cases found : m.get rid with
  | none =>
    rw [found] at e
    cases e
  | some rec =>
    rw [found] at e
    cases e
    exact ⟨rfl, found⟩

end SqlRel

/-- Committed audit rows are the events written out; the other tables are as before. -/
lemma insertAudit_ok {s events s'} (e : SqlStore.insertAudit s events = .ok s') :
    s'.remediations = s.remediations ∧ s'.approvals = s.approvals ∧
      s'.executions = s.executions ∧ s'.verifications = s.verifications ∧
      s'.audit = s.audit ++ events.map auditToRow := by
  obtain ⟨_, _, e⟩ := Except.bind_eq_ok.mp e
  cases e
  exact ⟨rfl, rfl, rfl, rfl, rfl⟩

/-- An inserted approval row has a new id; the other tables are as before. -/
lemma insertApproval_ok {s : SqlStore} {a s'} (e : s.insertApproval a = .ok s') :
    s.approvals.get? a.id = none ∧ s'.remediations = s.remediations ∧
      s'.approvals = s.approvals.set a.id a ∧ s'.executions = s.executions ∧
      s'.verifications = s.verifications ∧ s'.audit = s.audit := by
  obtain ⟨_, unique, e⟩ := Except.bind_eq_ok.mp e
  rw [ensure_eq_ok, Option.isNone_iff_eq_none] at unique
  cases e
  exact ⟨unique.1, rfl, rfl, rfl, rfl, rfl⟩

/-- An inserted execution row has a new id and is its remediation's first; the other tables are as
before. -/
lemma insertExecution_ok {s : SqlStore} {x s'} (e : s.insertExecution x = .ok s') :
    (s.executions.get? x.id = none ∧ s.executionsOf x.remediationId = []) ∧
      s'.remediations = s.remediations ∧ s'.approvals = s.approvals ∧
      s'.executions = s.executions.set x.id x ∧ s'.verifications = s.verifications ∧
      s'.audit = s.audit := by
  obtain ⟨_, unique, e⟩ := Except.bind_eq_ok.mp e
  rw [ensure_eq_ok, Option.isNone_iff_eq_none, List.isEmpty_iff] at unique
  cases e
  exact ⟨⟨unique.1, unique.2.1⟩, rfl, rfl, rfl, rfl, rfl⟩

/-- An inserted verification row has a new id and is its remediation's first; the other tables are
as before. -/
lemma insertVerification_ok {s : SqlStore} {x s'} (e : s.insertVerification x = .ok s') :
    (s.verifications.get? x.id = none ∧ s.verificationsOf x.remediationId = []) ∧
      s'.remediations = s.remediations ∧ s'.approvals = s.approvals ∧
      s'.executions = s.executions ∧ s'.verifications = s.verifications.set x.id x ∧
      s'.audit = s.audit := by
  obtain ⟨_, unique, e⟩ := Except.bind_eq_ok.mp e
  rw [ensure_eq_ok, Option.isNone_iff_eq_none, List.isEmpty_iff] at unique
  cases e
  exact ⟨⟨unique.1, unique.2.1⟩, rfl, rfl, rfl, rfl, rfl⟩

/-- A method that reports violated constraints succeeds only when nothing was violated. -/
lemma onIntegrityError_ok {α : Type} {cls rid} {x : Except Error α} {a}
    (e : SqlStore.onIntegrityError cls rid x = .ok a) : x = .ok a := by
  cases x with
  | ok b => exact e
  | error err =>
    unfold SqlStore.onIntegrityError at e
    dsimp only at e
    split at e <;> cases e

section
variable {s : SqlStore} {m : InMemoryStore} {rid : String} {events : List RemediationAuditEvent}

/-- The tables after the record of `rid` was replaced and audit rows were appended, when the child
tables follow the replaced record. -/
lemma SqlRel.replace {s' : SqlStore} {m' : InMemoryStore} (h : SqlRel s m) (rid : String)
    (rec : RemediationRecord) (events : List RemediationAuditEvent)
    (id_eq : rec.remediationId = rid) (ra : ∀ a ∈ rec.approval, a.val.remediationId = rid)
    (hrows : s'.remediations = s.remediations.set rid (recordToRow rec))
    (hrecords : m'.records = m.records.set rid rec)
    (happ : ∀ r, s'.approvalsOf r = if r = rid then rec.approval.toList.map (approvalToRow rid)
      else s.approvalsOf r)
    (hexe : ∀ r, s'.executionsOf r = if r = rid then rec.execution.toList.map executionToRow
      else s.executionsOf r)
    (hver : ∀ r, s'.verificationsOf r =
      if r = rid then rec.verification.toList.map verificationToRow else s.verificationsOf r)
    (hids : ∀ id row, s'.executions.get? id = some row → row.id = id)
    (vids : ∀ id row, s'.verifications.get? id = some row → row.id = id)
    (hdict : ∀ r, m'.executions.get? r = if r = rid then rec.execution else m.executions.get? r)
    (vdict : ∀ r, m'.verifications.get? r =
      if r = rid then rec.verification else m.verifications.get? r)
    (haudit : s'.audit = s.audit ++ events.map auditToRow)
    (maudit : m'.audit = m.audit ++ events) : SqlRel s' m' where
  rows r := by
    rw [hrows, hrecords, Dict.get?_set, Dict.get?_set, h.rows]
    split <;> rfl
  keyed r rec' found := by
    rw [hrecords, Dict.get?_set] at found
    split at found
    · rename_i e
      cases found
      rw [e]
      exact ⟨id_eq, ra⟩
    · exact h.keyed r rec' found
  approvals r := by
    rw [happ, hrecords, Dict.get?_set, h.approvals]
    split
    · rename_i e
      rw [e]
      rfl
    · rfl
  executions r := by
    rw [hexe, hrecords, Dict.get?_set, h.executions]
    split <;> rfl
  verifications r := by
    rw [hver, hrecords, Dict.get?_set, h.verifications]
    split <;> rfl
  executionIds := hids
  verificationIds := vids
  executionsDict r := by
    rw [hdict, hrecords, Dict.get?_set, h.executionsDict]
    split <;> rfl
  verificationsDict r := by
    rw [vdict, hrecords, Dict.get?_set, h.verificationsDict]
    split <;> rfl
  audit := by rw [haudit, maudit, h.audit, List.map_append]

section
variable {s' : SqlStore} {m' : InMemoryStore} (h : SqlRel s m)
include h

/-- An untouched approval table, seen from a record that keeps its approval. -/
lemma SqlRel.approvals_same {x} (hx : (m.records.get? rid).bind (·.approval) = x)
    (eq : s'.approvals = s.approvals) (r) :
    s'.approvalsOf r =
      if r = rid then x.toList.map (approvalToRow rid) else s.approvalsOf r := by
  have base : s'.approvalsOf r = s.approvalsOf r := by rw [SqlStore.approvalsOf, eq]; rfl
  split
  · rename_i e
    rw [base, e, h.approvals, hx]
  · exact base

/-- An untouched execution table, seen from a record that keeps its execution. -/
lemma SqlRel.executions_same {x} (hx : (m.records.get? rid).bind (·.execution) = x)
    (eq : s'.executions = s.executions) (r) :
    s'.executionsOf r = if r = rid then x.toList.map executionToRow else s.executionsOf r := by
  have base : s'.executionsOf r = s.executionsOf r := by rw [SqlStore.executionsOf, eq]; rfl
  split
  · rename_i e
    rw [base, e, h.executions, hx]
  · exact base

/-- An untouched verification table, seen from a record that keeps its verification. -/
lemma SqlRel.verifications_same {x} (hx : (m.records.get? rid).bind (·.verification) = x)
    (eq : s'.verifications = s.verifications) (r) :
    s'.verificationsOf r =
      if r = rid then x.toList.map verificationToRow else s.verificationsOf r := by
  have base : s'.verificationsOf r = s.verificationsOf r := by
    rw [SqlStore.verificationsOf, eq]; rfl
  split
  · rename_i e
    rw [base, e, h.verifications, hx]
  · exact base

/-- The untouched execution dictionary, seen from a record that keeps its execution. -/
lemma SqlRel.executionsDict_same {x} (hx : (m.records.get? rid).bind (·.execution) = x)
    (eq : m'.executions = m.executions) (r) :
    m'.executions.get? r = if r = rid then x else m.executions.get? r := by
  rw [eq]
  split
  · rename_i e
    rw [e, h.executionsDict, hx]
  · rfl

/-- The untouched verification dictionary, seen from a record that keeps its verification. -/
lemma SqlRel.verificationsDict_same {x} (hx : (m.records.get? rid).bind (·.verification) = x)
    (eq : m'.verifications = m.verifications) (r) :
    m'.verifications.get? r = if r = rid then x else m.verifications.get? r := by
  rw [eq]
  split
  · rename_i e
    rw [e, h.verificationsDict, hx]
  · rfl

end

/-- The rows of a child table after one row was inserted under a new key. -/
lemma filter_insert {ρ : Type} {t t' : Dict String ρ} {id : String} {row : ρ}
    {r} (owner : ρ → String) (absent : t.get? id = none) (eq : t' = t.set id row) :
    t'.values.filter (fun x => decide (owner x = r)) =
      t.values.filter (fun x => decide (owner x = r)) ++ if owner row = r then [row] else [] := by
  rw [eq]
  simpa using Dict.filter_values_set_of_absent (p := fun x => decide (owner x = r)) absent

/-- The rows of a child table after the only row of one owner was rewritten. -/
lemma filter_update {ρ : Type} {t t' : Dict String ρ} {id : String} {old row : ρ}
    {rid r} (owner : ρ → String) (found : t.get? id = some old) (ho : owner old = rid)
    (hr : owner row = rid) (eq : t' = t.set id row)
    (only : t.values.filter (fun x => decide (owner x = rid)) = [old]) :
    t'.values.filter (fun x => decide (owner x = r)) =
      if r = rid then [row] else t.values.filter (fun x => decide (owner x = r)) := by
  rw [eq]
  split
  · rename_i e
    rw [e]
    exact Dict.filter_values_set_of_singleton found (by simp [ho]) (by simp [hr]) only
  · rename_i e
    have e' : ¬ rid = r := fun x => e x.symm
    exact Dict.filter_values_set_of_not found (by simp [ho, e']) (by simp [hr, e'])

/-- `create` on the tables is `create` on the in-memory store. -/
theorem SqlRel.create {record s' r} (h : SqlRel s m)
    (fresh : record.approval = none ∧ record.execution = none ∧ record.verification = none)
    (e : SqlStore.create s record events = .ok (s', r)) :
    ∃ m', m.create record events = .ok (m', r) ∧ SqlRel s' m' := by
  obtain ⟨_, absent, e⟩ := Except.bind_eq_ok.mp e
  rw [ensure_eq_ok, Option.isNone_iff_eq_none] at absent
  obtain ⟨s1, ins, e⟩ := Except.bind_eq_ok.mp e
  cases e
  have absent' : m.records.get? record.remediationId = none := by
    have hr := h.rows record.remediationId
    rw [show s.remediations.get? record.remediationId = none from absent] at hr
    cases found : m.records.get? record.remediationId with
    | none => rfl
    | some rec =>
      rw [found] at hr
      cases hr
  refine ⟨_, by unfold InMemoryStore.create; dsimp only; rw [absent'], ?_⟩
  obtain ⟨e1, e2, e3, e4, e5⟩ := insertAudit_ok ins
  have nothing : ∀ {α : Type} (f : RemediationRecord → Option α),
      (m.records.get? record.remediationId).bind f = none := fun f => by rw [absent']; rfl
  refine h.replace record.remediationId record events rfl ?_ e1 rfl ?_ ?_ ?_ ?_ ?_ ?_ ?_
    e5 rfl
  · intro a ha
    rw [fresh.1] at ha
    cases ha
  · rw [fresh.1]
    exact h.approvals_same (nothing _) e2
  · rw [fresh.2.1]
    exact h.executions_same (nothing _) e3
  · rw [fresh.2.2]
    exact h.verifications_same (nothing _) e4
  · rw [e3]
    exact h.executionIds
  · rw [e4]
    exact h.verificationIds
  · rw [fresh.2.1]
    exact h.executionsDict_same (nothing _) rfl
  · rw [fresh.2.2]
    exact h.verificationsDict_same (nothing _) rfl

/-- The row of a record after a decision was written into it. -/
def decidedRow (rec : RemediationRecord) (np : RemediationProposal) (a : RemediationApproval) :
    RemediationRow :=
  { recordToRow rec with status := str np.val.status, decidedAt := some a.val.decidedAt }

/-- The tables after a decision that only moves the status of the stored proposal. -/
lemma SqlRel.decided {rec np a s1 s2} (h : SqlRel s m) (found : m.records.get? rid = some rec)
    (undecided : rec.approval = none) (same : np = rec.proposal.withStatus np.val.status)
    (own : a.val.remediationId = rid)
    (ins : SqlStore.insertApproval
      { s with remediations := s.remediations.set rid (decidedRow rec np a) }
      (approvalToRow rid a) = .ok s1)
    (aud : s1.insertAudit events = .ok s2) :
    SqlRel s2 (m.put rid { rec with proposal := np, approval := some a } events) := by
  obtain ⟨unique, i1, i2, i3, i4, i5⟩ := insertApproval_ok ins
  obtain ⟨e1, e2, e3, e4, e5⟩ := insertAudit_ok aud
  let updated : RemediationRecord := { rec with proposal := np, approval := some a }
  have hrow : recordToRow updated = decidedRow rec np a := by
    unfold decidedRow
    generalize np.val.status = st at same
    simp only [updated, same]
    rfl
  refine h.replace rid updated events ?_ ?_ ?_ rfl ?_ ?_ ?_ ?_ ?_ ?_
    ?_ (by rw [e5, i5]) rfl
  · have := (h.keyed rid rec found).1
    change np.val.remediationId = rid
    rw [same]
    exact this
  · intro b hb
    cases hb
    exact own
  · rw [e1, i1, hrow]
  · intro r
    rw [SqlStore.approvalsOf, e2, filter_insert (·.remediationId) unique i2]
    change s.approvalsOf r ++ _ = _
    by_cases er : r = rid
    · rw [er, h.approvals, found]
      simp [undecided, approvalToRow, updated]
    · have er' : ¬ rid = r := fun x => er x.symm
      simp [er, er', approvalToRow]
  · exact h.executions_same (by rw [found]; rfl) (e3.trans i3)
  · exact h.verifications_same (by rw [found]; rfl) (e4.trans i4)
  · rw [e3, i3]
    exact h.executionIds
  · rw [e4, i4]
    exact h.verificationIds
  · exact h.executionsDict_same (by rw [found]; rfl) rfl
  · exact h.verificationsDict_same (by rw [found]; rfl) rfl

/-- `record_decision` on the tables is `record_decision` on the in-memory store, for a decision that
only moves the status of the stored proposal. -/
theorem SqlRel.recordDecision {np a s' r} (h : SqlRel s m)
    (same : ∀ rec, m.records.get? rid = some rec → np = rec.proposal.withStatus np.val.status)
    (own : a.val.remediationId = rid)
    (e : SqlStore.recordDecision s rid np a events = .ok (s', r)) :
    ∃ m', m.recordDecision rid np a events = .ok (m', r) ∧ SqlRel s' m' := by
  obtain ⟨row, lock, e⟩ := Except.bind_eq_ok.mp e
  obtain ⟨rec, found, rfl⟩ := h.lockRow_ok lock
  obtain ⟨_, undecided, e⟩ := Except.bind_eq_ok.mp e
  rw [ensure_eq_ok, List.isEmpty_iff, h.approvals, found] at undecided
  obtain ⟨s2, commit, e⟩ := Except.bind_eq_ok.mp e
  obtain ⟨s1, ins, aud⟩ := Except.bind_eq_ok.mp (onIntegrityError_ok commit)
  have hap : rec.approval = none := by
    cases ha : rec.approval with
    | none => rfl
    | some b => simp [ha] at undecided
  have rel := h.decided found hap (same rec found) own ins aud
  obtain ⟨rfl, got⟩ := rel.reread_ok e
  have hr : { rec with proposal := np, approval := some a } = r := by
    simpa [InMemoryStore.put] using got
  refine ⟨_, ?_, rel⟩
  rw [← hr]
  unfold InMemoryStore.recordDecision
  rw [found]
  simp [hap, ensure, bind, Except.bind, pure, Except.pure]

/-- The tables after an execution was claimed. -/
lemma SqlRel.executionBegun {rec pending s1 s2} (h : SqlRel s m)
    (found : m.records.get? rid = some rec) (none_yet : rec.execution = none)
    (own : pending.val.remediationId = rid)
    (ins : SqlStore.insertExecution (s.setStatus rid (recordToRow rec) .executing)
      (executionToRow pending) = .ok s1)
    (aud : s1.insertAudit events = .ok s2) :
    SqlRel s2 { m.put rid { rec.withStatus .executing with execution := some pending } events with
      executions := m.executions.set rid pending } := by
  obtain ⟨⟨absent, _⟩, i1, i2, i3, i4, i5⟩ := insertExecution_ok ins
  obtain ⟨e1, e2, e3, e4, e5⟩ := insertAudit_ok aud
  let updated : RemediationRecord := { rec.withStatus .executing with execution := some pending }
  refine h.replace rid updated events (h.keyed rid rec found).1
    (h.keyed rid rec found).2 (e1.trans i1) rfl ?_ ?_ ?_ ?_ ?_ ?_ ?_ (by rw [e5, i5]; rfl) rfl
  · exact h.approvals_same (by rw [found]; rfl) (e2.trans i2)
  · intro r
    rw [SqlStore.executionsOf, e3, filter_insert (·.remediationId) absent i3]
    change s.executionsOf r ++ _ = _
    by_cases er : r = rid
    · rw [er, h.executions, found]
      simp [none_yet, updated, executionToRow, own]
    · have er' : ¬ rid = r := fun x => er x.symm
      simp [er, er', executionToRow, own]
  · exact h.verifications_same (by rw [found]; rfl) (e4.trans i4)
  · intro id row
    rw [e3, i3, Dict.get?_set]
    split
    · rename_i eid
      intro er
      cases er
      exact eid.symm
    · exact h.executionIds id row
  · rw [e4, i4]
    exact h.verificationIds
  · intro r
    exact Dict.get?_set
  · exact h.verificationsDict_same (by rw [found]; rfl) rfl

/-- `begin_execution` on the tables is `begin_execution` on the in-memory store. -/
theorem SqlRel.beginExecution {pending s' r} (h : SqlRel s m)
    (own : pending.val.remediationId = rid)
    (e : SqlStore.beginExecution s rid pending events = .ok (s', r)) :
    ∃ m', m.beginExecution rid pending events = .ok (m', r) ∧ SqlRel s' m' := by
  obtain ⟨row, lock, e⟩ := Except.bind_eq_ok.mp e
  obtain ⟨rec, found, rfl⟩ := h.lockRow_ok lock
  obtain ⟨_, claim, e⟩ := Except.bind_eq_ok.mp e
  rw [ensure_eq_ok] at claim
  have hst : rec.status = .approved := StrEnum.str_injective claim
  obtain ⟨_, _, e⟩ := Except.bind_eq_ok.mp e
  obtain ⟨s2, commit, e⟩ := Except.bind_eq_ok.mp e
  obtain ⟨s1, ins, aud⟩ := Except.bind_eq_ok.mp (onIntegrityError_ok commit)
  have none_yet := (insertExecution_ok ins).1.2
  have hex : rec.execution = none := by
    change s.executionsOf pending.val.remediationId = [] at none_yet
    rw [own, h.executions, found] at none_yet
    cases hx : rec.execution with
    | none => rfl
    | some x => simp [hx] at none_yet
  have rel := h.executionBegun found hex own ins aud
  obtain ⟨rfl, got⟩ := rel.reread_ok e
  have hr : { rec.withStatus .executing with execution := some pending } = r := by
    simpa [InMemoryStore.put] using got
  refine ⟨_, ?_, rel⟩
  rw [← hr]
  have hd : m.executions.get? rid = none := by
    rw [h.executionsDict, found]
    exact hex
  unfold InMemoryStore.beginExecution
  rw [found]
  simp [hst, hd, ensure, validateTransition, canTransition, allowedTransitions, bind, Except.bind,
    pure, Except.pure]

/-- The tables after a verification was claimed. -/
lemma SqlRel.verificationBegun {rec pending s1 s2} (h : SqlRel s m)
    (found : m.records.get? rid = some rec) (none_yet : rec.verification = none)
    (own : pending.val.remediationId = rid)
    (ins : SqlStore.insertVerification (s.setStatus rid (recordToRow rec) .verifying)
      (verificationToRow pending) = .ok s1)
    (aud : s1.insertAudit events = .ok s2) :
    SqlRel s2 { m.put rid { rec.withStatus .verifying with verification := some pending } events with
      verifications := m.verifications.set rid pending } := by
  obtain ⟨⟨absent, _⟩, i1, i2, i3, i4, i5⟩ := insertVerification_ok ins
  obtain ⟨e1, e2, e3, e4, e5⟩ := insertAudit_ok aud
  let updated : RemediationRecord :=
    { rec.withStatus .verifying with verification := some pending }
  refine h.replace rid updated events (h.keyed rid rec found).1
    (h.keyed rid rec found).2 (e1.trans i1) rfl ?_ ?_ ?_ ?_ ?_ ?_ ?_ (by rw [e5, i5]; rfl) rfl
  · exact h.approvals_same (by rw [found]; rfl) (e2.trans i2)
  · exact h.executions_same (by rw [found]; rfl) (e3.trans i3)
  · intro r
    rw [SqlStore.verificationsOf, e4, filter_insert (·.remediationId) absent i4]
    change s.verificationsOf r ++ _ = _
    by_cases er : r = rid
    · rw [er, h.verifications, found]
      simp [none_yet, updated, verificationToRow, own]
    · have er' : ¬ rid = r := fun x => er x.symm
      simp [er, er', verificationToRow, own]
  · rw [e3, i3]
    exact h.executionIds
  · intro id row
    rw [e4, i4, Dict.get?_set]
    split
    · rename_i eid
      intro er
      cases er
      exact eid.symm
    · exact h.verificationIds id row
  · exact h.executionsDict_same (by rw [found]; rfl) rfl
  · intro r
    exact Dict.get?_set

/-- `begin_verification` on the tables is `begin_verification` on the in-memory store. -/
theorem SqlRel.beginVerification {pending s' r} (h : SqlRel s m)
    (own : pending.val.remediationId = rid)
    (e : SqlStore.beginVerification s rid pending events = .ok (s', r)) :
    ∃ m', m.beginVerification rid pending events = .ok (m', r) ∧ SqlRel s' m' := by
  obtain ⟨row, lock, e⟩ := Except.bind_eq_ok.mp e
  obtain ⟨rec, found, rfl⟩ := h.lockRow_ok lock
  obtain ⟨_, claim, e⟩ := Except.bind_eq_ok.mp e
  rw [ensure_eq_ok] at claim
  have hst : rec.status = .executed := StrEnum.str_injective claim
  obtain ⟨_, _, e⟩ := Except.bind_eq_ok.mp e
  obtain ⟨s2, commit, e⟩ := Except.bind_eq_ok.mp e
  obtain ⟨s1, ins, aud⟩ := Except.bind_eq_ok.mp (onIntegrityError_ok commit)
  have none_yet := (insertVerification_ok ins).1.2
  have hve : rec.verification = none := by
    change s.verificationsOf pending.val.remediationId = [] at none_yet
    rw [own, h.verifications, found] at none_yet
    cases hx : rec.verification with
    | none => rfl
    | some x => simp [hx] at none_yet
  have rel := h.verificationBegun found hve own ins aud
  obtain ⟨rfl, got⟩ := rel.reread_ok e
  have hr : { rec.withStatus .verifying with verification := some pending } = r := by
    simpa [InMemoryStore.put] using got
  refine ⟨_, ?_, rel⟩
  rw [← hr]
  have hd : m.verifications.get? rid = none := by
    rw [h.verificationsDict, found]
    exact hve
  unfold InMemoryStore.beginVerification
  rw [found]
  simp [hst, hd, ensure, validateTransition, canTransition, allowedTransitions, bind, Except.bind,
    pure, Except.pure]

/-- The execution row of a record, found by its id. -/
lemma SqlRel.executionRow {rec x} (h : SqlRel s m) (found : m.records.get? rid = some rec)
    (hx : rec.execution = some x) :
    s.executions.get? x.val.executionId = some (executionToRow x) ∧ x.val.remediationId = rid ∧
      s.executionsOf rid = [executionToRow x] := by
  have only : s.executionsOf rid = [executionToRow x] := by
    rw [h.executions, found]
    simp [hx]
  have mem : executionToRow x ∈ s.executionsOf rid := only ▸ List.mem_singleton_self _
  obtain ⟨k, hk⟩ := Dict.mem_values_iff.mp (List.mem_of_mem_filter mem)
  have hk' : x.val.executionId = k := h.executionIds k _ hk
  refine ⟨?_, ?_, only⟩
  · rw [hk']
    exact hk
  · unfold SqlStore.executionsOf at mem
    have sel := List.of_mem_filter mem
    exact of_decide_eq_true sel

/-- The execution row after its result columns were written. -/
def finishedExecutionRow (x result : ExecutionResult) : ExecutionRow :=
  { executionToRow x with
    status := str result.val.status
    simulatedEffect := result.val.simulatedEffect
    execMetadata := result.val.metadata
    error := result.val.error
    completedAt := result.val.completedAt }

/-- The result columns of the execution that was begun make up the row of the result. -/
lemma finishedExecutionRow_eq {x result} (fin : FinishesExecution x result) :
    finishedExecutionRow x result = executionToRow result := by
  unfold finishedExecutionRow executionToRow
  rw [fin]

/-- The tables after an execution was finished. -/
lemma SqlRel.executionFinished {rec x result final s2} (h : SqlRel s m)
    (found : m.records.get? rid = some rec) (hx : rec.execution = some x)
    (fin : FinishesExecution x result)
    (aud : SqlStore.insertAudit { s.setStatus rid (recordToRow rec) final with
      executions := s.executions.set x.val.executionId (finishedExecutionRow x result) } events =
        .ok s2) :
    SqlRel s2 { m.put rid { rec.withStatus final with execution := some result } events with
      executions := m.executions.set rid result } := by
  obtain ⟨inTable, own, only⟩ := h.executionRow found hx
  obtain ⟨e1, e2, e3, e4, e5⟩ := insertAudit_ok aud
  have hrow := finishedExecutionRow_eq fin
  have owned : (executionToRow result).remediationId = rid := by rw [← hrow]; exact own
  rw [hrow] at e3
  let updated : RemediationRecord := { rec.withStatus final with execution := some result }
  refine h.replace rid updated events (h.keyed rid rec found).1
    (h.keyed rid rec found).2 e1 rfl ?_ ?_ ?_ ?_ ?_ ?_ ?_ e5 rfl
  · exact h.approvals_same (by rw [found]; rfl) e2
  · intro r
    rw [SqlStore.executionsOf] at only ⊢
    rw [filter_update (fun e : ExecutionRow => e.remediationId) inTable own owned e3 only]
    rfl
  · exact h.verifications_same (by rw [found]; rfl) e4
  · intro id row
    rw [e3, Dict.get?_set]
    split
    · rename_i eid'
      intro er
      cases er
      rw [eid', ← hrow]
      rfl
    · exact h.executionIds id row
  · rw [e4]
    exact h.verificationIds
  · intro r
    exact Dict.get?_set
  · exact h.verificationsDict_same (by rw [found]; rfl) rfl

/-- `finish_execution` on the tables is `finish_execution` on the in-memory store, for the execution
that the record has begun. -/
theorem SqlRel.finishExecution {eid result final s' r} (h : SqlRel s m)
    (began : ∀ rec, m.records.get? rid = some rec → rec.status = .executing →
      ∃ x, rec.execution = some x ∧ x.val.executionId = eid ∧ FinishesExecution x result)
    (e : SqlStore.finishExecution s rid eid result final events = .ok (s', r)) :
    ∃ m', m.finishExecution rid eid result final events = .ok (m', r) ∧ SqlRel s' m' := by
  obtain ⟨row, lock, e⟩ := Except.bind_eq_ok.mp e
  obtain ⟨rec, found, rfl⟩ := h.lockRow_ok lock
  obtain ⟨_, claim, e⟩ := Except.bind_eq_ok.mp e
  rw [ensure_eq_ok] at claim
  have hst : rec.status = .executing := StrEnum.str_injective claim
  obtain ⟨_, edge, e⟩ := Except.bind_eq_ok.mp e
  obtain ⟨x, hx, rfl, fin⟩ := began rec found hst
  rw [(h.executionRow found hx).1] at e
  obtain ⟨s2, aud, e⟩ := Except.bind_eq_ok.mp e
  have rel := h.executionFinished found hx fin aud
  obtain ⟨rfl, got⟩ := rel.reread_ok e
  have hr : { rec.withStatus final with execution := some result } = r := by
    simpa [InMemoryStore.put] using got
  refine ⟨_, ?_, rel⟩
  rw [← hr]
  unfold InMemoryStore.finishExecution
  rw [found]
  simp [hst, edge, ensure, bind, Except.bind, pure, Except.pure]

/-- The verification row of a record, found by its id. -/
lemma SqlRel.verificationRow {rec x} (h : SqlRel s m) (found : m.records.get? rid = some rec)
    (hx : rec.verification = some x) :
    s.verifications.get? x.val.verificationId = some (verificationToRow x) ∧
      x.val.remediationId = rid ∧ s.verificationsOf rid = [verificationToRow x] := by
  have only : s.verificationsOf rid = [verificationToRow x] := by
    rw [h.verifications, found]
    simp [hx]
  have mem : verificationToRow x ∈ s.verificationsOf rid := only ▸ List.mem_singleton_self _
  obtain ⟨k, hk⟩ := Dict.mem_values_iff.mp (List.mem_of_mem_filter mem)
  have hk' : x.val.verificationId = k := h.verificationIds k _ hk
  refine ⟨?_, ?_, only⟩
  · rw [hk']
    exact hk
  · unfold SqlStore.verificationsOf at mem
    have sel := List.of_mem_filter mem
    exact of_decide_eq_true sel

/-- The verification row after its result columns were written. -/
def finishedVerificationRow (x result : VerificationResult) : VerificationRow :=
  { verificationToRow x with
    status := str result.val.status
    attempts := result.val.attempts
    checks := result.val.checks
    failureReason := result.val.failureReason
    verMetadata := result.val.metadata
    completedAt := result.val.completedAt }

/-- The result columns of the verification that was begun make up the row of the result. -/
lemma finishedVerificationRow_eq {x result} (fin : FinishesVerification x result) :
    finishedVerificationRow x result = verificationToRow result := by
  unfold finishedVerificationRow verificationToRow
  rw [fin]

/-- The tables after a verification was finished. -/
lemma SqlRel.verificationFinished {rec x result final s2} (h : SqlRel s m)
    (found : m.records.get? rid = some rec) (hx : rec.verification = some x)
    (fin : FinishesVerification x result)
    (aud : SqlStore.insertAudit { s.setStatus rid (recordToRow rec) final with
      verifications := s.verifications.set x.val.verificationId (finishedVerificationRow x result) }
        events = .ok s2) :
    SqlRel s2 { m.put rid { rec.withStatus final with verification := some result } events with
      verifications := m.verifications.set rid result } := by
  obtain ⟨inTable, own, only⟩ := h.verificationRow found hx
  obtain ⟨e1, e2, e3, e4, e5⟩ := insertAudit_ok aud
  have hrow := finishedVerificationRow_eq fin
  have owned : (verificationToRow result).remediationId = rid := by rw [← hrow]; exact own
  rw [hrow] at e4
  let updated : RemediationRecord := { rec.withStatus final with verification := some result }
  refine h.replace rid updated events (h.keyed rid rec found).1
    (h.keyed rid rec found).2 e1 rfl ?_ ?_ ?_ ?_ ?_ ?_ ?_ e5 rfl
  · exact h.approvals_same (by rw [found]; rfl) e2
  · exact h.executions_same (by rw [found]; rfl) e3
  · intro r
    rw [SqlStore.verificationsOf] at only ⊢
    rw [filter_update (fun v : VerificationRow => v.remediationId) inTable own owned e4
      only]
    rfl
  · rw [e3]
    exact h.executionIds
  · intro id row
    rw [e4, Dict.get?_set]
    split
    · rename_i vid'
      intro er
      cases er
      rw [vid', ← hrow]
      rfl
    · exact h.verificationIds id row
  · exact h.executionsDict_same (by rw [found]; rfl) rfl
  · intro r
    exact Dict.get?_set

/-- `finish_verification` on the tables is `finish_verification` on the in-memory store, for the
verification that the record has begun. -/
theorem SqlRel.finishVerification {vid result final s' r} (h : SqlRel s m)
    (began : ∀ rec, m.records.get? rid = some rec → rec.status = .verifying →
      ∃ x, rec.verification = some x ∧ x.val.verificationId = vid ∧ FinishesVerification x result)
    (e : SqlStore.finishVerification s rid vid result final events = .ok (s', r)) :
    ∃ m', m.finishVerification rid vid result final events = .ok (m', r) ∧ SqlRel s' m' := by
  obtain ⟨row, lock, e⟩ := Except.bind_eq_ok.mp e
  obtain ⟨rec, found, rfl⟩ := h.lockRow_ok lock
  obtain ⟨_, claim, e⟩ := Except.bind_eq_ok.mp e
  rw [ensure_eq_ok] at claim
  have hst : rec.status = .verifying := StrEnum.str_injective claim
  obtain ⟨_, edge, e⟩ := Except.bind_eq_ok.mp e
  obtain ⟨x, hx, rfl, fin⟩ := began rec found hst
  rw [(h.verificationRow found hx).1] at e
  obtain ⟨s2, aud, e⟩ := Except.bind_eq_ok.mp e
  have rel := h.verificationFinished found hx fin aud
  obtain ⟨rfl, got⟩ := rel.reread_ok e
  have hr : { rec.withStatus final with verification := some result } = r := by
    simpa [InMemoryStore.put] using got
  refine ⟨_, ?_, rel⟩
  rw [← hr]
  unfold InMemoryStore.finishVerification
  rw [found]
  simp [hst, edge, ensure, bind, Except.bind, pure, Except.pure]

/-- The rows a history query selects are the records of the key in the given statuses. -/
lemma SqlRel.mem_keyRows {key row} {statuses : List RemediationStatus} (h : SqlRel s m) :
    row ∈ s.keyRows key (statuses.map str) ↔ ∃ rid rec, m.get rid = some rec ∧
      row = recordToRow rec ∧ rec.proposal.key = key ∧ rec.status ∈ statuses := by
  have status_iff : ∀ rec : RemediationRecord,
      str rec.status ∈ statuses.map str ↔ rec.status ∈ statuses := by
    intro rec
    simp
  have key_iff : ∀ rec : RemediationRecord, rec.proposal.key = key ↔
      (recordToRow rec).incidentId = key.incidentId ∧
      (recordToRow rec).actionType = str key.actionType ∧
      (recordToRow rec).targetService = key.serviceName ∧
      (recordToRow rec).targetEnvironment = key.environment := by
    intro rec
    cases key
    simp [RemediationProposal.key, recordToRow]
  unfold SqlStore.keyRows
  rw [List.mem_filter, Dict.mem_values_iff]
  constructor
  · rintro ⟨⟨rid, hrow⟩, sel⟩
    rw [h.rows] at hrow
    obtain ⟨rec, found, rfl⟩ := Option.map_eq_some_iff.mp hrow
    simp only [Bool.and_eq_true, decide_eq_true_eq] at sel
    exact ⟨rid, rec, found, rfl, (key_iff rec).mpr ⟨sel.1.1.1.1, sel.1.1.1.2, sel.1.1.2, sel.1.2⟩,
      (status_iff rec).mp sel.2⟩
  · rintro ⟨rid, rec, found, rfl, hk, hs⟩
    obtain ⟨h1, h2, h3, h4⟩ := (key_iff rec).mp hk
    refine ⟨⟨rid, by rw [h.rows, show m.records.get? rid = some rec from found]; rfl⟩, ?_⟩
    have hs' : (recordToRow rec).status ∈ statuses.map str := (status_iff rec).mpr hs
    simp [h1, h2, h3, h4, hs']

end

/-- What the fold of `max` over timestamps computes. -/
lemma foldl_laterOf {l : List Instant} {acc : Option Instant} :
    (∀ t, (t ∈ acc ∨ t ∈ l) → ∃ x ∈ l.foldl InMemoryStore.laterOf acc, t ≤ x) ∧
    (∀ x ∈ l.foldl InMemoryStore.laterOf acc, x ∈ acc ∨ x ∈ l) := by
  induction l generalizing acc with
  | nil =>
    constructor
    · rintro t (h | h)
      · exact ⟨t, h, le_rfl⟩
      · cases h
    · intro x hx
      exact .inl hx
  | cons ts l ih =>
    obtain ⟨low, up⟩ := @ih (InMemoryStore.laterOf acc ts)
    constructor
    · intro t h
      rcases h with h | h
      · obtain ⟨y, hy, le⟩ := @InMemoryStore.le_laterOf acc ts _ (.inr ⟨t, h, le_rfl⟩)
        obtain ⟨x, hx, le'⟩ := low y (.inl hy)
        exact ⟨x, hx, le_trans le le'⟩
      · rcases List.mem_cons.mp h with rfl | h
        · obtain ⟨y, hy, le⟩ := @InMemoryStore.le_laterOf acc t _ (.inl le_rfl)
          obtain ⟨x, hx, le'⟩ := low y (.inl hy)
          exact ⟨x, hx, le_trans le le'⟩
        · exact low t (.inr h)
    · intro x hx
      rcases up x hx with h | h
      · rcases InMemoryStore.laterOf_eq h with rfl | h
        · exact .inr List.mem_cons_self
        · exact .inl h
      · exact .inr (List.mem_cons_of_mem _ h)

/-- Two optional timestamps that bound each other are equal. -/
lemma option_eq_of_bounds {a b : Option Instant} (h1 : ∀ x ∈ a, ∃ y ∈ b, x ≤ y)
    (h2 : ∀ y ∈ b, ∃ x ∈ a, y ≤ x) : a = b := by
  cases a with
  | none =>
    cases b with
    | none => rfl
    | some y =>
      obtain ⟨x, hx, _⟩ := h2 y rfl
      cases hx
  | some x =>
    obtain ⟨y, hy, le⟩ := h1 x rfl
    obtain ⟨x', hx', le'⟩ := h2 y hy
    cases hx'
    rw [Option.mem_def] at hy
    rw [hy, le_antisymm le le']

/-- Both repositories give the same history snapshot. -/
theorem SqlRel.historySnapshot {s m key} (h : SqlRel s m) :
    s.historySnapshot key = m.historySnapshot key := by
  have act : (s.historySnapshot key).activeExists = (m.historySnapshot key).activeExists := by
    rw [Bool.eq_iff_iff, InMemoryStore.historySnapshot_active]
    have mem := fun row => @SqlRel.mem_keyRows _ _ key row activeStatuses h
    change decide ((s.keyRows key (activeStatuses.map str)).length ≠ 0) = true ↔ _
    rw [decide_eq_true_eq, ← Nat.pos_iff_ne_zero, List.length_pos_iff_exists_mem]
    constructor
    · rintro ⟨row, hrow⟩
      obtain ⟨rid, rec, found, _, hk, hs⟩ := (mem row).mp hrow
      exact ⟨rid, rec, found, hk, hs⟩
    · rintro ⟨rid, rec, found, hk, hs⟩
      exact ⟨recordToRow rec, (mem _).mpr ⟨rid, rec, found, rfl, hk, hs⟩⟩
  have last : (s.historySnapshot key).lastCompleted = (m.historySnapshot key).lastCompleted := by
    have mem := fun row =>
      @SqlRel.mem_keyRows _ _ key row cooldownAnchorStatuses h
    obtain ⟨low, up⟩ := @foldl_laterOf
      ((s.keyRows key SqlStore.cooldownAnchorSql).filterMap (·.decidedAt)) none
    obtain ⟨low', up'⟩ := @InMemoryStore.historySnapshot_last m key
    have anchor_iff : ∀ t, (t ∈ (s.keyRows key SqlStore.cooldownAnchorSql).filterMap (·.decidedAt)) ↔
        ∃ rid rec, m.get rid = some rec ∧ InMemoryStore.Anchors key rec t := by
      intro t
      rw [List.mem_filterMap]
      constructor
      · rintro ⟨row, hrow, ht⟩
        obtain ⟨rid, rec, found, rfl, hk, hs⟩ := (mem row).mp hrow
        obtain ⟨a, ha, hd⟩ := Option.map_eq_some_iff.mp ht
        exact ⟨rid, rec, found, hk, hs, a, ha, hd⟩
      · rintro ⟨rid, rec, found, hk, hs, a, ha, hd⟩
        refine ⟨recordToRow rec, (mem _).mpr ⟨rid, rec, found, rfl, hk, hs⟩, ?_⟩
        simp [recordToRow, ha, hd]
    apply option_eq_of_bounds
    · intro x hx
      rcases up x hx with h | h
      · cases h
      · obtain ⟨rid, rec, found, ha⟩ := (anchor_iff x).mp h
        exact low' rid rec x found ha
    · intro y hy
      obtain ⟨rid, rec, found, ha⟩ := up' y hy
      exact low y (.inr ((anchor_iff y).mpr ⟨rid, rec, found, ha⟩))
  cases e : s.historySnapshot key
  cases e' : m.historySnapshot key
  rw [e, e'] at act last
  simp only at act last
  rw [act, last]

end SentinelOps.Remediation
