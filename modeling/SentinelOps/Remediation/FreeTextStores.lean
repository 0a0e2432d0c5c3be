import SentinelOps.Remediation.FreeTextStep
import SentinelOps.Remediation.Backend

/-!
# Both repositories respect free text

Two dictionaries, or two sets of tables, that differ in stored free text only (`SameStore`,
`SameTables`) are read and written alike: every repository method succeeds in both or raises the
same error in both, hands back the same records, and leaves stores that again differ in free text
only.
-/

namespace SentinelOps.Remediation

/-- Two dictionaries that differ in stored free text only. -/
structure SameStore (m n : InMemoryStore) : Prop where
  records : Dict.Related SameRecord m.records n.records
  order : m.order = n.order
  executions : m.executions = n.executions
  verifications : m.verifications = n.verifications
  audit : List.Forall₂ SameEvent m.audit n.audit

/-- Two rows of one remediation that differ in their prose and the evidence they cite only. -/
structure SameRow (r r' : RemediationRow) : Prop where
  rest : r' = { r with reason := r'.reason, evidenceReferences := r'.evidenceReferences }
  bound : r.reason.length ≤ 4000 ↔ r'.reason.length ≤ 4000

/-- Two audit rows that are equal, except that the row of a creation quotes the reason and counts
the evidence. -/
def SameAuditRow (a b : AuditRow) : Prop :=
  a = b ∨ a.eventType = str AuditEventType.proposalCreated ∧
    b = { a with reason := b.reason, eventMetadata := b.eventMetadata }

/-- Two sets of tables that differ in stored free text only. -/
structure SameTables (s t : SqlStore) : Prop where
  remediations : Dict.Related SameRow s.remediations t.remediations
  approvals : s.approvals = t.approvals
  executions : s.executions = t.executions
  verifications : s.verifications = t.verifications
  audit : List.Forall₂ SameAuditRow s.audit t.audit

namespace SameEvent

variable {e f : RemediationAuditEvent}

/-- Same events have one id. -/
lemma auditId (h : SameEvent e f) : e.val.auditId = f.val.auditId := by
  rcases h with rfl | ⟨_, eq⟩
  · rfl
  · rw [eq]

/-- Same events are about one remediation. -/
lemma remediationId (h : SameEvent e f) : e.val.remediationId = f.val.remediationId := by
  rcases h with rfl | ⟨_, eq⟩
  · rfl
  · rw [eq]

/-- Same events are stored as same rows. -/
lemma auditToRow (h : SameEvent e f) :
    SameAuditRow (Remediation.auditToRow e) (Remediation.auditToRow f) := by
  rcases h with rfl | ⟨created, eq⟩
  · exact .inl rfl
  · refine .inr ⟨congrArg str created, ?_⟩
    unfold Remediation.auditToRow
    rw [eq]

end SameEvent

/-- Same rows of the audit trail have one id. -/
lemma SameAuditRow.auditId {a b} (h : SameAuditRow a b) : a.auditId = b.auditId := by
  rcases h with rfl | ⟨_, eq⟩
  · rfl
  · rw [eq]

section
variable {m n : InMemoryStore} {rid : String} {es fs : List RemediationAuditEvent}
  {x y : RemediationRecord} {p q : RemediationProposal}

namespace SameStore

/-- A store is the same as itself. -/
lemma refl : SameStore m m where
  records := .refl fun _ => .refl
  order := rfl
  executions := rfl
  verifications := rfl
  audit := forall₂_sameEvent_refl

/-- Same records are stored alike. -/
lemma put (h : SameStore m n) (xy : SameRecord x y) (ef : List.Forall₂ SameEvent es fs) :
    SameStore (m.put rid x es) (n.put rid y fs) where
  records := h.records.set rid xy
  order := h.order
  executions := h.executions
  verifications := h.verifications
  audit := List.rel_append h.audit ef

/-- Same stores hold same records under an id. -/
lemma get? (h : SameStore m n) : m.records.get? rid = none ∧ n.records.get? rid = none ∨
    ∃ x y, m.records.get? rid = some x ∧ n.records.get? rid = some y ∧ SameRecord x y :=
  optionRel_elim (h.records.get? rid)

/-- `create` keeps stores the same. -/
lemma create (h : SameStore m n) (xy : SameRecord x y) (ef : List.Forall₂ SameEvent es fs) :
    Except.Related (fun a b => SameStore a.1 b.1 ∧ SameRecord a.2 b.2) (m.create x es)
      (n.create y fs) := by
  unfold InMemoryStore.create
  rw [xy.remediationId]
  dsimp only
  rcases h.get? with ⟨ea, eb⟩ | ⟨a, b, ea, eb, ab⟩
  · rw [ea, eb]
    refine .ok ⟨⟨h.records.set _ xy, ?_, h.executions, h.verifications, ?_⟩, xy⟩
    · rw [h.order]
    · exact List.rel_append h.audit ef
  · rw [ea, eb]
    exact .error

/-- `record_decision` keeps stores the same. -/
lemma recordDecision (h : SameStore m n) (pq : SameProposal p q) {a} :
    Except.Related (fun a b => SameStore a.1 b.1 ∧ SameRecord a.2 b.2)
      (m.recordDecision rid p a es) (n.recordDecision rid q a es) := by
  unfold InMemoryStore.recordDecision
  rcases h.get? with ⟨ea, eb⟩ | ⟨x, y, ea, eb, xy⟩
  · rw [ea, eb]
    exact .error
  · rw [ea, eb]
    dsimp only
    rw [xy.approval]
    refine .bind_same fun _ => ?_
    have updated : SameRecord { x with proposal := p, approval := some a }
        { y with proposal := q, approval := some a } :=
      ⟨pq, xy.policyDecision, rfl, xy.execution, xy.verification⟩
    exact .ok ⟨h.put updated forall₂_sameEvent_refl, updated⟩

/-- `begin_execution` keeps stores the same. -/
lemma beginExecution (h : SameStore m n) {pending} :
    Except.Related (fun a b => SameStore a.1 b.1 ∧ SameRecord a.2 b.2)
      (m.beginExecution rid pending es) (n.beginExecution rid pending es) := by
  unfold InMemoryStore.beginExecution
  rcases h.get? with ⟨ea, eb⟩ | ⟨x, y, ea, eb, xy⟩
  · rw [ea, eb]
    exact .error
  · rw [ea, eb]
    dsimp only
    rw [xy.status, h.executions]
    refine .bind_same fun _ => .bind_same fun _ => ?_
    have updated : SameRecord { x.withStatus .executing with execution := some pending }
        { y.withStatus .executing with execution := some pending } :=
      ⟨xy.proposal.withStatus, xy.policyDecision, xy.approval, rfl, xy.verification⟩
    exact .ok ⟨{ h.put updated forall₂_sameEvent_refl with executions := rfl }, updated⟩

/-- `finish_execution` keeps stores the same. -/
lemma finishExecution (h : SameStore m n) (eid : String) {result final} :
    Except.Related (fun a b => SameStore a.1 b.1 ∧ SameRecord a.2 b.2)
      (m.finishExecution rid eid result final es) (n.finishExecution rid eid result final es) := by
  unfold InMemoryStore.finishExecution
  rcases h.get? with ⟨ea, eb⟩ | ⟨x, y, ea, eb, xy⟩
  · rw [ea, eb]
    exact .error
  · rw [ea, eb]
    dsimp only
    rw [xy.status, h.executions]
    refine .bind_same fun _ => .bind_same fun _ => ?_
    have updated : SameRecord { x.withStatus final with execution := some result }
        { y.withStatus final with execution := some result } :=
      ⟨xy.proposal.withStatus, xy.policyDecision, xy.approval, rfl, xy.verification⟩
    exact .ok ⟨{ h.put updated forall₂_sameEvent_refl with executions := rfl }, updated⟩

/-- `begin_verification` keeps stores the same. -/
lemma beginVerification (h : SameStore m n) {pending} :
    Except.Related (fun a b => SameStore a.1 b.1 ∧ SameRecord a.2 b.2)
      (m.beginVerification rid pending es) (n.beginVerification rid pending es) := by
  unfold InMemoryStore.beginVerification
  rcases h.get? with ⟨ea, eb⟩ | ⟨x, y, ea, eb, xy⟩
  · rw [ea, eb]
    exact .error
  · rw [ea, eb]
    dsimp only
    rw [xy.status, h.verifications]
    refine .bind_same fun _ => .bind_same fun _ => ?_
    have updated : SameRecord { x.withStatus .verifying with verification := some pending }
        { y.withStatus .verifying with verification := some pending } :=
      ⟨xy.proposal.withStatus, xy.policyDecision, xy.approval, xy.execution, rfl⟩
    exact .ok ⟨{ h.put updated forall₂_sameEvent_refl with verifications := rfl }, updated⟩

/-- `finish_verification` keeps stores the same. -/
lemma finishVerification (h : SameStore m n) (vid : String) {result final} :
    Except.Related (fun a b => SameStore a.1 b.1 ∧ SameRecord a.2 b.2)
      (m.finishVerification rid vid result final es)
      (n.finishVerification rid vid result final es) := by
  unfold InMemoryStore.finishVerification
  rcases h.get? with ⟨ea, eb⟩ | ⟨x, y, ea, eb, xy⟩
  · rw [ea, eb]
    exact .error
  · rw [ea, eb]
    dsimp only
    rw [xy.status, h.verifications]
    refine .bind_same fun _ => .bind_same fun _ => ?_
    have updated : SameRecord { x.withStatus final with verification := some result }
        { y.withStatus final with verification := some result } :=
      ⟨xy.proposal.withStatus, xy.policyDecision, xy.approval, xy.execution, rfl⟩
    exact .ok ⟨{ h.put updated forall₂_sameEvent_refl with verifications := rfl }, updated⟩

/-- The history does not depend on free text. -/
lemma historySnapshot (h : SameStore m n) {key} : m.historySnapshot key = n.historySnapshot key := by
  have one : ∀ acc x y, SameRecord x y →
      InMemoryStore.observe key acc y = InMemoryStore.observe key acc x := by
    intro acc x y xy
    unfold InMemoryStore.observe
    rw [xy.proposal.key, xy.status, ← xy.approval]
  unfold InMemoryStore.historySnapshot
  refine List.rel_foldl (P := Eq) (R := SameRecord) ?_ rfl h.records.values
  rintro acc _ rfl x y xy
  exact (one acc x y xy).symm

end SameStore

/-- The in-memory repository respects free text. -/
theorem InMemoryStore.repository_respects : InMemoryStore.repository.Respects SameStore where
  get h rid := .ok (h.records.get? rid)
  create h xy ef := h.create xy ef
  recordDecision h pq _ _ _ := h.recordDecision pq
  beginExecution h _ _ _ := h.beginExecution
  finishExecution h _ eid _ _ _ := h.finishExecution eid
  beginVerification h _ _ _ := h.beginVerification
  finishVerification h _ vid _ _ _ := h.finishVerification vid
  history h _ := congrArg Except.ok h.historySnapshot

end

section
variable {s t : SqlStore} {rid : String} {es fs : List RemediationAuditEvent}
  {x y : RemediationRecord} {p q : RemediationProposal} {r r' : RemediationRow}

namespace SameRow

/-- The same row with another reason and other evidence. -/
lemma eq_mk (h : SameRow r r') : ∃ reason evidence,
    r' = { r with reason := reason, evidenceReferences := evidence } ∧
      (r.reason.length ≤ 4000 ↔ reason.length ≤ 4000) :=
  ⟨r'.reason, r'.evidenceReferences, h.rest, h.bound⟩

/-- A row is the same as itself. -/
lemma refl : SameRow r r := ⟨rfl, Iff.rfl⟩

/-- Same records are stored as same rows. -/
lemma recordToRow (h : SameRecord x y) :
    SameRow (Remediation.recordToRow x) (Remediation.recordToRow y) := by
  obtain ⟨reason, evidence, valid, rfl⟩ := h.eq_mk
  exact ⟨rfl, iff_of_true x.proposal.valid.2.2.1.2.1 valid.2.2.1.2.1⟩

/-- Same rows have one status. -/
lemma status (h : SameRow r r') : r'.status = r.status := by
  rw [h.rest]

/-- Same rows hold same proposals, or are refused alike. -/
lemma rowToProposal (h : SameRow r r') : Except.Related SameProposal
    (Remediation.rowToProposal r) (Remediation.rowToProposal r') := by
  obtain ⟨reason, evidence, rfl, bound⟩ := h.eq_mk
  unfold Remediation.rowToProposal
  refine .bind_same fun trigger => .bind_same fun actionType => .bind_same fun target =>
    .bind_same fun riskLevel => .bind_same fun status => ?_
  refine (constructOr_related ?_).mono fun p q pq => ?_
  · simp only [Schema.Valid, bound]
  · unfold SameProposal
    rw [pq.1, pq.2]

/-- Same rows moved to the same status. -/
lemma withStatus (h : SameRow r r') {status} :
    SameRow { r with status := status } { r' with status := status } := by
  obtain ⟨reason, evidence, rfl, bound⟩ := h.eq_mk
  exact ⟨rfl, bound⟩

end SameRow

namespace SameTables

/-- A set of tables is the same as itself. -/
lemma refl : SameTables s s where
  remediations := .refl fun _ => .refl
  approvals := rfl
  executions := rfl
  verifications := rfl
  audit := List.forall₂_same.mpr fun _ _ => .inl rfl

/-- Same tables hold same rows under an id. -/
lemma get? (h : SameTables s t) :
    s.remediations.get? rid = none ∧ t.remediations.get? rid = none ∨
      ∃ r r', s.remediations.get? rid = some r ∧ t.remediations.get? rid = some r' ∧ SameRow r r' :=
  optionRel_elim (h.remediations.get? rid)

/-- Same rows of same tables are the same records, or are refused alike. -/
lemma rowToRecord (h : SameTables s t) (rr : SameRow r r') :
    Except.Related SameRecord (s.rowToRecord r) (t.rowToRecord r') := by
  have id : r'.id = r.id := by rw [rr.rest]
  have decision : r'.policyDecision = r.policyDecision := by rw [rr.rest]
  unfold SqlStore.rowToRecord SqlStore.approvalsOf SqlStore.executionsOf SqlStore.verificationsOf
  rw [id, decision, h.approvals, h.executions, h.verifications]
  refine rr.rowToProposal.bind fun p q pq => ?_
  refine .bind_same fun d => .bind_same fun a => .bind_same fun e => .bind_same fun v => .ok ?_
  exact ⟨pq, rfl, rfl, rfl, rfl⟩

/-- Same tables show same records. -/
lemma get (h : SameTables s t) :
    Except.Related (Option.Rel SameRecord) (s.get rid) (t.get rid) := by
  unfold SqlStore.get
  rcases h.get? with ⟨ea, eb⟩ | ⟨r, r', ea, eb, rr⟩
  · rw [ea, eb]
    exact .ok .none
  · rw [ea, eb]
    exact (h.rowToRecord rr).map fun _ _ xy => .some xy

/-- The record a method rereads is the same. -/
lemma reread (h : SameTables s t) :
    Except.Related (fun a b => SameTables a.1 b.1 ∧ SameRecord a.2 b.2) (s.reread rid)
      (t.reread rid) := by
  unfold SqlStore.reread
  refine h.get.bind fun a b ab => ?_
  cases ab with
  | none => exact .error
  | some xy => exact .ok ⟨h, xy⟩

/-- Same events are appended alike, or refused alike. -/
lemma insertAudit (h : SameTables s t) (ef : List.Forall₂ SameEvent es fs) :
    Except.Related SameTables (s.insertAudit es) (t.insertAudit fs) := by
  have stored : s.audit.map (·.auditId) = t.audit.map (·.auditId) :=
    map_eq_of_related h.audit fun _ _ ab => ab.auditId
  have added : es.map (·.val.auditId) = fs.map (·.val.auditId) :=
    map_eq_of_related ef fun _ _ ab => ab.auditId
  have named : es.map (·.val.remediationId) = fs.map (·.val.remediationId) :=
    map_eq_of_related ef fun _ _ ab => ab.remediationId
  have there : (∀ e ∈ es, s.remediations.contains e.val.remediationId = true) ↔
      ∀ f ∈ fs, t.remediations.contains f.val.remediationId = true := by
    have h1 := List.forall_mem_map (f := fun e : RemediationAuditEvent => e.val.remediationId)
      (l := es) (P := fun rid => t.remediations.contains rid = true)
    have h2 := List.forall_mem_map (f := fun e : RemediationAuditEvent => e.val.remediationId)
      (l := fs) (P := fun rid => t.remediations.contains rid = true)
    rw [← h2, ← named, h1]
    simp only [h.remediations.contains]
  unfold SqlStore.insertAudit
  rw [stored, added]
  refine (Except.Related.ensure (and_congr_right fun _ => there) rfl).bind fun _ _ _ => .ok ?_
  refine { h with audit := List.rel_append h.audit ?_ }
  rw [List.forall₂_map_left_iff, List.forall₂_map_right_iff]
  exact ef.imp fun _ _ ab => ab.auditToRow

/-- A method that reports a violated constraint does so alike. -/
lemma onIntegrityError {α : Type} {R : α → α → Prop} {cls} {a b : Except Error α}
    (h : Except.Related R a b) :
    Except.Related R (SqlStore.onIntegrityError cls rid a) (SqlStore.onIntegrityError cls rid b) := by
  cases h with
  | ok r => exact .ok r
  | @error e =>
    unfold SqlStore.onIntegrityError
    dsimp only
    by_cases integrity : e.cls = .integrity
    · rw [if_pos integrity]
      exact .error
    · rw [if_neg integrity]
      exact .error

/-- The same row is locked, or none is. -/
lemma lockRow (h : SameTables s t) : Except.Related SameRow (s.lockRow rid) (t.lockRow rid) := by
  unfold SqlStore.lockRow
  rcases h.get? with ⟨ea, eb⟩ | ⟨r, r', ea, eb, rr⟩
  · rw [ea, eb]
    exact .error
  · rw [ea, eb]
    exact .ok rr

/-- Writing same rows keeps tables the same. -/
lemma set (h : SameTables s t) (rr : SameRow r r') :
    SameTables { s with remediations := s.remediations.set rid r }
      { t with remediations := t.remediations.set rid r' } :=
  { h with remediations := h.remediations.set rid rr }

/-- `create` keeps tables the same. -/
lemma create (h : SameTables s t) (xy : SameRecord x y) (ef : List.Forall₂ SameEvent es fs) :
    Except.Related (fun a b => SameTables a.1 b.1 ∧ SameRecord a.2 b.2) (s.create x es)
      (t.create y fs) := by
  unfold SqlStore.create
  have rr := SameRow.recordToRow xy
  have id : (recordToRow y).id = (recordToRow x).id := by rw [rr.rest]
  have free : (s.remediations.get? (recordToRow x).id).isNone = true ↔
      (t.remediations.get? (recordToRow x).id).isNone = true := by
    rcases h.get? with ⟨ea, eb⟩ | ⟨a, b, ea, eb, _⟩
    · rw [ea, eb]
    · rw [ea, eb]
      exact Iff.rfl
  dsimp only
  rw [id]
  refine (Except.Related.ensure free rfl).bind fun _ _ _ => ?_
  exact ((h.set rr).insertAudit ef).bind fun _ _ st => .ok ⟨st, xy⟩

/-- The same approval is inserted alike, or refused alike. -/
lemma insertApproval (h : SameTables s t) {a} :
    Except.Related SameTables (s.insertApproval a) (t.insertApproval a) := by
  unfold SqlStore.insertApproval SqlStore.approvalsOf
  rw [h.approvals]
  exact .bind_same fun _ => .ok { h with approvals := rfl }

/-- The same execution is inserted alike, or refused alike. -/
lemma insertExecution (h : SameTables s t) {e} :
    Except.Related SameTables (s.insertExecution e) (t.insertExecution e) := by
  unfold SqlStore.insertExecution SqlStore.executionsOf
  rw [h.executions, h.remediations.contains]
  exact .bind_same fun _ => .ok { h with executions := rfl }

/-- The same verification is inserted alike, or refused alike. -/
lemma insertVerification (h : SameTables s t) {v} :
    Except.Related SameTables (s.insertVerification v) (t.insertVerification v) := by
  unfold SqlStore.insertVerification SqlStore.verificationsOf
  rw [h.verifications, h.remediations.contains]
  exact .bind_same fun _ => .ok { h with verifications := rfl }

/-- A change of status keeps tables the same. -/
lemma setStatus (h : SameTables s t) (rr : SameRow r r') {status} :
    SameTables (s.setStatus rid r status) (t.setStatus rid r' status) :=
  h.set rr.withStatus

/-- The end of a method: an insertion, the audit rows and the record reread. -/
lemma insertAndReread {cls} {a b : Except Error SqlStore} (h : Except.Related SameTables a b) :
    Except.Related (fun a b => SameTables a.1 b.1 ∧ SameRecord a.2 b.2)
      (do
        let s' ← SqlStore.onIntegrityError cls rid do
          let s1 ← a
          s1.insertAudit es
        s'.reread rid)
      (do
        let s' ← SqlStore.onIntegrityError cls rid do
          let s1 ← b
          s1.insertAudit es
        s'.reread rid) := by
  have written := h.bind fun _ _ st => st.insertAudit (@forall₂_sameEvent_refl es)
  exact (onIntegrityError written).bind fun _ _ st => st.reread

/-- `record_decision` keeps tables the same. -/
lemma recordDecision (h : SameTables s t) (pq : SameProposal p q) {a} :
    Except.Related (fun a b => SameTables a.1 b.1 ∧ SameRecord a.2 b.2)
      (s.recordDecision rid p a es) (t.recordDecision rid q a es) := by
  unfold SqlStore.recordDecision
  refine h.lockRow.bind fun r r' rr => ?_
  have decided : SameRow
      { r with status := str p.val.status, decidedAt := some a.val.decidedAt }
      { r' with status := str q.val.status, decidedAt := some a.val.decidedAt } := by
    obtain ⟨reason, evidence, rfl, bound⟩ := rr.eq_mk
    rw [pq.status]
    exact ⟨rfl, bound⟩
  refine .bind (R := fun _ _ => True) (.ensure ?_ rfl) fun _ _ _ => ?_
  · unfold SqlStore.approvalsOf
    rw [h.approvals]
  · exact insertAndReread (h.set decided).insertApproval

/-- `begin_execution` keeps tables the same. -/
lemma beginExecution (h : SameTables s t) {pending} :
    Except.Related (fun a b => SameTables a.1 b.1 ∧ SameRecord a.2 b.2)
      (s.beginExecution rid pending es) (t.beginExecution rid pending es) := by
  unfold SqlStore.beginExecution
  refine h.lockRow.bind fun r r' rr => ?_
  rw [rr.status]
  refine .bind_same fun _ => .bind_same fun _ => ?_
  exact insertAndReread (h.setStatus rr).insertExecution

/-- `begin_verification` keeps tables the same. -/
lemma beginVerification (h : SameTables s t) {pending} :
    Except.Related (fun a b => SameTables a.1 b.1 ∧ SameRecord a.2 b.2)
      (s.beginVerification rid pending es) (t.beginVerification rid pending es) := by
  unfold SqlStore.beginVerification
  refine h.lockRow.bind fun r r' rr => ?_
  rw [rr.status]
  refine .bind_same fun _ => .bind_same fun _ => ?_
  exact insertAndReread (h.setStatus rr).insertVerification

/-- `finish_execution` keeps tables the same. -/
lemma finishExecution (h : SameTables s t) {eid result final} :
    Except.Related (fun a b => SameTables a.1 b.1 ∧ SameRecord a.2 b.2)
      (s.finishExecution rid eid result final es) (t.finishExecution rid eid result final es) := by
  unfold SqlStore.finishExecution
  refine h.lockRow.bind fun r r' rr => ?_
  rw [rr.status, h.executions]
  refine .bind_same fun _ => .bind_same fun _ => ?_
  cases t.executions.get? eid with
  | none => exact .error
  | some row =>
    refine .bind (R := SameTables) (insertAudit ?_ forall₂_sameEvent_refl) fun _ _ st => st.reread
    exact { h.setStatus rr with executions := rfl }

/-- `finish_verification` keeps tables the same. -/
lemma finishVerification (h : SameTables s t) {vid result final} :
    Except.Related (fun a b => SameTables a.1 b.1 ∧ SameRecord a.2 b.2)
      (s.finishVerification rid vid result final es)
      (t.finishVerification rid vid result final es) := by
  unfold SqlStore.finishVerification
  refine h.lockRow.bind fun r r' rr => ?_
  rw [rr.status, h.verifications]
  refine .bind_same fun _ => .bind_same fun _ => ?_
  cases t.verifications.get? vid with
  | none => exact .error
  | some row =>
    refine .bind (R := SameTables) (insertAudit ?_ forall₂_sameEvent_refl) fun _ _ st => st.reread
    exact { h.setStatus rr with verifications := rfl }

/-- A query over the columns of the key selects same rows. -/
lemma keyRows (h : SameTables s t) {key statuses} :
    List.Forall₂ SameRow (s.keyRows key statuses) (t.keyRows key statuses) := by
  unfold SqlStore.keyRows
  refine List.rel_filter ?_ h.remediations.values
  intro r r' rr
  rw [rr.rest]

/-- The history does not depend on free text. -/
lemma historySnapshot (h : SameTables s t) {key} :
    s.historySnapshot key = t.historySnapshot key := by
  have times : (s.keyRows key SqlStore.cooldownAnchorSql).map (·.decidedAt) =
      (t.keyRows key SqlStore.cooldownAnchorSql).map (·.decidedAt) :=
    map_eq_of_related h.keyRows fun r r' rr => by rw [rr.rest]
  have last : (s.keyRows key SqlStore.cooldownAnchorSql).filterMap (·.decidedAt) =
      (t.keyRows key SqlStore.cooldownAnchorSql).filterMap (·.decidedAt) := by
    have := congrArg (List.filterMap id) times
    simpa only [List.filterMap_map, Function.id_comp] using this
  unfold SqlStore.historySnapshot
  rw [h.keyRows.length_eq, last]

end SameTables

/-- The SQL repository respects free text. -/
theorem SqlStore.repository_respects : SqlStore.repository.Respects SameTables where
  get h _ := h.get
  create h xy ef := h.create xy ef
  recordDecision h pq _ _ _ := h.recordDecision pq
  beginExecution h _ _ _ := h.beginExecution
  finishExecution h _ _ _ _ _ := h.finishExecution
  beginVerification h _ _ _ := h.beginVerification
  finishVerification h _ _ _ _ _ := h.finishVerification
  history h _ := congrArg Except.ok h.historySnapshot

end

end SentinelOps.Remediation
