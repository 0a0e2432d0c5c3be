import SentinelOps.Remediation.SqlRefinement

/-!
# The read-only queries

`list` and `list_audit_events` of both repositories. The audit trail of a remediation is read in the
order its events were appended; over the tables every row is parsed back, and `rowToAudit_auditToRow`
says that nothing is lost on the way.
-/

namespace SentinelOps.Remediation

/-- `RemediationFilter`. -/
structure RemediationFilter where
  incidentId : Option String := none
  status : Option RemediationStatus := none
  actionType : Option RemediationActionType := none
  since : Option Instant := none
  limit : Nat := 50
  offset : Nat := 0

/-- `E(s) if s else None`. -/
def loadEnum {α : Type} [StrEnum α] : Option String → Except Error (Option α)
  | none => .ok none
  | some s => if s = "" then .ok none else some <$> parseEnum s

/-- `_row_to_audit`. -/
def rowToAudit (row : AuditRow) : Except Error RemediationAuditEvent := do
  let eventType ← parseEnum row.eventType
  let actorType ← parseEnum row.actorType
  let actorRole ← loadEnum row.actorRole
  let previousState ← loadEnum row.previousState
  let newState ← loadEnum row.newState
  let actionType ← loadEnum row.actionType
  let policyOutcome ← loadEnum row.policyOutcome
  let policyReasonCodes ← row.policyReasonCodes.mapM parseEnum
  let executionMode ← loadEnum row.executionMode
  let executionResult ← loadEnum row.executionResult
  constructOr "RemediationAuditEvent"
    { auditId := row.auditId
      remediationId := row.remediationId
      incidentId := row.incidentId
      investigationId := row.investigationId
      eventType
      actorType
      actorId := row.actorId
      actorRole
      previousState
      newState
      actionType
      targetService := row.targetService
      targetEnvironment := row.targetEnvironment
      policyOutcome
      policyVersion := row.policyVersion
      policyReasonCodes
      executionId := row.executionId
      executionMode
      executionResult
      verificationId := row.verificationId
      reason := row.reason
      correlationId := row.correlationId
      metadata := row.eventMetadata
      occurredAt := row.occurredAt }

/-- The page of a listing. -/
def page {α : Type} (offset limit : Nat) (rows : List α) : List α := (rows.drop offset).take limit

namespace InMemoryStore

/-- The audit events of a remediation, oldest first. -/
def trail (m : InMemoryStore) (rid : String) : List RemediationAuditEvent :=
  m.audit.filter fun e => decide (e.val.remediationId = rid)

/-- `list_audit_events`. -/
def listAuditEvents (m : InMemoryStore) (rid : String) (limit : Nat := 100) (offset : Nat := 0) :
    List RemediationAuditEvent :=
  page offset limit (m.trail rid)

/-- The records a filter selects. -/
def selects (flt : RemediationFilter) (r : RemediationRecord) : Bool :=
  flt.incidentId.all (fun i => decide (r.proposal.val.incidentId = i)) &&
    flt.status.all (fun s => decide (r.status = s)) &&
    flt.actionType.all (fun a => decide (r.proposal.val.actionType = a)) &&
    flt.since.all (fun t => decide (t ≤ r.proposal.val.createdAt))

/-- The record under an id of the creation order. -/
def getItem (m : InMemoryStore) (rid : String) : Except Error RemediationRecord :=
  match m.records.get? rid with
  | some rec => .ok rec
  | none => .error ⟨.other, rid⟩

/-- `list`: the newest first. -/
def list (m : InMemoryStore) (flt : RemediationFilter) : Except Error (List RemediationRecord) := do
  let rows ← m.order.mapM m.getItem
  return page flt.offset flt.limit ((rows.filter (selects flt)).mergeSort fun a b =>
    decide (b.proposal.val.createdAt ≤ a.proposal.val.createdAt))

end InMemoryStore

namespace SqlStore

/-- The audit rows of a remediation in the order of `seq`. -/
def auditOf (s : SqlStore) (rid : String) : List AuditRow :=
  s.audit.filter fun row => decide (row.remediationId = rid)

/-- `list_audit_events`. -/
def listAuditEvents (s : SqlStore) (rid : String) (limit : Nat := 100) (offset : Nat := 0) :
    Except Error (List RemediationAuditEvent) :=
  (page offset limit (s.auditOf rid)).mapM rowToAudit

/-- The rows a filter selects. -/
def selects (flt : RemediationFilter) (row : RemediationRow) : Bool :=
  flt.incidentId.all (fun i => decide (row.incidentId = i)) &&
    flt.status.all (fun s => decide (row.status = str s)) &&
    flt.actionType.all (fun a => decide (row.actionType = str a)) &&
    flt.since.all (fun t => decide (t ≤ row.createdAt))

/-- `list`: the newest first; rows of one creation time may come in any order. -/
def list (s : SqlStore) (flt : RemediationFilter) : Except Error (List RemediationRecord) :=
  (page flt.offset flt.limit ((s.remediations.values.filter (selects flt)).mergeSort fun a b =>
    decide (b.createdAt ≤ a.createdAt))).mapM s.rowToRecord

end SqlStore

/-- The value of an enumeration member is not empty. -/
class NonemptyValues (α : Type) [StrEnum α] : Prop where
  ne : ∀ a : α, str a ≠ ""

instance : NonemptyValues ApproverRole := ⟨by intro a; cases a <;> decide⟩
instance : NonemptyValues RemediationStatus := ⟨by intro a; cases a <;> decide⟩
instance : NonemptyValues RemediationActionType := ⟨by intro a; cases a <;> decide⟩
instance : NonemptyValues PolicyOutcome := ⟨by intro a; cases a <;> decide⟩
instance : NonemptyValues ExecutionMode := ⟨by intro a; cases a; decide⟩
instance : NonemptyValues ExecutionStatus := ⟨by intro a; cases a <;> decide⟩

/-- A nullable enumeration column is read back as it was written. -/
@[simp] lemma loadEnum_map_str {α : Type} [StrEnum α] [NonemptyValues α] {a : Option α} :
    loadEnum (a.map str) = .ok a := by
  cases a with
  | none => rfl
  | some a => simp [loadEnum, NonemptyValues.ne a, Functor.map, Except.map]

/-- An audit event is read back as it was written. -/
lemma rowToAudit_auditToRow {e : RemediationAuditEvent} : rowToAudit (auditToRow e) = .ok e := by
  unfold rowToAudit auditToRow
  dsimp only
  simp only [parseEnum_str, loadEnum_map_str, mapM_parseEnum_str, bind, Except.bind]
  exact constructOr_val

/-- A list of audit events is read back as it was written. -/
lemma mapM_rowToAudit {es : List RemediationAuditEvent} :
    (es.map auditToRow).mapM rowToAudit = .ok es := by
  induction es with
  | nil => rfl
  | cons e es ih =>
    rw [List.map_cons, List.mapM_cons, rowToAudit_auditToRow, ih]
    rfl

/-- A page of a translated listing. -/
lemma page_map {α β : Type} {f : α → β} {offset limit} {l : List α} :
    page offset limit (l.map f) = (page offset limit l).map f := by
  simp [page, List.map_take, List.map_drop]

/-- The audit rows of a remediation are its trail written out. -/
lemma SqlRel.auditOf {s m rid} (h : SqlRel s m) : s.auditOf rid = (m.trail rid).map auditToRow := by
  unfold SqlStore.auditOf InMemoryStore.trail
  rw [h.audit, List.filter_map]
  rfl

/-- Both repositories list the same audit events. -/
theorem SqlRel.listAuditEvents {s m rid limit offset} (h : SqlRel s m) :
    s.listAuditEvents rid limit offset = .ok (m.listAuditEvents rid limit offset) := by
  unfold SqlStore.listAuditEvents InMemoryStore.listAuditEvents
  rw [h.auditOf, page_map, mapM_rowToAudit]

end SentinelOps.Remediation
