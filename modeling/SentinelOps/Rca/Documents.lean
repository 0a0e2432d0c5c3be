import SentinelOps.Rca.Schemas

/-!
# The documents of a report

The parts of a report that are stored as JSON: what `model_dump(mode="json")` writes for a part and
what `model_validate` makes of a document. A document is refused when a field is missing that has no
default, when a value has the wrong type or when a constraint of the model fails; a valid part is
read back as it was written. How a timestamp is written belongs to the validation library, and
`IsoFormat` says what is relied on.
-/

namespace SentinelOps.Rca

/-- The text form of a timestamp, from which it is read back. -/
structure IsoFormat where
  format : Instant → String
  parse : String → Option Instant
  parse_format : ∀ t, parse (format t) = some t

/-- The value of a field of a document. -/
def Json.field (j : Json) (k : String) : Option Json :=
  match j with
  | .dict es => Dict.lookup k es
  | _ => none

/-- The first field of a document. -/
@[simp] lemma field_cons_self {k v es} : (Json.dict ((k, v) :: es)).field k = some v := by
  simp [Json.field, Dict.lookup]

/-- A later field of a document. -/
lemma field_cons_ne {k k' v es} (h : k' ≠ k) :
    (Json.dict ((k', v) :: es)).field k = (Json.dict es).field k := by
  simp [Json.field, Dict.lookup, h]

/-- A field without a default. -/
def required {α : Type} (j : Json) (k : String) (read : Json → Option α) : Option α :=
  (j.field k).bind read

/-- A field with a default. -/
def optional {α : Type} (j : Json) (k : String) (default : α) (read : Json → Option α) : Option α :=
  (j.field k).elim (some default) read

/-- A model is refused as a whole when one of its constraints fails. -/
def accepted {α : Type} (P : α → Prop) [DecidablePred P] (x : α) : Option α :=
  if P x then some x else none

/-- A string. -/
def readStr : Json → Option String
  | .str s => some s
  | _ => none

/-- A natural number. -/
def readNat : Json → Option Nat
  | .int (.ofNat n) => some n
  | _ => none

/-- A float. -/
def readFloat : Json → Option PyFloat
  | .float x => some x
  | .int n => some (.nearest n)
  | _ => none

/-- `Literal[True]`. -/
def readTrue : Json → Option Bool
  | .bool true => some true
  | _ => none

/-- A member of an enumeration. -/
def readEnum {α : Type} [StrEnum α] : Json → Option α
  | .str s => StrEnum.parse s
  | _ => none

/-- A list. -/
def readList {α : Type} (read : Json → Option α) : Json → Option (List α)
  | .list xs => xs.mapM read
  | _ => none

/-- A value that may be null. -/
def readOpt {α : Type} (read : Json → Option α) : Json → Option (Option α)
  | .null => some none
  | j => (read j).map some

/-- A timestamp. -/
def readInstant (iso : IsoFormat) : Json → Option Instant
  | .str s => iso.parse s
  | _ => none

/-- A list of strings as JSON. -/
def strs (xs : List String) : Json := .list (xs.map .str)

/-- A string that may be missing as JSON. -/
def optStr (s : Option String) : Json := s.elim .null .str

/-- What is written element by element is read back. -/
lemma mapM_of_inverse {α β : Type} {write : α → β} {read : β → Option α} {xs : List α}
    (inverse : ∀ x ∈ xs, read (write x) = some x) : (xs.map write).mapM read = some xs := by
  induction xs with
  | nil => rfl
  | cons x xs ih =>
    have first := inverse x (by simp)
    have rest := ih fun y member => inverse y (by simp [member])
    simp [first, rest]

@[simp] lemma readList_strs {xs : List String} : readList readStr (strs xs) = some xs :=
  mapM_of_inverse fun _ _ => rfl

@[simp] lemma readOpt_optStr {s : Option String} : readOpt readStr (optStr s) = some s := by
  cases s <;> rfl

@[simp] lemma readStr_str {s : String} : readStr (.str s) = some s := rfl

@[simp] lemma readNat_int {n : Nat} : readNat (.int n) = some n := rfl

@[simp] lemma readFloat_float {x : PyFloat} : readFloat (.float x) = some x := rfl

@[simp] lemma readEnum_str {α : Type} [StrEnum α] {a : α} : readEnum (.str (str a)) = some a :=
  StrEnum.parse_str

@[simp] lemma readInstant_format {iso : IsoFormat} {t} :
    readInstant iso (.str (iso.format t)) = some t := iso.parse_format t

/-- A valid model is accepted. -/
lemma accepted_of {α : Type} {P : α → Prop} [DecidablePred P] {x : α} (h : P x) :
    accepted P x = some x := if_pos h

/-- `^<prefix>[a-z0-9_]+$`. -/
def Slug (start s : String) : Prop :=
  start.toList <+: s.toList ∧ s.toList.drop start.toList.length ≠ [] ∧
    ∀ c ∈ s.toList.drop start.toList.length, c.isDigit ∨ ('a' ≤ c ∧ c ≤ 'z') ∨ c = '_'

instance {start s} : Decidable (Slug start s) :=
  @instDecidableAnd _ _ _ (@instDecidableAnd _ _ _ (List.decidableBAll _ _))

/-- The constraints of `Finding`. -/
def Finding.Valid (f : Finding) : Prop := Slug "fi_" f.id ∧ Fits 2000 f.statement

instance : DecidablePred Finding.Valid := fun _ => inferInstanceAs (Decidable (_ ∧ _))

/-- `Finding.model_dump`. -/
def Finding.dump (f : Finding) : Json :=
  .dict [("id", .str f.id), ("type", .str (str f.type)), ("statement", .str f.statement),
    ("evidence_ids", strs f.evidenceIds), ("confidence", .str (str f.confidence))]

/-- `Finding.model_validate`. -/
def Finding.modelValidate (j : Json) : Option Finding := do
  let id ← required j "id" readStr
  let type ← required j "type" readEnum
  let statement ← required j "statement" readStr
  let evidenceIds ← optional j "evidence_ids" [] (readList readStr)
  let confidence ← optional j "confidence" .unknown readEnum
  accepted Finding.Valid ⟨id, type, statement, evidenceIds, confidence⟩

/-- A finding is read back. -/
lemma Finding.modelValidate_dump {f : Finding} (h : f.Valid) : modelValidate f.dump = some f := by
  simp [modelValidate, dump, required, optional, field_cons_ne, accepted_of h]

/-- The constraints of `Hypothesis`. -/
def Hypothesis.Valid (h : Hypothesis) : Prop := Slug "hy_" h.id ∧ h.WellFormed

instance : DecidablePred Hypothesis.Valid := fun _ => inferInstanceAs (Decidable (_ ∧ _))

/-- `Hypothesis.model_dump`. -/
def Hypothesis.dump (h : Hypothesis) : Json :=
  .dict [("id", .str h.id), ("statement", .str h.statement),
    ("supporting_evidence_ids", strs h.supportingEvidenceIds),
    ("contradicting_evidence_ids", strs h.contradictingEvidenceIds),
    ("assessment", .str h.assessment), ("verdict", .str (str h.verdict))]

/-- `Hypothesis.model_validate`. -/
def Hypothesis.modelValidate (j : Json) : Option Hypothesis := do
  let id ← required j "id" readStr
  let statement ← required j "statement" readStr
  let supporting ← optional j "supporting_evidence_ids" [] (readList readStr)
  let contradicting ← optional j "contradicting_evidence_ids" [] (readList readStr)
  let assessment ← required j "assessment" readStr
  let verdict ← required j "verdict" readEnum
  accepted Hypothesis.Valid ⟨id, statement, supporting, contradicting, assessment, verdict⟩

/-- A hypothesis is read back. -/
lemma Hypothesis.modelValidate_dump {h : Hypothesis} (valid : h.Valid) :
    modelValidate h.dump = some h := by
  simp [modelValidate, dump, required, optional, field_cons_ne, accepted_of valid]

/-- The constraints of `RootCause`. -/
def RootCause.Valid (c : RootCause) : Prop := Fits 2000 c.statement ∧ Fits 4000 c.reasoningSummary

instance : DecidablePred RootCause.Valid := fun _ => inferInstanceAs (Decidable (_ ∧ _))

/-- `RootCause.model_dump`. -/
def RootCause.dump (c : RootCause) : Json :=
  .dict [("statement", .str c.statement), ("confidence", .str (str c.confidence)),
    ("evidence_ids", strs c.evidenceIds), ("reasoning_summary", .str c.reasoningSummary)]

/-- `RootCause.model_validate`. -/
def RootCause.modelValidate (j : Json) : Option RootCause := do
  let statement ← required j "statement" readStr
  let confidence ← required j "confidence" readEnum
  let evidenceIds ← required j "evidence_ids" (readList readStr)
  let reasoningSummary ← required j "reasoning_summary" readStr
  accepted RootCause.Valid ⟨statement, confidence, evidenceIds, reasoningSummary⟩

/-- A root cause is read back. -/
lemma RootCause.modelValidate_dump {c : RootCause} (valid : c.Valid) :
    modelValidate c.dump = some c := by
  simp [modelValidate, dump, required, field_cons_ne, accepted_of valid]

/-- The constraints of `RecommendedAction`. -/
def RecommendedAction.Valid (a : RecommendedAction) : Prop :=
  FitsOpt 128 a.targetService ∧ Fits 2000 a.description ∧ Fits 2000 a.rationale ∧
    a.requiresHumanApproval = true

instance : DecidablePred RecommendedAction.Valid :=
  fun _ => inferInstanceAs (Decidable (_ ∧ _ ∧ _ ∧ _))

/-- `RecommendedAction.model_dump`. -/
def RecommendedAction.dump (a : RecommendedAction) : Json :=
  .dict [("action_type", .str (str a.actionType)), ("target_service", optStr a.targetService),
    ("description", .str a.description), ("rationale", .str a.rationale),
    ("evidence_ids", strs a.evidenceIds),
    ("requires_human_approval", .bool a.requiresHumanApproval)]

/-- `RecommendedAction.model_validate`. -/
def RecommendedAction.modelValidate (j : Json) : Option RecommendedAction := do
  let actionType ← required j "action_type" readEnum
  let targetService ← optional j "target_service" none (readOpt readStr)
  let description ← required j "description" readStr
  let rationale ← required j "rationale" readStr
  let evidenceIds ← optional j "evidence_ids" [] (readList readStr)
  let requiresHumanApproval ← optional j "requires_human_approval" true readTrue
  accepted RecommendedAction.Valid
    ⟨actionType, targetService, description, rationale, evidenceIds, requiresHumanApproval⟩

/-- A recommendation is read back. -/
lemma RecommendedAction.modelValidate_dump {a : RecommendedAction} (valid : a.Valid) :
    modelValidate a.dump = some a := by
  obtain ⟨actionType, targetService, description, rationale, evidenceIds, approval⟩ := a
  obtain rfl : approval = true := valid.2.2.2
  simp [modelValidate, dump, required, optional, field_cons_ne, readTrue,
    accepted_of valid]

/-- The constraint of `TimelineEntry`. -/
def TimelineEntry.Valid (t : TimelineEntry) : Prop := Fits 1000 t.description

instance : DecidablePred TimelineEntry.Valid := fun _ => inferInstanceAs (Decidable (Fits _ _))

section
variable (iso : IsoFormat)

/-- `TimelineEntry.model_dump`. -/
def TimelineEntry.dump (t : TimelineEntry) : Json :=
  .dict [("at", .str (iso.format t.at_)), ("description", .str t.description),
    ("evidence_ids", strs t.evidenceIds)]

/-- `TimelineEntry.model_validate`. -/
def TimelineEntry.modelValidate (j : Json) : Option TimelineEntry := do
  let at_ ← required j "at" (readInstant iso)
  let description ← required j "description" readStr
  let evidenceIds ← optional j "evidence_ids" [] (readList readStr)
  accepted TimelineEntry.Valid ⟨at_, description, evidenceIds⟩

/-- A timeline entry is read back. -/
lemma TimelineEntry.modelValidate_dump {t : TimelineEntry} (valid : t.Valid) :
    modelValidate iso (t.dump iso) = some t := by
  simp [modelValidate, dump, required, optional, field_cons_ne, accepted_of valid]

end

/-- `ResourceLimits.model_dump`. -/
def ResourceLimits.dump (l : ResourceLimits) : Json :=
  .dict [("max_tool_calls", .int l.maxToolCalls), ("max_steps", .int l.maxSteps),
    ("max_evidence_items", .int l.maxEvidenceItems), ("timeout_seconds", .float l.timeoutSeconds),
    ("max_hypotheses", .int l.maxHypotheses)]

/-- The constructor of `ResourceLimits`, which refuses values out of their bounds. -/
def ResourceLimits.build (calls steps items : Nat) (timeout : PyFloat) (hypotheses : Nat) :
    Option ResourceLimits :=
  if h : (1 ≤ calls ∧ calls ≤ 100) ∧ (1 ≤ steps ∧ steps ≤ 200) ∧ (1 ≤ items ∧ items ≤ 200) ∧
      (PyFloat.Above (.fin 0) timeout ∧ timeout.le (.fin 900) = true) ∧
      (1 ≤ hypotheses ∧ hypotheses ≤ 20) then
    some ⟨calls, steps, items, timeout, hypotheses, h.1, h.2.1, h.2.2.1, h.2.2.2.1, h.2.2.2.2⟩
  else none

/-- `ResourceLimits.model_validate`. -/
def ResourceLimits.modelValidate (j : Json) : Option ResourceLimits := do
  let calls ← optional j "max_tool_calls" 12 readNat
  let steps ← optional j "max_steps" 25 readNat
  let items ← optional j "max_evidence_items" 40 readNat
  let timeout ← optional j "timeout_seconds" (.fin 120) readFloat
  let hypotheses ← optional j "max_hypotheses" 5 readNat
  ResourceLimits.build calls steps items timeout hypotheses

/-- Limits are within their bounds. -/
lemma ResourceLimits.build_fields {l : ResourceLimits} :
    build l.maxToolCalls l.maxSteps l.maxEvidenceItems l.timeoutSeconds l.maxHypotheses =
      some l :=
  dif_pos ⟨l.toolCalls_ok, l.steps_ok, l.evidenceItems_ok, l.timeout_ok, l.hypotheses_ok⟩

/-- Limits are read back. -/
lemma ResourceLimits.modelValidate_dump {l : ResourceLimits} : modelValidate l.dump = some l := by
  simp [modelValidate, dump, optional, field_cons_ne, build_fields]

/-- The constraints of `InvestigationMetadata`. -/
def InvestigationMetadata.Valid (m : InvestigationMetadata) : Prop :=
  (m.mode = "mock" ∨ m.mode = "live") ∧ PyFloat.le (.fin 0) m.durationSeconds = true ∧
    Fits 200 m.terminationReason

instance : DecidablePred InvestigationMetadata.Valid :=
  fun _ => inferInstanceAs (Decidable ((_ ∨ _) ∧ _ ∧ _))

section
variable (iso : IsoFormat)

/-- `InvestigationMetadata.model_dump`. -/
def InvestigationMetadata.dump (m : InvestigationMetadata) : Json :=
  .dict [("mode", .str m.mode), ("llm_provider", optStr m.llmProvider), ("model", optStr m.model),
    ("started_at", .str (iso.format m.startedAt)),
    ("completed_at", .str (iso.format m.completedAt)),
    ("duration_seconds", .float m.durationSeconds), ("tool_call_count", .int m.toolCallCount),
    ("step_count", .int m.stepCount), ("evidence_count", .int m.evidenceCount),
    ("termination_reason", .str m.terminationReason), ("limits", m.limits.dump)]

/-- `InvestigationMetadata.model_validate`. -/
def InvestigationMetadata.modelValidate (j : Json) : Option InvestigationMetadata := do
  let mode ← required j "mode" readStr
  let llmProvider ← optional j "llm_provider" none (readOpt readStr)
  let model ← optional j "model" none (readOpt readStr)
  let startedAt ← required j "started_at" (readInstant iso)
  let completedAt ← required j "completed_at" (readInstant iso)
  let durationSeconds ← required j "duration_seconds" readFloat
  let toolCallCount ← required j "tool_call_count" readNat
  let stepCount ← required j "step_count" readNat
  let evidenceCount ← required j "evidence_count" readNat
  let terminationReason ← required j "termination_reason" readStr
  let limits ← required j "limits" ResourceLimits.modelValidate
  accepted InvestigationMetadata.Valid
    ⟨mode, llmProvider, model, startedAt, completedAt, durationSeconds, toolCallCount, stepCount,
      evidenceCount, terminationReason, limits⟩

/-- The metadata are read back. -/
lemma InvestigationMetadata.modelValidate_dump {m : InvestigationMetadata} (valid : m.Valid) :
    modelValidate iso (m.dump iso) = some m := by
  simp [modelValidate, dump, required, optional, field_cons_ne, ResourceLimits.modelValidate_dump,
    accepted_of valid]

end

end SentinelOps.Rca
