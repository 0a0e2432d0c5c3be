import SentinelOps.Rca.Repository
import SentinelOps.Rca.Validation

/-!
# The SQL repository

The tables of the investigation database and `SqlInvestigationRepository` over them. Every method is
one transaction. An insert is refused when a unique constraint is violated or when a column does not
take a value: a text is too long for it or contains a NUL, a JSON document contains one or a number
that JSON does not have. A table is kept in the order of its ids.
-/

namespace SentinelOps.Rca

/-- A row of `investigations`. -/
structure InvestigationRow where
  id : String
  incidentId : String
  status : String
  trigger : String
  mode : String
  model : Option String := none
  terminationReason : Option String := none
  toolCallCount : Nat := 0
  stepCount : Nat := 0
  evidenceCount : Nat := 0
  overallConfidence : String
  startedAt : Option Instant := none
  completedAt : Option Instant := none
  createdAt : Instant
  updatedAt : Instant

/-- A row of `investigation_steps`. -/
structure InvestigationStepRow where
  investigationId : String
  seq : Nat
  kind : String
  phase : String
  description : String
  toolName : Option String
  evidenceIds : List String
  createdAt : Instant

/-- A row of `evidence_records`. -/
structure EvidenceRecordRow where
  investigationId : String
  evidenceId : String
  sourceType : String
  sourceReference : String
  trustLevel : String
  toolName : String
  service : Option String
  summary : String
  content : Content
  observedAt : Option Instant
  collectedAt : Instant

/-- A row of `rca_reports`. -/
structure RcaReportRow where
  investigationId : String
  incidentId : String
  status : String
  summary : String
  overallConfidence : String
  rootCause : Option Json
  contributingFactors : List Json
  findings : List Json
  hypotheses : List Json
  recommendedAction : Json
  timeline : List Json
  uncertainty : String
  unavailableEvidenceSources : List String
  investigationMetadata : Json

/-- The tables. -/
structure InvestigationDatabase where
  investigations : Dict String InvestigationRow := .empty
  steps : List InvestigationStepRow := []
  evidence : List EvidenceRecordRow := []
  reports : List RcaReportRow := []

/-- `_row_to_investigation`. -/
def rowToInvestigation (row : InvestigationRow) : Option Investigation := do
  let status ← StrEnum.parse row.status
  let trigger ← StrEnum.parse row.trigger
  let overallConfidence ← StrEnum.parse row.overallConfidence
  if row.mode = "mock" ∨ row.mode = "live" then
    some
      { id := row.id
        incidentId := row.incidentId
        status := status
        trigger := trigger
        mode := row.mode
        model := row.model
        terminationReason := row.terminationReason
        toolCallCount := row.toolCallCount
        stepCount := row.stepCount
        evidenceCount := row.evidenceCount
        overallConfidence := overallConfidence
        startedAt := row.startedAt
        completedAt := row.completedAt
        createdAt := row.createdAt
        updatedAt := row.updatedAt }
  else none

/-- The constraints of `Evidence`. -/
def Evidence.Valid (ev : Evidence) : Prop :=
  Slug "ev_" ev.id ∧ Fits 500 ev.sourceReference ∧ Fits 64 ev.toolName ∧ FitsOpt 128 ev.service ∧
    Fits 2000 ev.summary

instance : DecidablePred Evidence.Valid := fun _ => inferInstanceAs (Decidable (_ ∧ _ ∧ _ ∧ _ ∧ _))

/-- `_evidence_to_row`. -/
def evidenceToRow (investigationId : String) (ev : Evidence) : EvidenceRecordRow where
  investigationId := investigationId
  evidenceId := ev.id
  sourceType := str ev.sourceType
  sourceReference := ev.sourceReference
  trustLevel := str ev.trustLevel
  toolName := ev.toolName
  service := ev.service
  summary := ev.summary
  content := ev.content
  observedAt := ev.observedAt
  collectedAt := ev.collectedAt

/-- `_row_to_evidence`. -/
def rowToEvidence (row : EvidenceRecordRow) : Option Evidence := do
  let sourceType ← StrEnum.parse row.sourceType
  let trustLevel ← StrEnum.parse row.trustLevel
  accepted Evidence.Valid
    { id := row.evidenceId
      sourceType := sourceType
      sourceReference := row.sourceReference
      trustLevel := trustLevel
      toolName := row.toolName
      service := row.service
      summary := row.summary
      content := row.content
      observedAt := row.observedAt
      collectedAt := row.collectedAt }

/-- `_step_to_row`. -/
def stepToRow (investigationId : String) (step : InvestigationStep) : InvestigationStepRow where
  investigationId := investigationId
  seq := step.seq
  kind := str step.kind
  phase := str step.phase
  description := step.description
  toolName := step.toolName
  evidenceIds := step.evidenceIds
  createdAt := step.at_

section
variable (iso : IsoFormat)

/-- `_report_to_row`. -/
def reportToRow (investigationId : String) (report : RCAReport) : RcaReportRow where
  investigationId := investigationId
  incidentId := report.incidentId
  status := str report.status
  summary := report.summary
  overallConfidence := str report.overallConfidence
  rootCause := report.rootCause.map RootCause.dump
  contributingFactors := report.contributingFactors.map Finding.dump
  findings := report.findings.map Finding.dump
  hypotheses := report.hypotheses.map Hypothesis.dump
  recommendedAction := report.recommendedAction.dump
  timeline := report.timeline.map (TimelineEntry.dump iso)
  uncertainty := report.uncertainty
  unavailableEvidenceSources := report.unavailableEvidenceSources
  investigationMetadata := report.investigationMetadata.dump iso

/-- `sorted({e.service for e in evidence if e.service})`. -/
def evidenceServices (evidence : List Evidence) : List String :=
  Py.sortedSet ((evidence.filterMap Evidence.service).filter (· ≠ ""))

/-- `_row_to_report`. -/
def rowToReport (row : RcaReportRow) (evidence : List Evidence) : Option RCAReport := do
  let status ← StrEnum.parse row.status
  let timeline ← row.timeline.mapM (TimelineEntry.modelValidate iso)
  let findings ← row.findings.mapM Finding.modelValidate
  let hypotheses ← row.hypotheses.mapM Hypothesis.modelValidate
  let rootCause ← row.rootCause.mapM RootCause.modelValidate
  let contributingFactors ← row.contributingFactors.mapM Finding.modelValidate
  let recommendedAction ← RecommendedAction.modelValidate row.recommendedAction
  let overallConfidence ← StrEnum.parse row.overallConfidence
  let metadata ← InvestigationMetadata.modelValidate iso row.investigationMetadata
  accepted RCAReport.WellFormed
    { incidentId := row.incidentId
      investigationId := row.investigationId
      status := status
      summary := row.summary
      affectedServices := evidenceServices evidence
      timeline := timeline
      findings := findings
      hypotheses := hypotheses
      rootCause := rootCause
      contributingFactors := contributingFactors
      recommendedAction := recommendedAction
      evidence := evidence
      overallConfidence := overallConfidence
      uncertainty := row.uncertainty
      unavailableEvidenceSources := row.unavailableEvidenceSources
      investigationMetadata := metadata }

end

/-- What a text column takes. -/
def TextColumn (s : String) : Prop := Char.ofNat 0 ∉ s.toList

/-- What a text column of a given width takes. -/
def VarcharColumn (n : Nat) (s : String) : Prop := Fits n s ∧ TextColumn s

mutual

/-- What a JSONB column takes. -/
def Json.storable : Json → Bool
  | .null | .bool _ | .int _ => true
  | .float x => match x with
    | .fin _ => true
    | .nan | .negInf | .posInf => false
  | .str s => decide (Char.ofNat 0 ∉ s.toList)
  | .list xs => Json.allStorable xs
  | .dict es => Json.itemsStorable es

/-- Every element of a list can be stored. -/
def Json.allStorable : List Json → Bool
  | [] => true
  | x :: xs => x.storable && Json.allStorable xs

/-- Every item of a dictionary can be stored. -/
def Json.itemsStorable : List (String × Json) → Bool
  | [] => true
  | (k, v) :: es => decide (Char.ofNat 0 ∉ k.toList) && v.storable && Json.itemsStorable es

end

instance {s} : Decidable (TextColumn s) := inferInstanceAs (Decidable (_ ∉ _))

instance {n s} : Decidable (VarcharColumn n s) := inferInstanceAs (Decidable (_ ∧ _))

/-- The columns of `investigations` that a completion writes. -/
def InvestigationRow.Storable (row : InvestigationRow) : Prop :=
  (∀ m ∈ row.model, VarcharColumn 64 m) ∧ ∀ r ∈ row.terminationReason, TextColumn r

/-- The columns of `investigation_steps`. -/
def InvestigationStepRow.Storable (row : InvestigationStepRow) : Prop :=
  TextColumn row.description ∧ (∀ t ∈ row.toolName, VarcharColumn 64 t) ∧
    (strs row.evidenceIds).storable = true

/-- The columns of `evidence_records`. -/
def EvidenceRecordRow.Storable (row : EvidenceRecordRow) : Prop :=
  VarcharColumn 24 row.evidenceId ∧ VarcharColumn 500 row.sourceReference ∧
    VarcharColumn 64 row.toolName ∧ (∀ s ∈ row.service, VarcharColumn 128 s) ∧
    TextColumn row.summary ∧ (Json.dict row.content.entries).storable = true

/-- The columns of `rca_reports`. -/
def RcaReportRow.Storable (row : RcaReportRow) : Prop :=
  VarcharColumn 40 row.incidentId ∧ TextColumn row.summary ∧ TextColumn row.uncertainty ∧
    (∀ c ∈ row.rootCause, c.storable = true) ∧
    (Json.list (row.contributingFactors ++ row.findings ++ row.hypotheses ++
      row.timeline)).storable = true ∧
    row.recommendedAction.storable = true ∧ (strs row.unavailableEvidenceSources).storable = true ∧
    row.investigationMetadata.storable = true

instance : DecidablePred InvestigationRow.Storable := fun _ => inferInstanceAs (Decidable (_ ∧ _))

instance : DecidablePred InvestigationStepRow.Storable :=
  fun _ => inferInstanceAs (Decidable (_ ∧ _ ∧ _))

instance : DecidablePred EvidenceRecordRow.Storable :=
  fun _ => inferInstanceAs (Decidable (_ ∧ _ ∧ _ ∧ _ ∧ _ ∧ _))

instance : DecidablePred RcaReportRow.Storable :=
  fun _ => inferInstanceAs (Decidable (_ ∧ _ ∧ _ ∧ _ ∧ _ ∧ _ ∧ _ ∧ _))

/-- Insert rows, which a unique key of the table or a column may refuse. -/
def insertRows {α κ : Type} [DecidableEq κ] (key : α → κ) (P : α → Prop) [DecidablePred P]
    (table : List α) : List α → Option (List α)
  | [] => some table
  | row :: rows =>
    if key row ∉ table.map key ∧ P row then insertRows key P (table ++ [row]) rows else none

/-- Rows are inserted when no key is repeated and every column takes its value. -/
lemma insertRows_eq_some {α κ : Type} [DecidableEq κ] {key : α → κ} {P : α → Prop}
    [DecidablePred P] {table rows table' : List α} :
    insertRows key P table rows = some table' ↔
      table' = table ++ rows ∧ (rows.map key).Nodup ∧ (∀ row ∈ rows, key row ∉ table.map key) ∧
        ∀ row ∈ rows, P row := by
  induction rows generalizing table with
  | nil => simp [insertRows, eq_comm]
  | cons row rows ih =>
    unfold insertRows
    split
    · rename_i fine
      rw [ih]
      simp only [List.append_assoc, List.cons_append, List.nil_append, List.map_append,
        List.map_cons, List.map_nil, List.mem_append, List.nodup_cons,
        List.mem_cons, forall_eq_or_imp, List.mem_map, not_exists, not_and, not_or]
      constructor
      · rintro ⟨e, nodup, fresh, ok⟩
        refine ⟨e, ⟨?_, nodup⟩, ⟨?_, ?_⟩, fine.2, ok⟩
        · intro x member same
          exact (fresh x member).2.1 same
        · simpa using fine.1
        · intro x member
          exact (fresh x member).1
      · rintro ⟨e, ⟨first, nodup⟩, ⟨_, fresh⟩, _, ok⟩
        refine ⟨e, nodup, ?_, ok⟩
        intro x member
        exact ⟨fresh x member, first x member, List.not_mem_nil⟩
    · rename_i refused
      simp only [reduceCtorEq, false_iff, not_and]
      intro _ _ fresh ok
      exact absurd ⟨fresh row (by simp), ok row (by simp)⟩ refused

namespace InvestigationDatabase

variable (iso : IsoFormat) (db : InvestigationDatabase)

/-- `status IN (…)`: the predicate of the unique index and of the queries for active rows. -/
def activeStatuses : List String :=
  ((StrEnum.members : List InvestigationStatus).filter fun s => !s.isTerminal).map str

/-- The newest of the rows, the first of several with the same time. -/
def newest : List InvestigationRow → Option InvestigationRow
  | [] => none
  | row :: rows =>
    match newest rows with
    | none => some row
    | some later => if row.createdAt < later.createdAt then some later else some row

/-- The rows of an incident. -/
def ofIncident (incidentId : String) : List InvestigationRow :=
  db.investigations.values.filter fun row => decide (row.incidentId = incidentId)

/-- The active rows of an incident. -/
def activeOf (incidentId : String) : List InvestigationRow :=
  (db.ofIncident incidentId).filter fun row => decide (row.status ∈ activeStatuses)

/-- A row that was read, or the refusal of its values. -/
def loaded {α : Type} (x : Option α) : Except RepositoryError α := x.elim (.error .validation) .ok

/-- `get_active_investigation`. -/
def getActiveInvestigation (incidentId : String) : Except RepositoryError (Option Investigation) :=
  loaded ((newest (db.activeOf incidentId)).mapM rowToInvestigation)

/-- `get_latest_investigation`. -/
def getLatestInvestigation (incidentId : String) : Except RepositoryError (Option Investigation) :=
  loaded ((newest (db.ofIncident incidentId)).mapM rowToInvestigation)

/-- The row of a new investigation. -/
def newRow (id incidentId : String) (trigger : InvestigationTrigger) (mode : String)
    (now : Instant) : InvestigationRow where
  id := id
  incidentId := incidentId
  status := str InvestigationStatus.pending
  trigger := str trigger
  mode := mode
  overallConfidence := str Confidence.unknown
  startedAt := some now
  createdAt := now
  updatedAt := now

/-- `begin_investigation`: the primary key and the partial unique index guard the insert. -/
def beginInvestigation (incidentId : String) (trigger : InvestigationTrigger) (mode id : String)
    (now : Instant) : Except RepositoryError (Investigation × InvestigationDatabase) :=
  if (db.investigations.get? id).isSome = true ∨ db.activeOf incidentId ≠ [] then
    .error (.duplicateActive incidentId)
  else
    let row := newRow id incidentId trigger mode now
    match rowToInvestigation row with
    | none => .error .validation
    | some inv => .ok (inv, { db with investigations := db.investigations.set id row })

/-- The row of an investigation with its outcome. -/
def completedRow (row : InvestigationRow) (c : Completion) (now : Instant) : InvestigationRow :=
  { row with
    status := str c.status
    terminationReason := some c.terminationReason
    overallConfidence := str c.overallConfidence
    model := c.model
    toolCallCount := toolCalls c.steps
    stepCount := c.steps.length
    evidenceCount := c.evidence.length
    completedAt := some now
    updatedAt := now }

/-- The inserts of a completion. -/
def insertOutcome (id : String) (c : Completion) : Option InvestigationDatabase := do
  let steps ← insertRows (fun r => (r.investigationId, r.seq)) InvestigationStepRow.Storable
    db.steps (c.steps.map (stepToRow id))
  let evidence ← insertRows (fun r => (r.investigationId, r.evidenceId)) EvidenceRecordRow.Storable
    db.evidence (c.evidence.map (evidenceToRow id))
  let reports ← insertRows RcaReportRow.investigationId RcaReportRow.Storable db.reports
    (c.report.map (reportToRow iso id)).toList
  some { db with steps := steps, evidence := evidence, reports := reports }

/-- `complete_investigation`. -/
def completeInvestigation (id : String) (c : Completion) (now : Instant) :
    Except RepositoryError (Investigation × InvestigationDatabase) :=
  match db.investigations.get? id with
  | none => .error (.lookup id)
  | some row =>
    let row := completedRow row c now
    if row.Storable then
      match db.insertOutcome iso id c with
      | none => .error .storage
      | some db =>
        match rowToInvestigation row with
        | none => .error .validation
        | some inv => .ok (inv, { db with investigations := db.investigations.set id row })
    else .error .storage

/-- `_load_evidence`: in the order of the collection times, then of the ids. -/
def loadEvidence (id : String) : Option (List Evidence) :=
  ((db.evidence.filter fun r => decide (r.investigationId = id)).insertionSort
    fun r r' => r.collectedAt ≤ r'.collectedAt).mapM rowToEvidence

/-- `get_report`. -/
def getReport (id : String) : Except RepositoryError (Option RCAReport) :=
  match db.reports.find? fun r => decide (r.investigationId = id) with
  | none => .ok none
  | some row => loaded (do
      let evidence ← db.loadEvidence id
      let report ← rowToReport iso row evidence
      some (some report))

end InvestigationDatabase

end SentinelOps.Rca
