import SentinelOps.Rca.Budget
import SentinelOps.Rca.SqlRepository

/-!
# Reading back a report

The in-memory repository returns the report it was handed. The SQL repository spreads it over its
tables and builds it again from them: the severity has no column, and the affected services are
computed again from the evidence, so what the report took from the incident is lost.
-/

namespace SentinelOps.Rca

variable {iso : IsoFormat} {id : String}

/-- The constraints of the models a report is made of. -/
structure RCAReport.Valid (r : RCAReport) : Prop where
  wellFormed : r.WellFormed
  timeline : ∀ t ∈ r.timeline, t.Valid
  findings : ∀ f ∈ r.findings, f.Valid
  hypotheses : ∀ h ∈ r.hypotheses, h.Valid
  rootCause : ∀ c ∈ r.rootCause, c.Valid
  contributingFactors : ∀ f ∈ r.contributingFactors, f.Valid
  recommendedAction : r.recommendedAction.Valid
  evidence : ∀ ev ∈ r.evidence, ev.Valid
  metadata : r.investigationMetadata.Valid

/-- What is left of a report in its rows. -/
def stored (id : String) (r : RCAReport) (evidence : List Evidence) : RCAReport :=
  { r with
    investigationId := id
    severity := none
    affectedServices := evidenceServices evidence
    evidence := evidence }

/-- An evidence item is read back. -/
lemma rowToEvidence_evidenceToRow {ev : Evidence} (valid : ev.Valid) :
    rowToEvidence (evidenceToRow id ev) = some ev := by
  simp [rowToEvidence, evidenceToRow, accepted_of valid]

/-- A report is read back, except for what its row does not have. -/
lemma rowToReport_reportToRow {r : RCAReport} {evidence} (valid : r.Valid) (fits : Fits 40 id) :
    rowToReport iso (reportToRow iso id r) evidence = some (stored id r evidence) := by
  have wellFormed : (stored id r evidence).WellFormed := by
    obtain ⟨status, incidentId, _, summary, _, timeline, findings, rootCause, target, description,
      rationale, uncertainty, reason⟩ := valid.wellFormed
    exact ⟨status, incidentId, fits, summary, nofun, timeline, findings, rootCause, target,
      description, rationale, uncertainty, reason⟩
  have timeline := mapM_of_inverse fun t member =>
    TimelineEntry.modelValidate_dump iso (valid.timeline t member)
  have findings := mapM_of_inverse fun f member =>
    Finding.modelValidate_dump (valid.findings f member)
  have hypotheses := mapM_of_inverse fun h member =>
    Hypothesis.modelValidate_dump (valid.hypotheses h member)
  have factors := mapM_of_inverse fun f member =>
    Finding.modelValidate_dump (valid.contributingFactors f member)
  have cause :
      (r.rootCause.map RootCause.dump).mapM RootCause.modelValidate = some r.rootCause := by
    match present : r.rootCause with
    | none => rfl
    | some c => simp [RootCause.modelValidate_dump (valid.rootCause c present)]
  simp only [rowToReport, reportToRow, timeline, findings, hypotheses, factors, cause,
    RecommendedAction.modelValidate_dump valid.recommendedAction,
    InvestigationMetadata.modelValidate_dump iso valid.metadata, StrEnum.parse_str,
    Option.bind_eq_bind, Option.bind_some]
  exact accepted_of wellFormed

/-- What the tables take of an outcome: no repeated trace number or evidence id, and values that fit
their columns. -/
structure Completion.Storable (iso : IsoFormat) (id : String) (c : Completion) : Prop where
  model : ∀ m ∈ c.model, VarcharColumn 64 m
  reason : TextColumn c.terminationReason
  seqs : (c.steps.map InvestigationStep.seq).Nodup
  steps : ∀ s ∈ c.steps, (stepToRow id s).Storable
  ids : (c.evidence.map Evidence.id).Nodup
  evidence : ∀ ev ∈ c.evidence, (evidenceToRow id ev).Storable
  report : ∀ r ∈ c.report, (reportToRow iso id r).Storable

namespace InvestigationDatabase

variable {db db' : InvestigationDatabase} {c : Completion} {now : Instant}

/-- An investigation that was begun: its row can be read and nothing was stored for it. -/
structure Begun (db : InvestigationDatabase) (id : String) : Prop where
  row : ∃ row inv, db.investigations.get? id = some row ∧ rowToInvestigation row = some inv
  steps : ∀ r ∈ db.steps, r.investigationId ≠ id
  evidence : ∀ r ∈ db.evidence, r.investigationId ≠ id
  reports : ∀ r ∈ db.reports, r.investigationId ≠ id

/-- A row that can be read can be read with its outcome. -/
lemma rowToInvestigation_completedRow {row inv} (readable : rowToInvestigation row = some inv) :
    rowToInvestigation (completedRow row c now) =
      some { inv with
        status := c.status
        terminationReason := some c.terminationReason
        overallConfidence := c.overallConfidence
        model := c.model
        toolCallCount := toolCalls c.steps
        stepCount := c.steps.length
        evidenceCount := c.evidence.length
        completedAt := some now
        updatedAt := now } := by
  unfold rowToInvestigation at readable ⊢
  simp only [Option.bind_eq_bind, Option.bind_eq_some_iff] at readable
  obtain ⟨status, _, trigger, readTrigger, confidence, _, rest⟩ := readable
  split at rest
  · rename_i mode
    cases rest
    simp [completedRow, readTrigger, mode]
  · cases rest

/-- The key of a row of the investigation `id`. -/
lemma nodup_keys {α κ : Type} {f : α → κ} {xs : List α} :
    (xs.map fun x => (id, f x)).Nodup ↔ (xs.map f).Nodup := by
  have same : (xs.map fun x => (id, f x)) = (xs.map f).map (Prod.mk id) := by simp
  rw [same, List.nodup_map_iff (Prod.mk_right_injective id)]

/-- The rows of an outcome are inserted exactly when the tables take them. -/
lemma insertOutcome_eq_some (begun : db.Begun id) :
    db.insertOutcome iso id c = some db' ↔
      ((c.steps.map InvestigationStep.seq).Nodup ∧ (∀ s ∈ c.steps, (stepToRow id s).Storable) ∧
        (c.evidence.map Evidence.id).Nodup ∧
        (∀ ev ∈ c.evidence, (evidenceToRow id ev).Storable) ∧
        ∀ r ∈ c.report, (reportToRow iso id r).Storable) ∧
      { db with
        steps := db.steps ++ c.steps.map (stepToRow id)
        evidence := db.evidence ++ c.evidence.map (evidenceToRow id)
        reports := db.reports ++ (c.report.map (reportToRow iso id)).toList } = db' := by
  have steps (s) (_ : s ∈ c.steps) : ((stepToRow id s).investigationId, (stepToRow id s).seq) ∉
      db.steps.map fun r => (r.investigationId, r.seq) := by
    intro there
    obtain ⟨r, old, same⟩ := List.mem_map.mp there
    exact begun.steps r old (congrArg Prod.fst same)
  have evidence (ev) (_ : ev ∈ c.evidence) :
      ((evidenceToRow id ev).investigationId, (evidenceToRow id ev).evidenceId) ∉
        db.evidence.map fun r => (r.investigationId, r.evidenceId) := by
    intro there
    obtain ⟨r, old, same⟩ := List.mem_map.mp there
    exact begun.evidence r old (congrArg Prod.fst same)
  have reports (r) (_ : c.report = some r) :
      (reportToRow iso id r).investigationId ∉ db.reports.map RcaReportRow.investigationId := by
    intro there
    obtain ⟨r, old, same⟩ := List.mem_map.mp there
    exact begun.reports r old same
  have one :
      ((c.report.map (reportToRow iso id)).toList.map RcaReportRow.investigationId).Nodup := by
    cases c.report <;> simp
  have seqs : ((c.steps.map (stepToRow id)).map fun r => (r.investigationId, r.seq)).Nodup ↔
      (c.steps.map InvestigationStep.seq).Nodup := by
    rw [List.map_map]
    exact nodup_keys (f := InvestigationStep.seq)
  have ids : ((c.evidence.map (evidenceToRow id)).map fun r =>
      (r.investigationId, r.evidenceId)).Nodup ↔ (c.evidence.map Evidence.id).Nodup := by
    rw [List.map_map]
    exact nodup_keys (f := Evidence.id)
  unfold insertOutcome
  simp only [Option.bind_eq_bind, Option.bind_eq_some_iff, insertRows_eq_some, seqs, ids]
  simp only [Option.some.injEq, List.forall_mem_map, Option.mem_toList, Option.mem_def,
    Option.map_eq_some_iff, forall_exists_index, and_imp, forall_apply_eq_imp_iff₂]
  constructor
  · rintro ⟨_, ⟨rfl, seqs, _, stepsOk⟩, _, ⟨rfl, ids, _, evidenceOk⟩, _, ⟨rfl, _, _, reportOk⟩, rfl⟩
    exact ⟨⟨seqs, stepsOk, ids, evidenceOk, reportOk⟩, rfl⟩
  · rintro ⟨⟨seqs, stepsOk, ids, evidenceOk, reportOk⟩, rfl⟩
    exact ⟨_, ⟨rfl, seqs, steps, stepsOk⟩, _, ⟨rfl, ids, evidence, evidenceOk⟩, _,
      ⟨rfl, one, reports, reportOk⟩, rfl⟩

/-- A begun investigation is completed exactly when the tables take its outcome. -/
lemma completeInvestigation_ok (begun : db.Begun id) :
    (∃ inv, db.completeInvestigation iso id c now = .ok (inv, db')) ↔
      c.Storable iso id ∧ ∃ row, db.investigations.get? id = some row ∧
        { investigations := db.investigations.set id (completedRow row c now)
          steps := db.steps ++ c.steps.map (stepToRow id)
          evidence := db.evidence ++ c.evidence.map (evidenceToRow id)
          reports := db.reports ++ (c.report.map (reportToRow iso id)).toList } = db' := by
  obtain ⟨row, inv, present, readable⟩ := begun.row
  have columns : (completedRow row c now).Storable ↔
      (∀ m ∈ c.model, VarcharColumn 64 m) ∧ TextColumn c.terminationReason := by
    simp [InvestigationRow.Storable, completedRow]
  unfold completeInvestigation
  simp only [present, rowToInvestigation_completedRow readable, Option.some.injEq,
    exists_eq_left']
  constructor
  · rintro ⟨inv', done⟩
    split at done
    · rename_i storable
      obtain ⟨model, reason⟩ := columns.mp storable
      split at done
      · cases done
      · rename_i db1 inserted
        cases done
        obtain ⟨⟨seqs, steps, ids, evidence, report⟩, rfl⟩ :=
          (insertOutcome_eq_some begun).mp inserted
        exact ⟨⟨model, reason, seqs, steps, ids, evidence, report⟩, rfl⟩
    · cases done
  · rintro ⟨⟨model, reason, seqs, steps, ids, evidence, report⟩, rfl⟩
    have inserted := (@insertOutcome_eq_some iso id db _ c begun).mpr
      ⟨⟨seqs, steps, ids, evidence, report⟩, rfl⟩
    rw [if_pos (columns.mpr ⟨model, reason⟩), inserted]
    exact ⟨_, rfl⟩

/-- The evidence of a completed investigation is read back in the order of the collection times. -/
lemma loadEvidence_completed (begun : db.Begun id) (valid : ∀ ev ∈ c.evidence, ev.Valid)
    (inOrder : c.evidence.Pairwise fun ev ev' => ev.collectedAt ≤ ev'.collectedAt)
    (rows : db'.evidence = db.evidence ++ c.evidence.map (evidenceToRow id)) :
    db'.loadEvidence id = some c.evidence := by
  have others : db.evidence.filter (fun r => decide (r.investigationId = id)) = [] := by
    rw [List.filter_eq_nil_iff]
    intro r member
    simpa using begun.evidence r member
  have own : (c.evidence.map (evidenceToRow id)).filter
      (fun r => decide (r.investigationId = id)) = c.evidence.map (evidenceToRow id) := by
    rw [List.filter_eq_self]
    intro r member
    obtain ⟨ev, _, rfl⟩ := List.mem_map.mp member
    simp [evidenceToRow]
  have sorted : (c.evidence.map (evidenceToRow id)).Pairwise
      fun r r' => r.collectedAt ≤ r'.collectedAt := List.pairwise_map.mpr inOrder
  unfold loadEvidence
  rw [rows, List.filter_append, others, own, List.nil_append, sorted.insertionSort_eq]
  exact mapM_of_inverse fun ev member => rowToEvidence_evidenceToRow (valid ev member)

/-- The report of a completed investigation is read back, except for what its row does not have. -/
lemma getReport_completed {r : RCAReport} {inv} (begun : db.Begun id) (fits : Fits 40 id)
    (report : c.report = some r) (valid : r.Valid) (same : c.evidence = r.evidence)
    (inOrder : r.evidence.Pairwise fun ev ev' => ev.collectedAt ≤ ev'.collectedAt)
    (done : db.completeInvestigation iso id c now = .ok (inv, db')) :
    db'.getReport iso id = .ok (some (stored id r r.evidence)) := by
  obtain ⟨_, row, _, made⟩ := (completeInvestigation_ok begun).mp ⟨inv, done⟩
  have evidence : db'.loadEvidence id = some r.evidence := by
    rw [← same] at inOrder ⊢
    refine loadEvidence_completed begun ?_ inOrder ?_
    · rw [same]
      exact valid.evidence
    · rw [← made]
  have rows : db'.reports = db.reports ++ [reportToRow iso id r] := by
    rw [← made, report]
    rfl
  have none_before : db.reports.find? (fun r => decide (r.investigationId = id)) = none := by
    rw [List.find?_eq_none]
    intro r member
    simpa using begun.reports r member
  have found : db'.reports.find? (fun r => decide (r.investigationId = id)) =
      some (reportToRow iso id r) := by
    rw [rows, List.find?_append, none_before]
    simp [reportToRow]
  unfold getReport
  simp only [found, evidence, rowToReport_reportToRow valid fits, loaded, Option.bind_eq_bind,
    Option.bind_some, Option.elim_some]

end InvestigationDatabase

/-- A text form of timestamps, at the epoch that of the validation library. -/
def sampleIso : IsoFormat where
  format t := if t = 0 then "1970-01-01T00:00:00Z" else
    String.ofList ((if 0 < t then '+' else '-') :: List.replicate t.natAbs '0')
  parse s := if s = "1970-01-01T00:00:00Z" then some 0 else
    match s.toList with
    | '+' :: digits => some digits.length
    | '-' :: digits => some (-digits.length)
    | _ => none
  parse_format t := by
    by_cases zero : t = 0
    · simp [zero]
    · have other (c : Char) (h : c ≠ '1') (n : Nat) :
          String.ofList (c :: List.replicate n '0') ≠ "1970-01-01T00:00:00Z" := by
        intro e
        have heads := congrArg (fun s => s.toList.head?) e
        simp only [String.toList_ofList, List.head?_cons] at heads
        exact h (Option.some.inj heads)
      rcases lt_or_gt_of_ne zero with negative | positive
      · simp only [zero, if_false, not_lt.mpr negative.le, other '-' (by decide),
          String.toList_ofList]
        show some (-((List.replicate t.natAbs '0').length : Int)) = some t
        rw [List.length_replicate, Int.ofNat_natAbs_of_nonpos negative.le, neg_neg]
      · simp only [zero, if_false, positive, if_true, other '+' (by decide),
          String.toList_ofList]
        show some ((List.replicate t.natAbs '0').length : Int) = some t
        rw [List.length_replicate, Int.natAbs_of_nonneg positive.le]

/-- A database in which the sample investigation was begun. -/
def sampleDatabase : InvestigationDatabase where
  investigations := Dict.empty.set "rca_1"
    (InvestigationDatabase.newRow "rca_1" "inc_0a1b2c" .event "live" 0)

/-- The store in which it was begun. -/
def sampleStore : InvestigationStore where
  investigations := Dict.empty.set "rca_1" (newInvestigation "rca_1" "inc_0a1b2c" .event "live" 0)
  order := ["rca_1"]

/-- What the sample investigation ends with. -/
def sampleOutcome : Completion :=
  runToCompletion (sampleDeps .default) fun _ => sampleEnv sampleReplies

/-- Reading back a report returns it exactly when the tables take the outcome and the report has
neither a severity nor a service that its evidence does not name. -/
theorem report_read_back_iff {iso : IsoFormat} {id : String} {db : InvestigationDatabase}
    {store : InvestigationStore} {c : Completion} {r : RCAReport} {now}
    (begun : db.Begun id) (known : (store.investigations.get? id).isSome = true)
    (report : c.report = some r) (evidence : c.evidence = r.evidence) (valid : r.Valid)
    (identity : r.investigationId = id)
    (inOrder : r.evidence.Pairwise fun ev ev' => ev.collectedAt ≤ ev'.collectedAt) :
    ((∃ inv store', store.completeInvestigation id c now = .ok (inv, store') ∧
        store'.getReport id = some r) ∧
      ∃ inv db', db.completeInvestigation iso id c now = .ok (inv, db') ∧
        db'.getReport iso id = .ok (some r)) ↔
      c.Storable iso id ∧ r.severity = none ∧ r.affectedServices = evidenceServices r.evidence := by
  have fits : Fits 40 id := identity ▸ valid.wellFormed.investigationId
  have kept : stored id r r.evidence = r ↔
      r.severity = none ∧ r.affectedServices = evidenceServices r.evidence := by
    obtain ⟨⟩ := r
    simp only at identity
    simp [stored, identity, eq_comm]
  have handed : ∃ inv store', store.completeInvestigation id c now = .ok (inv, store') ∧
      store'.getReport id = some r := by
    obtain ⟨prior, present⟩ := Option.isSome_iff_exists.mp known
    have done : ∃ inv store', store.completeInvestigation id c now = .ok (inv, store') := by
      unfold InvestigationStore.completeInvestigation
      rw [present]
      exact ⟨_, _, rfl⟩
    obtain ⟨inv, store', done⟩ := done
    exact ⟨inv, store', done, InvestigationStore.getReport_completed report done⟩
  constructor
  · rintro ⟨_, inv, db', done, back⟩
    have storable := ((InvestigationDatabase.completeInvestigation_ok begun).mp ⟨inv, done⟩).1
    rw [InvestigationDatabase.getReport_completed begun fits report valid evidence inOrder done]
      at back
    exact ⟨storable, kept.mp (Option.some.inj (Except.ok.inj back))⟩
  · rintro ⟨storable, same⟩
    refine ⟨handed, ?_⟩
    obtain ⟨row, _, present, _⟩ := begun.row
    obtain ⟨inv, done⟩ := (InvestigationDatabase.completeInvestigation_ok begun).mpr
      ⟨storable, row, present, rfl⟩
    refine ⟨inv, _, done, ?_⟩
    rw [InvestigationDatabase.getReport_completed begun fits report valid evidence inOrder done,
      kept.mpr same]

/-- The severity of a report is not read back. -/
theorem severity_not_read_back :
    ∃ inv db' r, sampleDatabase.completeInvestigation sampleIso "rca_1" sampleOutcome 0 =
        .ok (inv, db') ∧ sampleOutcome.report = some r ∧
      db'.getReport sampleIso "rca_1" ≠ .ok (some r) := by
  have read : (sampleDatabase.completeInvestigation sampleIso "rca_1" sampleOutcome 0).toOption.map
      (fun x => ((x.2.getReport sampleIso "rca_1").toOption.map fun r => r.map RCAReport.severity,
        sampleOutcome.report.map RCAReport.severity)) =
      some (some (some none), some (some "HIGH")) := by decide +kernel
  match done : sampleDatabase.completeInvestigation sampleIso "rca_1" sampleOutcome 0 with
  | .error e =>
    rw [done] at read
    cases read
  | .ok (inv, db') =>
    rw [done] at read
    obtain ⟨back, severity⟩ := Prod.mk.inj (Option.some.inj read)
    obtain ⟨r, report, high⟩ := Option.map_eq_some_iff.mp severity
    refine ⟨inv, db', r, rfl, report, ?_⟩
    intro same
    rw [same] at back
    have lost : r.severity = none := Option.some.inj (Option.some.inj back)
    cases lost.symm.trans high

/-- A report without a severity. -/
def plainReport : RCAReport where
  incidentId := "inc_0a1b2c"
  investigationId := "rca_1"
  status := .insufficientEvidence
  summary := "No cause was found."
  affectedServices := ["checkout"]
  recommendedAction :=
    { actionType := .monitor, description := "Keep watching.", rationale := "Nothing to do." }
  evidence :=
    [{ id := "ev_001", sourceType := .incident, sourceReference := "incident-api",
       toolName := "get_incident", service := some "checkout", summary := "Incident inc_0a1b2c",
       collectedAt := 0 }]
  uncertainty := "Little evidence."
  investigationMetadata :=
    { mode := "live", startedAt := 0, completedAt := 0, durationSeconds := .fin 0,
      toolCallCount := 1, stepCount := 2, evidenceCount := 1,
      terminationReason := "insufficient_evidence", limits := .default }

/-- Its outcome. -/
def plainOutcome : Completion where
  status := .insufficientEvidence
  terminationReason := "analysis_complete"
  overallConfidence := .unknown
  model := none
  steps := []
  evidence := plainReport.evidence
  report := some plainReport

/-- A report without a severity whose services its evidence names is read back. -/
theorem report_read_back_plain :
    (∃ inv store', sampleStore.completeInvestigation "rca_1" plainOutcome 0 = .ok (inv, store') ∧
        store'.getReport "rca_1" = some plainReport) ∧
      ∃ inv db', sampleDatabase.completeInvestigation sampleIso "rca_1" plainOutcome 0 =
          .ok (inv, db') ∧ db'.getReport sampleIso "rca_1" = .ok (some plainReport) := by
  have begun : sampleDatabase.Begun "rca_1" := by
    constructor
    · exact ⟨_, newInvestigation "rca_1" "inc_0a1b2c" .event "live" 0, rfl, by decide +kernel⟩
    · simp [sampleDatabase]
    · simp [sampleDatabase]
    · simp [sampleDatabase]
  have valid : plainReport.Valid := by
    constructor <;> decide +kernel
  have storable : plainOutcome.Storable sampleIso "rca_1" := by
    constructor <;> decide +kernel
  refine (report_read_back_iff begun ?_ rfl rfl valid rfl ?_).mpr
    ⟨storable, rfl, by decide +kernel⟩
  · decide
  · simp [plainReport]

end SentinelOps.Rca
