import SentinelOps.Lib.Fallible
import SentinelOps.Rca.Mock
import SentinelOps.Rca.ReportSoundness
import SentinelOps.Rca.Termination

/-!
# Investigations with the mock reasoner

The graph validates what any client says; with the mock client the validation never finds anything.
`MockSound` is what every state of such an investigation satisfies: no repair, a valid draft, and a
root cause only for a supported hypothesis that nothing contradicts, with two windows over their
threshold. So the report that is persisted is validated and its root cause is backed.
-/

namespace SentinelOps.Rca

open MockLlmClient

variable {β : Type} {deps : GraphDeps β} {env : NodeEnv β} {fromisoformat : String → Option Instant}

/-- A root cause of the mock: the statement and the evidence of a hypothesis that was found supported
and that nothing contradicts, where at least two collected anomalies exceed their threshold. -/
structure Backed (r : RCAReport) (cause : RootCause) : Prop where
  completed : r.status = .completed
  strong : 2 ≤ (strongAnomalies (byType r.evidence .anomaly)).length
  hypothesis : ∃ h ∈ r.hypotheses, h.verdict = .supported ∧ h.contradictingEvidenceIds = [] ∧
    cause.statement = h.statement ∧ cause.evidenceIds = h.supportingEvidenceIds
  cited : cause.evidenceIds ≠ []
  collected : ∀ i ∈ cause.evidenceIds, i ∈ evidenceIds r.evidence
  confidence : cause.confidence = .medium ∧ r.overallConfidence = .medium

/-- What is accepted is what was given. -/
lemma accept_ok {α : Type} {fits : Prop} [Decidable fits] {a b : α}
    (h : accept fits a = .ok b) : a = b := by
  unfold accept at h
  split at h
  · exact Except.ok.inj h
  · cases h

/-- The mock always states its uncertainty. -/
lemma stated_of_mock {errors primary} : Py.strip (uncertainty errors primary) ≠ "" := by
  unfold uncertainty
  rw [String.append_assoc, String.append_assoc, String.append_assoc]
  exact strip_append_ne (c := 'P') rfl (by decide)

/-- What the mock synthesizes: no root cause, or a supported hypothesis as the cause. -/
lemma synthesize_cases {request : SynthesizeRequest} {s : SynthesisResult}
    (h : MockLlmClient.synthesize fromisoformat request = .ok s) :
    Py.strip s.uncertainty ≠ "" ∧
      (s.rootCause = none ∨ ∃ hyp ∈ supportedOf request.hypotheses,
        ∃ service severity signals contributing timeline,
          2 ≤ (strongAnomalies (byType request.evidence .anomaly)).length ∧
          s = concluded service severity request.repairErrors hyp
            (strongAnomalies (byType request.evidence .anomaly)).length signals contributing
            timeline) := by
  unfold MockLlmClient.synthesize at h
  obtain ⟨signals, _, h⟩ := Except.bind_eq_ok.mp h
  obtain ⟨timeline, _, h⟩ := Except.bind_eq_ok.mp h
  obtain ⟨contributing, _, h⟩ := Except.bind_eq_ok.mp h
  have same := accept_ok h
  split at same
  · rw [← same]
    exact ⟨stated_of_mock, .inl rfl⟩
  · split at same
    · rename_i hyp rest supported strong
      rw [← same]
      refine ⟨stated_of_mock, .inr ⟨hyp, ?_, _, _, _, _, _, of_decide_eq_true strong, rfl⟩⟩
      rw [supported]
      exact List.mem_cons_self
    · rw [← same]
      exact ⟨stated_of_mock, .inl rfl⟩

/-- A hypothesis that the mock finds supported has nothing against it. -/
lemma verdictOf_supported {ph : ProposedHypothesis} (h : verdictOf ph = .supported) :
    ph.contradictingEvidenceIds = [] := by
  unfold verdictOf at h
  dsimp only at h
  split at h
  · cases h
  · split at h
    · cases h
    · split at h
      · rename_i clear
        exact List.length_eq_zero_iff.mp clear.2
      · cases h

/-- The verdict of the mock on a hypothesis is found under its index. -/
lemma find_verdicts {proposed : List ProposedHypothesis} {i : ℕ} (lt : i < proposed.length) :
    ∃ v, (verdicts proposed).reverse.find? (fun v => decide (v.index = i)) = some v ∧
      v.verdict = verdictOf proposed[i] := by
  have there : (⟨i, verdictOf proposed[i], toString proposed[i].supportingEvidenceIds.length ++
      " supporting, " ++ toString proposed[i].contradictingEvidenceIds.length ++
      " contradicting evidence item(s)."⟩ : HypothesisVerdictItem) ∈ (verdicts proposed).reverse := by
    rw [List.mem_reverse]
    exact List.mem_mapIdx.mpr ⟨i, lt, rfl⟩
  cases found : (verdicts proposed).reverse.find? (fun v => decide (v.index = i)) with
  | none =>
    have no := List.find?_eq_none.mp found _ there
    exact absurd (decide_eq_true rfl) no
  | some v =>
    refine ⟨v, rfl, ?_⟩
    have index : v.index = i := by simpa using List.find?_some found
    obtain ⟨j, lt', rfl⟩ := List.mem_mapIdx.mp (List.mem_reverse.mp (List.mem_of_find?_eq_some found))
    cases index
    rfl

/-- A hypothesis that was verified by the mock and found supported cites nothing against itself. -/
lemma judgeAll_supported {known proposed} {h : Hypothesis}
    (mem : h ∈ judgeAll (verdicts proposed) known proposed) (supported : h.verdict = .supported) :
    h.contradictingEvidenceIds = [] := by
  obtain ⟨i, lt, rfl⟩ := List.mem_mapIdx.mp mem
  obtain ⟨v, found, verdict⟩ := find_verdicts lt
  unfold judge at supported
  dsimp only at supported
  rw [found, Option.elim_some, verdict] at supported
  show keepIds proposed[i].contradictingEvidenceIds known = []
  rw [verdictOf_supported supported]
  rfl

/-- A report of grounded hypotheses that states its uncertainty is valid. -/
lemma buildRcaReport_valid {m incident evidence proposedFindings hypotheses}
    {synthesis : SynthesisResult} (stated : Py.strip synthesis.uncertainty ≠ "")
    (grounded : ∀ h ∈ hypotheses, Hypothesis.Grounded (evidenceIds evidence) h) :
    validateReport (buildRcaReport deps env m incident evidence proposedFindings hypotheses
      synthesis) (evidenceIds evidence) = .ok () := by
  have findings : Assembled (evidenceIds evidence)
      (proposedFindings ++ synthesis.contributingFactors)
      ((buildRcaReport deps env m incident evidence proposedFindings hypotheses synthesis).findings,
        (buildRcaReport deps env m incident evidence proposedFindings hypotheses
          synthesis).contributingFactors) := assembled
  rw [validateReport_eq_ok, validateEvidenceReferences_eq_nil]
  constructor
  · intro i cited
    unfold referencedEvidenceIds at cited
    simp only [List.mem_append, List.mem_flatMap] at cited
    obtain (((⟨f, mem, cited⟩ | ⟨h, mem, cited⟩) | ⟨t, mem, cited⟩) | cited) | cited := cited
    · exact (findings.supported f mem).collected i cited
    · exact grounded h mem i (List.mem_append.mpr cited)
    · obtain ⟨entry, -, rfl⟩ := List.mem_map.mp mem
      exact mem_keepIds cited
    · exact mem_keepIds cited
    · cases found : buildRootCause synthesis (evidenceIds evidence) with
      | none =>
        have none_found : (buildRcaReport deps env m incident evidence proposedFindings hypotheses
          synthesis).rootCause = none := found
        rw [none_found] at cited
        cases cited
      | some cause =>
        have some_found : (buildRcaReport deps env m incident evidence proposedFindings hypotheses
          synthesis).rootCause = some cause := found
        rw [some_found] at cited
        exact (buildRootCause_some found).collected i cited
  · refine validateConsistency_of_supported ?_ clampConfidence_le findings.supported
      findings.factors (stated_uncertainty (.inr stated)) rfl
    intro cause found
    have kept := buildRootCause_some found
    exact ⟨if_pos kept.concluded, kept.cited⟩

/-- The root cause of a report that the mock synthesized is backed. -/
lemma buildRcaReport_backed {m : Meters} {state : InvestigationState} {synthesis : SynthesisResult}
    (answered : MockLlmClient.synthesize fromisoformat (synthesizeRequest deps state) =
      .ok synthesis)
    (grounded : ∀ h ∈ state.hypotheses, h.Grounded (evidenceIds state.evidence))
    (clear : ∀ h ∈ state.hypotheses, h.verdict = .supported → h.contradictingEvidenceIds = [])
    {cause : RootCause} (found : (buildRcaReport deps env m state.incident state.evidence
      state.proposedFindings state.hypotheses synthesis).rootCause = some cause) :
    Backed (buildRcaReport deps env m state.incident state.evidence state.proposedFindings
      state.hypotheses synthesis) cause := by
  have kept : buildRootCause synthesis (evidenceIds state.evidence) = some cause := found
  have overall : (buildRcaReport deps env m state.incident state.evidence state.proposedFindings
      state.hypotheses synthesis).overallConfidence = clampConfidence synthesis.overallConfidence
        (buildRcaReport deps env m state.incident state.evidence state.proposedFindings
          state.hypotheses synthesis).rootCause := rfl
  obtain ⟨-, none_given | ⟨hyp, mem, service, severity, signals, contributing, timeline, strong,
    rfl⟩⟩ := synthesize_cases answered
  · obtain ⟨p, given, -⟩ := (buildRootCause_some kept).proposed
    rw [none_given] at given
    cases given
  · obtain ⟨inState, verdict⟩ := List.mem_filter.mp mem
    have supported : hyp.verdict = .supported :=
      of_decide_eq_true (Bool.and_eq_true_iff.mp verdict).1
    have all : keepIds hyp.supportingEvidenceIds (evidenceIds state.evidence) =
        hyp.supportingEvidenceIds := by
      refine List.filter_eq_self.mpr fun i cited => decide_eq_true ?_
      exact grounded hyp inState i (List.mem_append_left _ cited)
    have facts := buildRootCause_some kept
    unfold buildRootCause concluded at kept
    dsimp only at kept
    rw [all] at kept
    split at kept
    · cases kept
    · cases kept
      exact
        { completed := rfl
          strong := strong
          hypothesis := ⟨hyp, inState, supported, clear hyp inState supported, rfl, rfl⟩
          cited := facts.cited
          collected := facts.collected
          confidence := ⟨rfl, overall.trans (by rw [found]; rfl)⟩ }

/-- The states of an investigation with the mock reasoner. -/
structure MockSound (e : Engine) : Prop where
  reported : Reported e
  clear : ∀ h ∈ e.state.hypotheses, h.verdict = .supported → h.contradictingEvidenceIds = []
  unrepaired : e.state.repairCount = 0
  sound : Sound e
  draft : ∀ r ∈ e.state.rca, validateReport r (evidenceIds e.state.evidence) = .ok () ∧
    ∀ cause ∈ r.rootCause, Backed r cause

/-- A new investigation. -/
lemma mockSound_start : MockSound (start deps) where
  reported := reported_start
  clear _ mem := by cases mem
  unrepaired := rfl
  sound finish := by cases finish
  draft _ present := by cases present

/-- Every node keeps an investigation with the mock reasoner sound. -/
lemma MockSound.step {e e' : Engine} (h : MockSound e) (mock : env.llm = mockClient fromisoformat)
    (st : (investigation deps).step e env = some e') : MockSound e' := by
  have reported := h.reported.step st
  have completes : RepairCompletes deps e env := by
    intro _ repairing
    rw [h.unrepaired] at repairing
    cases repairing
  have sound := (sound_step h.reported st).mpr completes
  obtain ⟨node, standing, rfl⟩ := investigation_step st
  have effect : Effect deps env e.meters e.state node
    (runNode deps env e.meters e.state node) := effect_of_run
  generalize runNode deps env e.meters e.state node = r at effect reported sound
  -- a draft is there only when it is to be validated
  have no_draft (before : node ≠ .validate) : e.state.rca = none := by
    by_cases here : node = .synthesize
    · subst here
      exact (h.reported.first standing).mpr h.unrepaired
    · refine h.reported.early node standing ?_
      simp [here, before]
  -- what a node leaves of the hypotheses, the repair count and the draft
  have kept {u : Update} {m}
      (clear : ∀ hs, u.hypotheses = some hs →
        ∀ hyp ∈ hs, hyp.verdict = .supported → hyp.contradictingEvidenceIds = [])
      (no_repair : ∀ n, u.repairCount = some n → n = 0)
      (draft : ∀ r ∈ (e.state.merge u).rca,
        validateReport r (evidenceIds (e.state.merge u).evidence) = .ok () ∧
          ∀ cause ∈ r.rootCause, Backed r cause)
      (reported : Reported (e.after node (.ok u, m))) (sound : Sound (e.after node (.ok u, m))) :
      MockSound (e.after node (.ok u, m)) := by
    refine ⟨reported, ?_, ?_, sound, draft⟩
    · show ∀ hyp ∈ u.hypotheses.getD e.state.hypotheses, _
      cases new : u.hypotheses with
      | none => exact h.clear
      | some hs => exact clear hs new
    · show u.repairCount.getD e.state.repairCount = 0
      cases new : u.repairCount with
      | none => exact h.unrepaired
      | some n => exact no_repair n new
  have without {u : Update} (none_new : u.rca = none) (before : node ≠ .validate) :
      ∀ r ∈ (e.state.merge u).rca,
        validateReport r (evidenceIds (e.state.merge u).evidence) = .ok () ∧
          ∀ cause ∈ r.rootCause, Backed r cause := by
    intro r present
    obtain new | ⟨-, old⟩ := merge_rca.mp present
    · rw [none_new] at new
      cases new
    · rw [no_draft before] at old
      cases old
  have left {x m} (reported : Reported (e.after node (.error x, m)))
      (sound : Sound (e.after node (.error x, m))) : MockSound (e.after node (.error x, m)) :=
    ⟨reported, h.clear, h.unrepaired, sound, h.draft⟩
  have refused {exc m} (before : node ≠ .validate)
      (reported : Reported (e.after node (llmTerminal exc, m)))
      (sound : Sound (e.after node (llmTerminal exc, m))) :
      MockSound (e.after node (llmTerminal exc, m)) := by
    obtain ⟨status, reason, _, same⟩ | ⟨name, same⟩ := llmTerminal_cases exc
    · rw [same] at reported sound ⊢
      exact kept (fun _ new => by cases new) (fun _ new => by cases new) (without rfl before) reported
        sound
    · rw [same] at reported sound ⊢
      exact left reported sound
  cases effect with
  | timedOut exceeded reachable =>
    have before : node ≠ .validate := by
      rintro rfl
      exact reachable rfl
    exact kept (fun _ new => by cases new) (fun _ new => by cases new) (without rfl before) reported
      sound
  | degraded exceeded counting there =>
    have before : node ≠ .validate := by
      rintro rfl
      cases there
    exact kept (fun _ new => by cases new) (fun _ new => by cases new) (without rfl before) reported
      sound
  | invalidId | verifyInvalid | synthesizeInvalid | validateInvalid => exact left reported sound
  | planRefused | analyzeRefused | verifyRefused | synthesizeRefused =>
    exact refused (by decide) reported sound
  | notLoaded | loadFailed | hopeless | planned | collectEmpty | collectTimedOut | collectStopped
  | collected | analyzed =>
    exact kept (fun _ new => by cases new) (fun _ new => by cases new) (without rfl (by decide))
      reported sound
  | loaded =>
    refine kept (fun _ new => by cases new) (fun _ new => ?_) (without rfl (by decide)) reported
      sound
    exact (Option.some.inj new).symm
  | verified within answered | inconclusive within answered =>
    refine kept (fun hs new => ?_) (fun _ new => by cases new) (without rfl (by decide)) reported
      sound
    rw [mock] at answered
    cases Option.some.inj new
    cases Except.ok.inj answered
    exact fun hyp mem => judgeAll_supported mem
  | synthesized within answered =>
    refine kept (fun _ new => by cases new) (fun _ new => by cases new) ?_ reported sound
    intro r present
    obtain new | ⟨none_new, -⟩ := merge_rca.mp present
    · rw [mock] at answered
      cases Option.some.inj new
      have same : (e.state.evidence ++ [] : List Evidence) = e.state.evidence := List.append_nil _
      rw [merge_evidence, same]
      exact ⟨buildRcaReport_valid (synthesize_cases answered).1 h.reported.grounded,
        fun cause found => buildRcaReport_backed answered h.reported.grounded h.clear found⟩
    · cases none_new
  | fallbackInvalid rejected same calls =>
    rw [buildFallbackReport_valid h.reported.grounded] at rejected
    cases rejected
  | fallback cause passed =>
    refine kept (fun _ new => by cases new) (fun _ new => by cases new) ?_ reported sound
    intro r present
    obtain new | ⟨none_new, -⟩ := merge_rca.mp present
    · cases Option.some.inj new
      have same : (e.state.evidence ++ [] : List Evidence) = e.state.evidence := List.append_nil _
      rw [merge_evidence, terminal_evidence, same]
      exact ⟨passed, fun cause found => by cases found⟩
    · cases none_new
  | repair present rejected once =>
    rw [(h.draft _ present).1] at rejected
    cases rejected
  | accepted present passed =>
    refine kept (fun _ new => by cases new) (fun _ new => by cases new) ?_ reported sound
    intro r present'
    obtain new | ⟨-, old⟩ := merge_rca.mp present'
    · cases new
    · have same : (e.state.evidence ++ [] : List Evidence) = e.state.evidence := List.append_nil _
      rw [merge_evidence, terminal_evidence, same]
      exact h.draft r old

/-- A run with the mock reasoner. -/
lemma mockSound_of_run {envs : ℕ → NodeEnv β} (mock : ∀ n, (envs n).llm = mockClient fromisoformat)
    {n e} (r : (investigation deps).Run (start deps) ((List.range n).map envs) e) : MockSound e := by
  have all : ∀ env ∈ (List.range n).map envs, env.llm = mockClient fromisoformat := by
    intro env mem
    obtain ⟨k, -, rfl⟩ := List.mem_map.mp mem
    exact mock k
  clear mock
  generalize (List.range n).map envs = labels at r all
  suffices from_any : ∀ s, MockSound s → (investigation deps).Run s labels e → MockSound e from
    from_any _ mockSound_start r
  clear r
  intro s sound r
  induction r with
  | nil => exact sound
  | cons st _ ih =>
    obtain ⟨first, rest⟩ := List.forall_mem_cons.mp all
    exact ih rest (sound.step first st)

/-- Whatever the incident, the tools, the limits and the clock are, an investigation with the mock
reasoner never asks for a repair, and what is persisted is a validated report of an analysis that
came to a conclusion, or no report. -/
theorem mock_never_repairs (deps : GraphDeps β) (envs : ℕ → NodeEnv β)
    (fromisoformat : String → Option Instant)
    (mock : ∀ n, (envs n).llm = mockClient fromisoformat) :
    (∀ n e, (investigation deps).Run (start deps) ((List.range n).map envs) e →
      e.state.repairCount = 0) ∧ PersistsOnlyValidated (runToCompletion deps envs) := by
  refine ⟨fun n e r => (mockSound_of_run mock r).unrepaired, ?_⟩
  obtain ⟨n, e, r, finish, same⟩ := runToCompletion_run deps envs
  have sound := mockSound_of_run mock r
  rw [same, persists_iff_sound sound.reported.staged finish]
  exact sound.sound

/-- The root cause of a persisted report of the mock reasoner is backed: it is a hypothesis that was
found supported, nothing that was collected contradicts it, its evidence was collected, and at least
two of the collected anomalies exceed their threshold. -/
theorem mock_root_cause_backed (deps : GraphDeps β) (envs : ℕ → NodeEnv β)
    (fromisoformat : String → Option Instant)
    (mock : ∀ n, (envs n).llm = mockClient fromisoformat) (report : RCAReport)
    (persisted : report ∈ (runToCompletion deps envs).report) (cause : RootCause)
    (stated : cause ∈ report.rootCause) : Backed report cause := by
  obtain ⟨n, e, r, finish, same⟩ := runToCompletion_run deps envs
  have sound := mockSound_of_run mock r
  have there : report ∈ e.state.rca := by
    rw [same] at persisted
    unfold Engine.invocation at persisted
    match position : e.position with
    | .running node => exact absurd position (finish node)
    | .ended =>
      rw [position] at persisted
      exact persisted
    | .raised escaped =>
      rw [position] at persisted
      cases persisted
  exact (sound.draft report there).2 cause stated

/-- An anomaly window over its threshold. -/
def strongWindow (id : String) : AnomalyEvidenceItem where
  eventId := id
  detector := "isolation_forest"
  anomalyScore := .fin (9 / 10)
  threshold := .fin (1 / 2)
  windowStart := 0
  abnormalSignals := ["error_rate"]
  dump := object [("detector", .str "isolation_forest"), ("anomaly_score", .float (.fin (9 / 10))),
    ("threshold", .float (.fin (1 / 2))), ("abnormal_signals", .list [.str "error_rate"])]

/-- Sources with two such windows, and the mock reasoner. -/
def mockEnv : NodeEnv SourceAnswers :=
  { sampleEnv (mockClient fun _ => none) with
    answers := fun _ =>
      { sampleAnswers with
        getIncidentEvidence := fun _ => .ok [strongWindow "evt-1", strongWindow "evt-2"] } }

/-- An investigation of two windows is never repaired. -/
theorem mock_never_repairs_two :
    PersistsOnlyValidated (runToCompletion (sampleDeps {}) fun _ => mockEnv) :=
  (mock_never_repairs (sampleDeps {}) (fun _ => mockEnv) _ fun _ => rfl).2

/-- The error rate is the root cause, with both windows as its evidence. -/
theorem mock_root_cause_backed_two : ∃ report cause,
    report ∈ (runToCompletion (sampleDeps {}) fun _ => mockEnv).report ∧
      cause ∈ report.rootCause ∧ Backed report cause := by
  have found : (((runToCompletion (sampleDeps {}) fun _ => mockEnv).report).bind
      (·.rootCause)).isSome = true := by decide +kernel
  obtain ⟨cause, found⟩ := Option.isSome_iff_exists.mp found
  obtain ⟨report, persisted, stated⟩ := Option.bind_eq_some_iff.mp found
  exact ⟨report, cause, persisted, stated, mock_root_cause_backed (sampleDeps {}) (fun _ => mockEnv)
    _ (fun _ => rfl) report persisted cause stated⟩

end SentinelOps.Rca
