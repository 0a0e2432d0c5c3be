import Mathlib.Data.List.TakeWhile
import SentinelOps.Rca.Engine
import SentinelOps.Rca.Validation

/-!
# Deterministic assembly of the report

`buildRcaReport` turns a synthesis of the model into a report: it assigns finding ids, drops every
reference to evidence that was not collected and clamps the confidence. `buildFallbackReport` is the
minimal report that stands in for a rejected one.
-/

namespace SentinelOps.Rca

/-- The ids of the collected evidence. -/
def evidenceIds (evidence : List Evidence) : List String := evidence.map Evidence.id

/-- `_keep_ids`. -/
def keepIds (ids known : List String) : List String := ids.filter (· ∈ known)

/-- `_finding`. -/
def finding (seq : Nat) (pf : ProposedFinding) (known : List String)
    (forceType : Option FindingType) : Finding :=
  let kept := keepIds pf.evidenceIds known
  { id := "fi_" ++ Py.padZeros 3 seq
    type := forceType.getD pf.type
    statement := pf.statement
    evidenceIds := kept
    confidence := if kept.isEmpty then .unknown else pf.confidence }

/-- Sort one proposed finding of the analysis into the findings or the contributing factors. -/
def addFinding (known : List String) (acc : List Finding × List Finding) (pf : ProposedFinding) :
    List Finding × List Finding :=
  let seq := acc.1.length + acc.2.length + 1
  if pf.type = .contributingFactor then
    (acc.1, acc.2 ++ [finding seq pf known (some .contributingFactor)])
  else (acc.1 ++ [finding seq pf known none], acc.2)

/-- Add one contributing factor of the synthesis. -/
def addFactor (known : List String) (acc : List Finding × List Finding) (pf : ProposedFinding) :
    List Finding × List Finding :=
  let seq := acc.1.length + acc.2.length + 1
  (acc.1, acc.2 ++ [finding seq pf known (some .contributingFactor)])

/-- The root cause of a conclusive synthesis, when some of its evidence was collected. -/
def buildRootCause (synthesis : SynthesisResult) (known : List String) : Option RootCause :=
  match synthesis.conclusion, synthesis.rootCause with
  | .completed, some cause =>
    let ids := keepIds cause.evidenceIds known
    if ids.isEmpty then none
    else some
      { statement := cause.statement
        confidence := cause.confidence
        evidenceIds := ids
        reasoningSummary := Py.orElse cause.reasoningSummary "See findings." }
  | _, _ => none

/-- The confidence of the report: at most its root cause's, at most LOW without one. -/
def clampConfidence (overall : Confidence) : Option RootCause → Confidence
  | some cause => if overall.rank > cause.confidence.rank then cause.confidence else overall
  | none => if overall.rank > Confidence.low.rank then .low else overall

section
variable {β : Type} (deps : GraphDeps β) (env : NodeEnv β) (m : Meters)

/-- `build_metadata`. -/
def buildMetadata (evidenceCount : Nat) (terminationReason : String) : InvestigationMetadata where
  mode := if deps.mode = "mock" then "mock" else "live"
  llmProvider := some deps.provider
  model := deps.model
  startedAt := deps.startedAt
  completedAt := env.stampAt
  durationSeconds := (PyFloat.totalSeconds (env.stampAt - deps.startedAt)).max (.fin 0)
  toolCallCount := m.usage.toolCalls
  stepCount := m.usage.steps
  evidenceCount := evidenceCount
  terminationReason := Py.takeFirst 200 terminationReason
  limits := deps.limits

/-- `build_rca_report`. -/
def buildRcaReport (incident : Content) (evidence : List Evidence)
    (proposedFindings : List ProposedFinding) (hypotheses : List Hypothesis)
    (synthesis : SynthesisResult) : RCAReport :=
  let known := evidenceIds evidence
  let status : InvestigationStatus :=
    if synthesis.conclusion = .completed then .completed else .insufficientEvidence
  let sorted := proposedFindings.foldl (addFinding known) ([], [])
  let all := synthesis.contributingFactors.foldl (addFactor known) sorted
  let rootCause := buildRootCause synthesis known
  let action := synthesis.recommendedAction
  { incidentId := deps.incidentId
    investigationId := deps.investigationId
    status := status
    summary := Py.orElse synthesis.summary "Investigation summary unavailable."
    severity := textOf incident "severity"
    affectedServices := Py.sortedSet
      ((evidence.filterMap Evidence.service).filter (· ≠ "") ++
        (textOf incident "service").toList)
    timeline := synthesis.timeline.map fun t =>
      { at_ := t.at_, description := t.description, evidenceIds := keepIds t.evidenceIds known }
    findings := all.1
    hypotheses := hypotheses
    rootCause := rootCause
    contributingFactors := all.2
    recommendedAction :=
      { actionType := action.actionType
        targetService := action.targetService
        description := Py.orElse action.description
          "Refer this incident to the service owner for review."
        rationale := Py.orElse action.rationale "Based on the collected evidence."
        evidenceIds := keepIds action.evidenceIds known }
    evidence := evidence
    overallConfidence := clampConfidence synthesis.overallConfidence rootCause
    uncertainty := Py.orElse synthesis.uncertainty "Uncertainty was not characterized."
    unavailableEvidenceSources := deps.registry.unavailableSources
    investigationMetadata := buildMetadata deps env m evidence.length
      (if status = .completed then "analysis_complete" else "insufficient_evidence") }

/-- `build_fallback_report`. -/
def buildFallbackReport (incident : Content) (evidence : List Evidence)
    (hypotheses : List Hypothesis) (errors : List String) : RCAReport :=
  let service := (textOf incident "service").getD "unknown-service"
  { incidentId := deps.incidentId
    investigationId := deps.investigationId
    status := .insufficientEvidence
    summary := "Automated investigation of the " ++ service ++
      " incident did not produce a validated root-cause analysis."
    severity := textOf incident "severity"
    affectedServices := (textOf incident "service").toList
    hypotheses := hypotheses
    recommendedAction :=
      { actionType := .investigateFurther
        targetService := some service
        description := "A human should review this incident manually."
        rationale := "The automated analysis could not be validated."
        evidenceIds := (evidenceIds evidence).take 1 }
    evidence := evidence
    overallConfidence := .low
    uncertainty := "The automated analysis failed internal validation and was discarded: " ++
      Py.join "; " (errors.take 5)
    unavailableEvidenceSources := deps.registry.unavailableSources
    investigationMetadata := buildMetadata deps env m evidence.length "rca_validation_failed" }

end

/-- The ids a hypothesis cites were collected. -/
def Hypothesis.Grounded (known : List String) (h : Hypothesis) : Prop :=
  ∀ i ∈ h.supportingEvidenceIds ++ h.contradictingEvidenceIds, i ∈ known

/-- A hypothesis stays grounded when more evidence is collected. -/
lemma Hypothesis.Grounded.mono {known known' h} (g : Hypothesis.Grounded known h)
    (sub : known ⊆ known') : h.Grounded known' :=
  fun i hi => sub (g i hi)

/-- A text that starts with a visible character is not blank. -/
lemma strip_append_ne {c : Char} {cs : List Char} {s t : String} (starts : s.toList = c :: cs)
    (visible : Py.isSpace c = false) : Py.strip (s ++ t) ≠ "" := by
  intro e
  have blank := congrArg String.toList e
  simp only [Py.strip, String.toList_ofList, String.toList_append, starts, List.cons_append,
    List.dropWhile_cons, visible] at blank
  have drops : ((c :: (cs ++ t.toList)).reverse.dropWhile Py.isSpace) = [] := by
    simpa using blank
  rw [List.dropWhile_eq_nil_iff] at drops
  have space := drops c (by simp)
  rw [visible] at space
  cases space

/-- A report without findings or root cause that states its uncertainty is consistent. -/
lemma validateConsistency_eq_nil {r : RCAReport} (cause : r.rootCause = none)
    (findings : r.allFindings = []) (factors : r.contributingFactors = [])
    (stated : Py.strip r.uncertainty ≠ "")
    (approval : r.recommendedAction.requiresHumanApproval = true) :
    validateConsistency r = [] := by
  simp [validateConsistency, cause, findings, factors, stated, approval]

/-- The fallback passes the validation whenever the hypotheses it repeats are grounded. -/
theorem buildFallbackReport_valid {β} {deps : GraphDeps β} {env m incident evidence hypotheses
    errors} (grounded : ∀ h ∈ hypotheses, Hypothesis.Grounded (evidenceIds evidence) h) :
    validateReport (buildFallbackReport deps env m incident evidence hypotheses errors)
      (evidenceIds evidence) = .ok () := by
  rw [validateReport_eq_ok, validateEvidenceReferences_eq_nil]
  constructor
  · intro i hi
    simp only [referencedEvidenceIds, buildFallbackReport, RCAReport.allFindings, List.append_nil,
      List.flatMap_nil, List.nil_append, Option.elim_none, List.mem_append] at hi
    obtain cited | anchor := hi
    · obtain ⟨h, hh, hi⟩ := List.mem_flatMap.mp cited
      exact grounded h hh i hi
    · exact List.mem_of_mem_take anchor
  · apply validateConsistency_eq_nil rfl rfl rfl _ rfl
    exact strip_append_ne (c := 'T') rfl (by decide)

end SentinelOps.Rca
