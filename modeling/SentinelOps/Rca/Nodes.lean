import SentinelOps.Rca.Synthesis

/-!
# The nodes of the investigation graph

The state of the graph, the partial update that a node returns and the seven nodes. A node checks
the limits at its top, does one job and records what it did. An exception that a node does not turn
into a terminal status leaves the graph.
-/

namespace SentinelOps.Rca

/-- The nodes of the graph. -/
inductive Node where
  | initialise
  | plan
  | collect
  | analyze
  | verify
  | synthesize
  | validate
  deriving DecidableEq

instance : StrEnum Node where
  members := [.initialise, .plan, .collect, .analyze, .verify, .synthesize, .validate]
  str
    | .initialise => "initialize"
    | .plan => "plan"
    | .collect => "collect"
    | .analyze => "analyze"
    | .verify => "verify"
    | .synthesize => "synthesize"
    | .validate => "validate"
  complete a := by cases a <;> decide
  distinct := by decide

/-- The typed channel state. `next` is the successor a node declared, nothing for the end. -/
structure InvestigationState where
  status : InvestigationStatus := .pending
  terminalReason : Option String := none
  next : Option Node := none
  incident : Content := .empty
  planRationale : String := ""
  queue : List ValidatedCall := []
  reanalysisCount : Nat := 0
  repairCount : Nat := 0
  repairErrors : List String := []
  evidence : List Evidence := []
  steps : List InvestigationStep := []
  proposedFindings : List ProposedFinding := []
  proposedHypotheses : List ProposedHypothesis := []
  hypotheses : List Hypothesis := []
  synthesis : Option SynthesisResult := none
  rca : Option RCAReport := none

/-- A partial state: what a node returns. `evidence` and `steps` are appended by their reducers,
every other key that is present is overwritten. -/
structure Update where
  status : Option InvestigationStatus := none
  terminalReason : Option String := none
  next : Option (Option Node) := none
  incident : Option Content := none
  planRationale : Option String := none
  queue : Option (List ValidatedCall) := none
  reanalysisCount : Option Nat := none
  repairCount : Option Nat := none
  repairErrors : Option (List String) := none
  evidence : List Evidence := []
  steps : List InvestigationStep := []
  proposedFindings : Option (List ProposedFinding) := none
  proposedHypotheses : Option (List ProposedHypothesis) := none
  hypotheses : Option (List Hypothesis) := none
  synthesis : Option SynthesisResult := none
  rca : Option RCAReport := none

/-- The state after a node returned an update. -/
def InvestigationState.merge (s : InvestigationState) (u : Update) : InvestigationState where
  status := u.status.getD s.status
  terminalReason := u.terminalReason <|> s.terminalReason
  next := u.next.getD s.next
  incident := u.incident.getD s.incident
  planRationale := u.planRationale.getD s.planRationale
  queue := u.queue.getD s.queue
  reanalysisCount := u.reanalysisCount.getD s.reanalysisCount
  repairCount := u.repairCount.getD s.repairCount
  repairErrors := u.repairErrors.getD s.repairErrors
  evidence := s.evidence ++ u.evidence
  steps := s.steps ++ u.steps
  proposedFindings := u.proposedFindings.getD s.proposedFindings
  proposedHypotheses := u.proposedHypotheses.getD s.proposedHypotheses
  hypotheses := u.hypotheses.getD s.hypotheses
  synthesis := u.synthesis <|> s.synthesis
  rca := u.rca <|> s.rca

section
variable {s : InvestigationState} {u : Update}

@[simp] lemma merge_status : (s.merge u).status = u.status.getD s.status := rfl

@[simp] lemma merge_next : (s.merge u).next = u.next.getD s.next := rfl

@[simp] lemma merge_queue : (s.merge u).queue = u.queue.getD s.queue := rfl

@[simp] lemma merge_reanalysisCount :
    (s.merge u).reanalysisCount = u.reanalysisCount.getD s.reanalysisCount := rfl

@[simp] lemma merge_repairCount :
    (s.merge u).repairCount = u.repairCount.getD s.repairCount := rfl

@[simp] lemma merge_evidence : (s.merge u).evidence = s.evidence ++ u.evidence := rfl

@[simp] lemma merge_steps : (s.merge u).steps = s.steps ++ u.steps := rfl

@[simp] lemma merge_hypotheses : (s.merge u).hypotheses = u.hypotheses.getD s.hypotheses := rfl

/-- A draft after an update is the new one, or the old one when there is no new one. -/
lemma merge_rca {r} : (s.merge u).rca = some r ↔ u.rca = some r ∨ u.rca = none ∧ s.rca = some r := by
  show (u.rca <|> s.rca) = some r ↔ _
  cases u.rca with
  | none => simp
  | some new => simp

end

/-- The name of the type of an exception that leaves a node. -/
structure Escaped where
  name : String
  deriving DecidableEq

/-- What the execution of a node yields: an update or an exception, and the meters. -/
abbrev NodeResult := Except Escaped Update × Meters

/-- `_terminal`. -/
def terminal (status : InvestigationStatus) (reason : String) (extra : Update := {}) : Update :=
  { extra with status := some status, terminalReason := some reason, next := some none }

section
variable {status : InvestigationStatus} {reason : String} {extra : Update}

@[simp] lemma terminal_status : (terminal status reason extra).status = some status := rfl

@[simp] lemma terminal_evidence : (terminal status reason extra).evidence = extra.evidence := rfl

@[simp] lemma terminal_steps : (terminal status reason extra).steps = extra.steps := rfl

@[simp] lemma terminal_rca : (terminal status reason extra).rca = extra.rca := rfl

@[simp] lemma terminal_hypotheses :
    (terminal status reason extra).hypotheses = extra.hypotheses := rfl

@[simp] lemma terminal_repairCount :
    (terminal status reason extra).repairCount = extra.repairCount := rfl

end

/-- `_llm_terminal`, for the errors of the model boundary; the others are not caught. -/
def llmTerminal : LlmRaised → Except Escaped Update
  | .timeout text => .ok (terminal .timedOut ("llm timeout: " ++ text))
  | .error name text => .ok (terminal .failed ("llm error: " ++ name ++ ": " ++ text))
  | .other name => .error ⟨name⟩

/-- `_DEGRADE_NEXT`. -/
def degradeNext : Node → Option (Node × InvestigationStatus)
  | .plan => some (.synthesize, .verifying)
  | .collect => some (.analyze, .analyzing)
  | .analyze => some (.synthesize, .verifying)
  | .verify => some (.synthesize, .verifying)
  | .synthesize => some (.validate, .verifying)
  | .initialise | .validate => none

/-- `_default_verdict`. -/
def defaultVerdict (ph : ProposedHypothesis) (known : List String) : HypothesisVerdict :=
  let s := (keepIds ph.supportingEvidenceIds known).length
  let c := (keepIds ph.contradictingEvidenceIds known).length
  if c > s then .refuted
  else if s ≥ 1 ∧ c ≥ 1 then .conflicting
  else if s ≥ 2 then .supported
  else .unverified

/-- The hypothesis with position `i` of the proposed ones, with its verdict. -/
def judge (verdicts : List HypothesisVerdictItem) (known : List String) (i : Nat)
    (ph : ProposedHypothesis) : Hypothesis :=
  let v := verdicts.reverse.find? fun v => decide (v.index = i)
  { id := "hy_" ++ Py.padZeros 3 (i + 1)
    statement := ph.statement
    supportingEvidenceIds := keepIds ph.supportingEvidenceIds known
    contradictingEvidenceIds := keepIds ph.contradictingEvidenceIds known
    assessment := Py.orElse (v.elim "not assessed" HypothesisVerdictItem.assessment) "not assessed"
    verdict := v.elim (defaultVerdict ph known) HypothesisVerdictItem.verdict }

/-- The hypotheses of a verification. -/
def judgeAll (verdicts : List HypothesisVerdictItem) (known : List String)
    (proposed : List ProposedHypothesis) : List Hypothesis :=
  proposed.mapIdx (judge verdicts known)

/-- The number of hypotheses with a verdict. -/
def countVerdict (hypotheses : List Hypothesis) (verdict : HypothesisVerdict) : Nat :=
  (hypotheses.filter fun h => decide (h.verdict = verdict)).length

section
variable {β : Type} (deps : GraphDeps β) (env : NodeEnv β) (m : Meters) (state : InvestigationState)

/-- `_guard`: nothing when the node may proceed. -/
def guard (node : Node) (phase : InvestigationStatus) : Option NodeResult :=
  match checkLimits m.usage deps.limits env.guardAt with
  | .ok () => none
  | .error kind =>
    if kind = .time then
      some (.ok (terminal .timedOut ("investigation timed out (" ++ str kind ++ ")")), m)
    else
      match degradeNext node with
      | none => some (.ok (terminal .insufficientEvidence (str kind ++ " limit reached")), m)
      | some (nxt, status) =>
        let (note, m) := step env m .limit phase
          (str kind ++ " limit reached; advancing to " ++ str nxt)
        some (.ok { status := some status, steps := [note], next := some (some nxt),
                    queue := some [] }, m)

/-- `initialize`. -/
def initialise : NodeResult :=
  let (started, m) := step env m .plan .pending
    ("investigation started for incident " ++ deps.incidentId ++ " (mode=" ++ deps.mode ++ ")")
  if isIncidentId deps.incidentId = false then (.error ⟨"ValidationError"⟩, m)
  else
    match runValidatedCall deps env m
        ⟨.getIncident, Dict.empty.set "incident_id" (.str deps.incidentId)⟩ with
    | (.error kind, m) =>
      (.ok (terminal .timedOut ("limit reached before loading incident: " ++ str kind)
        { steps := [started] }), m)
    | (.ok result, m) =>
      match result.ok, result.evidence with
      | true, incidentEv :: _ =>
        let (loaded, m) := step env m .toolCall .planning
          ("loaded incident " ++ deps.incidentId ++ " via get_incident")
          (some (str ToolName.getIncident)) [incidentEv.id]
        (.ok { status := some .planning, incident := some incidentEv.content,
               evidence := [incidentEv], steps := [started, loaded], queue := some [],
               reanalysisCount := some 0, repairCount := some 0, next := some (some .plan) }, m)
      | _, _ =>
        let reason := result.error.elim "no incident data returned" ToolError.message
        (.ok (terminal .failed
          ("could not load incident " ++ deps.incidentId ++ ": " ++ reason)
          { steps := [started] }), m)

/-- The plan the model makes, with the one repair attempt: the validated calls and the rationale of
the first reply. -/
def requestPlan : Except LlmRaised (PlanValidation × String) :=
  let request : PlanRequest := { incident := state.incident, evidence := state.evidence }
  let remaining := deps.limits.maxToolCalls - m.usage.toolCalls
  match env.llm.plan request with
  | .error exc => .error exc
  | .ok result =>
    let validated := validatePlan deps.registry remaining result.calls
    if validated.accepted.isEmpty then
      let errors := if validated.rejected.isEmpty then ["the plan contained no usable calls"]
        else validated.rejected
      match env.llm.plan { request with repairErrors := errors } with
      | .error exc => .error exc
      | .ok retry => .ok (validatePlan deps.registry remaining retry.calls, result.rationale)
    else .ok (validated, result.rationale)

/-- `plan`. -/
def plan : NodeResult :=
  match guard deps env m .plan .planning with
  | some g => g
  | none =>
    match requestPlan deps env m state with
    | .error exc => (llmTerminal exc, m)
    | .ok (validated, rationale) =>
      let (planStep, m) := step env m .plan .planning
        ("planned " ++ toString validated.accepted.length ++ " evidence tool call(s): " ++
          Py.join ", " (validated.accepted.map fun c => str c.toolName) ++
          (if validated.rejected.isEmpty then ""
            else "; rejected: " ++ Py.join "; " validated.rejected))
      if validated.accepted.isEmpty then
        (.ok (terminal .insufficientEvidence "no valid evidence-collection plan could be produced"
          { steps := [planStep], planRationale := some rationale }), m)
      else
        (.ok { status := some .collectingEvidence, queue := some validated.accepted,
               planRationale := some rationale, steps := [planStep],
               next := some (some .collect) }, m)

/-- `collect`. -/
def collect : NodeResult :=
  match guard deps env m .collect .collectingEvidence with
  | some g => g
  | none =>
    match state.queue with
    | [] => (.ok { status := some .analyzing, next := some (some .analyze) }, m)
    | call :: queue =>
      match runValidatedCall deps env m call with
      | (.error kind, m) =>
        if kind = .time then
          (.ok (terminal .timedOut "investigation timed out during evidence collection"), m)
        else
          let (note, m) := step env m .limit .collectingEvidence
            ("stopped collecting evidence: " ++ str kind ++ " limit reached")
          (.ok { status := some .analyzing, queue := some [], steps := [note],
                 next := some (some .analyze) }, m)
      | (.ok result, m) =>
        let desc := "called " ++ str call.toolName ++ " -> " ++ str result.status ++
          result.error.elim "" fun e => " (" ++ e.message ++ ")"
        let (s, m) := step env m .toolCall .collectingEvidence desc (some (str call.toolName))
          (evidenceIds result.evidence)
        let more := !queue.isEmpty && decide (m.toolContext.remainingEvidence > 0)
        (.ok { queue := some queue, steps := [s], evidence := result.evidence,
               next := some (some (if more then .collect else .analyze)),
               status := if more then none else some .analyzing }, m)

/-- `_drain_extra_queue`: the steps and the evidence of the follow-up calls. -/
def drainExtraQueue (m : Meters) :
    List ValidatedCall → (List InvestigationStep × List Evidence) × Meters
  | [] => (([], []), m)
  | call :: queue =>
    if m.toolContext.remainingEvidence > 0 then
      match runValidatedCall deps env m call with
      | (.error _, m) => (([], []), m)
      | (.ok result, m) =>
        let (s, m) := step env m .toolCall .analyzing
          ("follow-up: called " ++ str call.toolName ++ " -> " ++ str result.status)
          (some (str call.toolName)) (evidenceIds result.evidence)
        let ((steps, evidence), m) := drainExtraQueue m queue
        ((s :: steps, result.evidence ++ evidence), m)
    else (([], []), m)

/-- `analyze`. -/
def analyze : NodeResult :=
  match guard deps env m .analyze .analyzing with
  | some g => g
  | none =>
    let ((drainedSteps, drainedEvidence), m) := drainExtraQueue deps env m state.queue
    let evidence := state.evidence ++ drainedEvidence
    match env.llm.analyze { incident := state.incident, evidence := evidence } with
    | .error exc => (llmTerminal exc, m)
    | .ok result =>
      let hyps := result.hypotheses.take deps.limits.maxHypotheses
      let (s, m) := step env m .analysis .analyzing
        ("analyzed " ++ toString evidence.length ++ " evidence item(s): " ++
          toString result.findings.length ++ " finding(s), " ++ toString hyps.length ++
          " hypothesis(es)")
      (.ok { status := some .verifying, proposedFindings := some result.findings,
             proposedHypotheses := some hyps, steps := drainedSteps ++ [s],
             next := some (some .verify) }, m)

/-- The calls a verification adds, when it wants more evidence and may have it. -/
def followUp (result : VerificationResult) : List ValidatedCall :=
  if result.needsMoreEvidence = true ∧ state.reanalysisCount < 1 then
    (validatePlan deps.registry (min (deps.limits.maxToolCalls - m.usage.toolCalls) 3)
      result.additionalCalls).accepted
  else []

/-- `verify`. -/
def verify : NodeResult :=
  match guard deps env m .verify .verifying with
  | some g => g
  | none =>
    match env.llm.verify
        { incident := state.incident, evidence := state.evidence,
          findings := state.proposedFindings, hypotheses := state.proposedHypotheses,
          reanalysisAllowed := decide (state.reanalysisCount < 1) } with
    | .error exc => (llmTerminal exc, m)
    | .ok result =>
      let hypotheses := judgeAll result.verdicts (evidenceIds state.evidence)
        state.proposedHypotheses
      if ∀ h ∈ hypotheses, h.WellFormed then
        let extra := followUp deps m state result
        if extra.isEmpty then
          let (s, m) := step env m .verification .verifying
            ("verified " ++ toString hypotheses.length ++ " hypothesis(es): " ++
              toString (countVerdict hypotheses .supported) ++ " supported, " ++
              toString (countVerdict hypotheses .conflicting) ++ " conflicting")
          (.ok { status := some .verifying, hypotheses := some hypotheses, steps := [s],
                 next := some (some .synthesize) }, m)
        else
          let (s, m) := step env m .verification .verifying
            ("verification inconclusive; collecting " ++ toString extra.length ++
              " more evidence item(s) then re-analyzing")
          (.ok { status := some .analyzing, hypotheses := some hypotheses, queue := some extra,
                 reanalysisCount := some (state.reanalysisCount + 1), steps := [s],
                 next := some (some .analyze) }, m)
      else (.error ⟨"ValidationError"⟩, m)

/-- `synthesize`. -/
def synthesize : NodeResult :=
  match guard deps env m .synthesize .verifying with
  | some g => g
  | none =>
    match env.llm.synthesize
        { incident := state.incident, investigationId := deps.investigationId,
          evidence := state.evidence, findings := state.proposedFindings,
          hypotheses := state.hypotheses, repairErrors := state.repairErrors } with
    | .error exc => (llmTerminal exc, m)
    | .ok synthesis =>
      let report := buildRcaReport deps env m state.incident state.evidence state.proposedFindings
        state.hypotheses synthesis
      if report.WellFormed then
        let (s, m) := step env m .rca .verifying
          ("synthesized RCA candidate: conclusion=" ++ str synthesis.conclusion ++
            ", root_cause=" ++ (if report.rootCause.isSome then "yes" else "undetermined"))
        (.ok { status := some .verifying, synthesis := some synthesis, rca := some report,
               steps := [s], next := some (some .validate) }, m)
      else (.error ⟨"ValidationError"⟩, m)

/-- `validate` when the synthesis was skipped: a safe report is built here. -/
def validateMissing : NodeResult :=
  let report := buildFallbackReport deps env m state.incident state.evidence state.hypotheses
    ["synthesis stage was not reached"]
  if report.WellFormed then
    let (s, m) := step env m .validation .insufficientEvidence
      "synthesis not reached; returning a safe insufficient-evidence report"
    match validateReport report (evidenceIds state.evidence) with
    | .error errors =>
      (.ok (terminal .failed ("fallback RCA invalid: " ++ Py.join "; " errors) { steps := [s] }), m)
    | .ok () =>
      (.ok (terminal .insufficientEvidence "synthesis_not_reached"
        { rca := some report, steps := [s] }), m)
  else (.error ⟨"ValidationError"⟩, m)

/-- `validate` when the report was rejected: the one repair, then the safe report. -/
def validateRejected (errors : List String) : NodeResult :=
  if state.repairCount < maxRepairAttempts then
    let (s, m) := step env m .validation .verifying
      ("RCA validation failed (" ++ toString errors.length ++ " issue(s)); repairing")
    (.ok { status := some .verifying, repairCount := some (state.repairCount + 1),
           repairErrors := some errors, steps := [s], next := some (some .synthesize) }, m)
  else
    let fallback := buildFallbackReport deps env m state.incident state.evidence state.hypotheses
      errors
    if fallback.WellFormed then
      match validateReport fallback (evidenceIds state.evidence) with
      | .error errors =>
        (.ok (terminal .failed
          ("even the fallback RCA failed validation: " ++ Py.join "; " errors)), m)
      | .ok () =>
        let (s, m) := step env m .validation .insufficientEvidence
          "RCA validation failed after repair; returning a safe insufficient-evidence report"
        (.ok (terminal .insufficientEvidence "rca_validation_failed"
          { rca := some fallback, steps := [s] }), m)
    else (.error ⟨"ValidationError"⟩, m)

/-- `validate`. -/
def validate : NodeResult :=
  match state.rca with
  | none => validateMissing deps env m state
  | some report =>
    match validateReport report (evidenceIds state.evidence) with
    | .error errors => validateRejected deps env m state errors
    | .ok () =>
      let (s, m) := step env m .validation report.status
        ("RCA validation passed; investigation " ++ (str report.status).toLower)
      (.ok (terminal report.status "analysis_complete" { steps := [s] }), m)

end

end SentinelOps.Rca
