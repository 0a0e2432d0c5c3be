import SentinelOps.Rca.EvidenceTools
import SentinelOps.Rca.Nodes

/-!
# The mock reasoner

`MockLlmClient`: the four replies of the deterministic client, by rules over the collected evidence.
A text that is too long for its model and a value that is not what the rules iterate over raise, as
any other exception would. The reading of a time is a parameter.
-/

namespace SentinelOps.Rca

namespace MockLlmClient

/-- The construction of a model, refused when a text is too long. -/
def accept {α : Type} (fits : Prop) [Decidable fits] (a : α) : Except LlmRaised α :=
  if fits then .ok a else .error (.other "ValidationError")

/-- `_by_type`. -/
def byType (evidence : List Evidence) (type : EvidenceSourceType) : List Evidence :=
  evidence.filter fun e => decide (e.sourceType = type)

/-- `_service_of`. -/
def serviceOf (incident : Content) : String := (textOf incident "service").getD "unknown-service"

/-- What the loop over `content.get(k, []) or []` runs over. -/
def iterated (content : Content) (k : String) : Except LlmRaised (List Json) :=
  match (content.get? k).filter Json.truthy with
  | none => .ok []
  | some (.list xs) => .ok xs
  | some (.str s) => .ok (s.toList.map fun c => .str (String.singleton c))
  | some (.dict es) => .ok (es.map fun e => .str e.1)
  | some _ => .error (.other "TypeError")

/-- The strings of a list. -/
def texts (xs : List Json) : List String :=
  xs.filterMap fun
    | .str s => some s
    | _ => none

/-- `_abnormal_signals`. -/
def abnormalSignals (anomalies : List Evidence) : Except LlmRaised (List String) := do
  let values ← anomalies.mapM fun ev => iterated ev.content "abnormal_signals"
  return (texts values.flatten).eraseDups

/-- `", ".join(a.content.get("abnormal_signals", []) or []) or default`. -/
def joined (content : Content) (default : String) : Except LlmRaised String := do
  let xs ← iterated content "abnormal_signals"
  if (texts xs).length = xs.length then return Py.orElse (Py.join ", " (texts xs)) default
  else .error (.other "TypeError")

/-- A value as a number. -/
def number : Option Json → Option PyFloat
  | some (.int n) => some (.fin n)
  | some (.float x) => some x
  | some (.bool b) => some (.fin b.toNat)
  | _ => none

/-- The score of an anomaly exceeds its threshold. -/
def isStrong (ev : Evidence) : Bool :=
  match number (ev.content.get? "anomaly_score"), number (ev.content.get? "threshold") with
  | some score, some thresh => thresh.lt score
  | _, _ => false

/-- `_strong_anomalies`. -/
def strongAnomalies (anomalies : List Evidence) : List Evidence := anomalies.filter isStrong

/-- `str(content.get(k, default))`. -/
def shown (content : Content) (k default : String) : String :=
  (content.get? k).elim default Json.text

/-- The calls that `plan` wants. -/
def wanted (incidentId service : String) : List PlannedCall :=
  [{ tool := "get_anomaly_evidence"
     arguments := object [("incident_id", .str incidentId), ("limit", .int 20)]
     reason := "the anomaly evidence is what formed the incident" },
   { tool := "get_incident_timeline"
     arguments := object [("incident_id", .str incidentId)]
     reason := "establish when the incident opened and moved" },
   { tool := "get_related_incidents"
     arguments := object [("service", .str service), ("lookback_hours", .int 168),
       ("limit", .int 10)]
     reason := "check whether this service has been unstable recently" },
   { tool := "get_service_metrics"
     arguments := object [("service", .str service),
       ("metric_names", .list [.str "http_server_request_duration_seconds",
         .str "orders_request_failed_total", .str "orders_created_total"])]
     reason := "see the current operational state of the affected service" },
   { tool := "get_service_health"
     arguments := object [("service", .str service)]
     reason := "confirm whether the service is currently healthy" }]

/-- `plan`. -/
def plan (request : PlanRequest) : Except LlmRaised PlanResult :=
  let incidentId := (textOf request.incident "id").getD ""
  let service := serviceOf request.incident
  let already := request.evidence.map Evidence.toolName
  let calls := (wanted incidentId service).filter fun c => decide (c.tool ∉ already)
  let rationale := "Investigate the " ++ service ++ " incident: read its anomaly evidence and " ++
    "timeline, check for related incidents, then look at the service's " ++
    "current metrics and health."
  accept (Fits 2000 rationale) { calls := calls, rationale := rationale }

/-- A finding of the mock. -/
def proposedFinding (statement : String) (type : FindingType) (evidence : List Evidence)
    (confidence : Confidence) : Except LlmRaised ProposedFinding :=
  accept (Fits 2000 statement)
    { statement := statement, type := type, evidenceIds := evidence.map Evidence.id,
      confidence := confidence }

/-- A hypothesis of the mock. -/
def proposedHypothesis (statement : String) (supporting contradicting : List Evidence)
    (assessment : String) : Except LlmRaised ProposedHypothesis :=
  accept (Fits 2000 statement)
    { statement := statement, supportingEvidenceIds := supporting.map Evidence.id,
      contradictingEvidenceIds := contradicting.map Evidence.id, assessment := assessment }

/-- A value that is neither missing nor `"ok"`. -/
def isDegraded (content : Content) (k : String) : Bool :=
  match content.get? k with
  | none | some .null => false
  | some (.str s) => decide (s ≠ "ok")
  | some _ => true

/-- The findings of `analyze`. -/
def findings (service : String) (evidence : List Evidence) (signals : List String) :
    Except LlmRaised (List ProposedFinding) := do
  let anomalies := byType evidence .anomaly
  let related := byType evidence .relatedIncident
  let incidents ← (byType evidence .incident).mapM fun item =>
    proposedFinding ("Incident on " ++ service ++ " at severity " ++
      shown item.content "severity" "unknown" ++ " with " ++
      shown item.content "anomaly_count" "0" ++ " anomaly window(s).") .observation [item] .high
  let windows ← anomalies.mapM fun a => do
    let abn ← joined a.content "no named signal"
    proposedFinding ("Detector " ++ shown a.content "detector" "?" ++ " scored " ++
      shown a.content "anomaly_score" "None" ++ " (threshold " ++
      shown a.content "threshold" "None" ++ "); abnormal: " ++ abn ++ ".") .observation [a] .medium
  let correlations ← match signals with
    | first :: _ =>
      if 2 ≤ anomalies.length then do
        let f ← proposedFinding (first ++ " was abnormal across " ++ toString anomalies.length ++
          " consecutive windows.") .correlation anomalies .medium
        pure [f]
      else pure []
    | [] => pure []
  let factors ← if related.isEmpty then pure [] else do
    let f ← proposedFinding (service ++ " has had " ++ toString related.length ++
      " other incident(s) recently.") .contributingFactor related .low
    pure [f]
  let degraded ← ((byType evidence .serviceHealth).filter fun h =>
      isDegraded h.content "health" || isDegraded h.content "readiness").mapM fun h =>
    proposedFinding (service ++ " currently reports health=" ++ shown h.content "health" "None" ++
      " readiness=" ++ shown h.content "readiness" "None" ++ ".") .observation [h] .medium
  return incidents ++ windows ++ correlations ++ factors ++ degraded

/-- The hypotheses of `analyze`. -/
def hypotheses (service : String) (evidence : List Evidence) (signals : List String) :
    Except LlmRaised (List ProposedHypothesis) := do
  let anomalies := byType evidence .anomaly
  let related := byType evidence .relatedIncident
  let driver ← match signals with
    | first :: _ =>
      if anomalies.isEmpty then pure [] else do
        let h ← proposedHypothesis ("Abnormal " ++ first ++ " in " ++ service ++
          " is the primary driver of this incident.") anomalies []
          "Every collected anomaly window flags this signal."
        pure [h]
    | [] => pure []
  let recurrence ← if related.isEmpty then pure [] else do
    let h ← proposedHypothesis ("This is a recurrence of ongoing instability in " ++ service ++
      " rather than a brand-new fault.") related (anomalies.take 1)
      "Prior incidents exist, but the current anomaly signature is specific."
    pure [h]
  let shared ← if 2 ≤ signals.length then do
      let h ← proposedHypothesis ("A shared root cause is degrading multiple signals (" ++
        Py.join ", " (signals.take 2) ++ ") together.") anomalies []
        "Multiple signals move together, suggesting one cause."
      pure [h]
    else pure []
  return driver ++ recurrence ++ shared

/-- `analyze`. -/
def analyze (request : AnalyzeRequest) : Except LlmRaised AnalysisResult := do
  let signals ← abnormalSignals (byType request.evidence .anomaly)
  let service := serviceOf request.incident
  let findings ← findings service request.evidence signals
  let hypotheses ← hypotheses service request.evidence signals
  return { findings := findings, hypotheses := hypotheses }

/-- The verdict of `verify` on a hypothesis. -/
def verdictOf (h : ProposedHypothesis) : HypothesisVerdict :=
  let s := h.supportingEvidenceIds.length
  let c := h.contradictingEvidenceIds.length
  if c > s then .refuted
  else if s ≥ 1 ∧ c ≥ 1 then .conflicting
  else if s ≥ 2 ∧ c = 0 then .supported
  else .unverified

/-- The verdicts of `verify`. -/
def verdicts (hypotheses : List ProposedHypothesis) : List HypothesisVerdictItem :=
  hypotheses.mapIdx fun i h =>
    { index := i
      verdict := verdictOf h
      assessment := toString h.supportingEvidenceIds.length ++ " supporting, " ++
        toString h.contradictingEvidenceIds.length ++ " contradicting evidence item(s)." }

/-- `verify`. -/
def verify (request : VerifyRequest) : Except LlmRaised VerificationResult :=
  let verdicts := verdicts request.hypotheses
  let top := verdicts.head?.elim .unverified HypothesisVerdictItem.verdict
  let needsMore := request.reanalysisAllowed && decide (top = .unverified) &&
    (byType request.evidence .metric).isEmpty
  .ok
    { verdicts := verdicts
      needsMoreEvidence := needsMore
      additionalCalls :=
        if needsMore then
          [{ tool := "get_service_metrics"
             arguments := object [("service", .str (serviceOf request.incident)),
               ("metric_names", .list [.str "orders_request_failed_total",
                 .str "orders_created_total"])]
             reason := "the leading hypothesis is unverified and no metrics were read" }]
        else [] }

/-- `_uncertainty`. -/
def uncertainty (repairErrors : List String) (primary : String) : String :=
  "Primary uncertainty: " ++ primary ++ "." ++
    (if Py.join "; " repairErrors = "" then ""
      else " Automated validation rejected the prior analysis: " ++ Py.join "; " repairErrors ++
        ".") ++
    " Logs, traces, deployment history, and dependency data were not available in this deployment."

/-- `s.replace("Z", "+00:00")`. -/
def replaceZulu (s : String) : String :=
  String.ofList (s.toList.flatMap fun c => if c = 'Z' then "+00:00".toList else [c])

section
variable (fromisoformat : String → Option Instant)

/-- `_ts`. -/
def ts : Option Json → Option Instant
  | some (.str s) => fromisoformat (replaceZulu s)
  | _ => none

/-- The timeline of `synthesize`. -/
def timeline (anomalies : List Evidence) : Except LlmRaised (List ProposedTimelineEntry) := do
  let entries ← (anomalies.take 5).mapM fun a =>
    match ts fromisoformat (a.content.get? "window_start") with
    | none => pure none
    | some at_ => do
      let abn ← joined a.content "flagged"
      let entry ← accept (Fits 1000 ("anomaly window: " ++ abn))
        { at_ := at_, description := "anomaly window: " ++ abn, evidenceIds := [a.id] :
          ProposedTimelineEntry }
      pure (some entry)
  return entries.filterMap id

/-- The models of a synthesis accept its texts. -/
def Accepted (s : SynthesisResult) : Prop :=
  Fits 4000 s.summary ∧ Fits 4000 s.uncertainty ∧
    (∀ c ∈ s.rootCause, Fits 2000 c.statement ∧ Fits 4000 c.reasoningSummary) ∧
    FitsOpt 128 s.recommendedAction.targetService ∧ Fits 2000 s.recommendedAction.description

instance decidableAccepted {s : SynthesisResult} : Decidable (Accepted s) :=
  inferInstanceAs (Decidable (_ ∧ _))

/-- The hypotheses that `synthesize` takes for supported. -/
def supportedOf (hypotheses : List Hypothesis) : List Hypothesis :=
  hypotheses.filter fun h => decide (h.verdict = .supported) && !h.supportingEvidenceIds.isEmpty

/-- A synthesis that names a hypothesis as the root cause. -/
def concluded (service severity : String) (repairErrors : List String) (h : Hypothesis)
    (strong : Nat) (signals : List String) (contributing : List ProposedFinding)
    (timeline : List ProposedTimelineEntry) : SynthesisResult where
  conclusion := .completed
  summary := severity ++ " incident on " ++ service ++ ": " ++ h.statement ++ " Supported by " ++
    toString h.supportingEvidenceIds.length ++ " evidence item(s)."
  rootCause := some
    { statement := h.statement
      confidence := .medium
      evidenceIds := h.supportingEvidenceIds
      reasoningSummary := toString strong ++ " anomaly windows exceeded the model threshold for " ++
        signals.head?.getD "the flagged signal" ++ ", with no contradicting evidence." }
  contributingFactors := contributing
  recommendedAction :=
    { actionType := .contactServiceOwner
      targetService := some service
      description := "Have the " ++ service ++ " owner investigate the sustained " ++
        signals.head?.getD "signal" ++ " degradation."
      rationale := "Root cause is service-side and needs an owner with context."
      evidenceIds := h.supportingEvidenceIds.take 3 }
  overallConfidence := .medium
  uncertainty := uncertainty repairErrors "database/dependency-side metrics were unavailable"
  timeline := timeline

/-- A synthesis without a root cause. -/
def undetermined (conclusion : Conclusion) (service summary primary description rationale : String)
    (repairErrors anchorIds : List String) (contributing : List ProposedFinding)
    (timeline : List ProposedTimelineEntry) : SynthesisResult where
  conclusion := conclusion
  summary := summary
  contributingFactors := contributing
  recommendedAction :=
    { actionType := .investigateFurther
      targetService := some service
      description := description
      rationale := rationale
      evidenceIds := anchorIds }
  overallConfidence := .low
  uncertainty := uncertainty repairErrors primary
  timeline := timeline

/-- The contributing factors of `synthesize`. -/
def contributingFactors (service : String) (related : List Evidence) :
    Except LlmRaised (List ProposedFinding) :=
  if related.isEmpty then pure [] else do
    let f ← proposedFinding (service ++ " had " ++ toString related.length ++
      " prior incident(s) recently.") .contributingFactor related .low
    pure [f]

/-- `synthesize`. -/
def synthesize (request : SynthesizeRequest) : Except LlmRaised SynthesisResult := do
  let ev := request.evidence
  let anomalies := byType ev .anomaly
  let incidentEv := byType ev .incident
  let related := byType ev .relatedIncident
  let strong := strongAnomalies anomalies
  let signals ← abnormalSignals anomalies
  let service := serviceOf request.incident
  let severity := (textOf request.incident "severity").getD "UNKNOWN"
  let anchorIds := (if incidentEv.isEmpty then ev.take 1 else incidentEv).map Evidence.id
  let conflicting := request.hypotheses.any fun h => decide (h.verdict = .conflicting)
  let timeline ← timeline fromisoformat anomalies
  let contributing ← contributingFactors service related
  let result :=
    if !request.repairErrors.isEmpty || anomalies.isEmpty || decide (ev.length < 2) then
      undetermined .insufficientEvidence service
        ("Investigation of the " ++ service ++ " incident (" ++ severity ++ "). " ++
          "The available evidence is not sufficient to establish a root cause.")
        "insufficient independent evidence"
        "Gather service-side metrics and logs before concluding."
        "Not enough independent evidence to isolate a cause."
        request.repairErrors anchorIds contributing timeline
    else
      match supportedOf request.hypotheses, decide (2 ≤ strong.length) with
      | h :: _, true =>
        concluded service severity request.repairErrors h strong.length signals contributing timeline
      | _, _ =>
        undetermined .completed service
          (severity ++ " incident on " ++ service ++ ": multiple hypotheses remain open. " ++
            (if conflicting then "Competing explanations conflict."
              else "No hypothesis is sufficiently supported."))
          ("no hypothesis reached SUPPORTED; " ++
            (if conflicting then "hypotheses conflict" else "support is weak"))
          "Collect dependency-side evidence to separate the open hypotheses."
          "The evidence supports several explanations equally."
          request.repairErrors anchorIds contributing timeline
  accept (Accepted result) result

end

end MockLlmClient

/-- `MockLlmClient`. -/
def mockClient (fromisoformat : String → Option Instant) : LlmReplies where
  plan := MockLlmClient.plan
  analyze := MockLlmClient.analyze
  verify := MockLlmClient.verify
  synthesize := MockLlmClient.synthesize fromisoformat

end SentinelOps.Rca
