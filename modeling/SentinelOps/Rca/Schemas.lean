import SentinelOps.Rca.Domain

/-!
# The contracts of an investigation

Evidence, findings, hypotheses, the trace and the report. A collected `Evidence` item and a trace
entry are plain records; the parts of a report that the engine builds from what the model said and
from the incident are refused when a text is too long, which `Fits` states.
-/

namespace SentinelOps.Rca

/-- `Field(max_length=n)`. -/
def Fits (n : Nat) (s : String) : Prop := s.toList.length ≤ n

instance {n s} : Decidable (Fits n s) := inferInstanceAs (Decidable (_ ≤ _))

/-- `Field(max_length=n)` on a value that may be missing. -/
def FitsOpt (n : Nat) (s : Option String) : Prop := ∀ t ∈ s, Fits n t

instance {n s} : Decidable (FitsOpt n s) := inferInstanceAs (Decidable (∀ t ∈ s, _))

/-- One piece of evidence that a tool collected. -/
structure Evidence where
  id : String
  sourceType : EvidenceSourceType
  sourceReference : String
  trustLevel : TrustLevel := .trustedSystem
  toolName : String
  service : Option String := none
  summary : String
  content : Content := .empty
  observedAt : Option Instant := none
  collectedAt : Instant

/-- A statement with the evidence for it. -/
structure Finding where
  id : String
  type : FindingType
  statement : String
  evidenceIds : List String := []
  confidence : Confidence := .unknown
  deriving DecidableEq

/-- A hypothesis with its verdict. -/
structure Hypothesis where
  id : String
  statement : String
  supportingEvidenceIds : List String := []
  contradictingEvidenceIds : List String := []
  assessment : String
  verdict : HypothesisVerdict
  deriving DecidableEq

/-- The root cause a report states. -/
structure RootCause where
  statement : String
  confidence : Confidence
  evidenceIds : List String
  reasoningSummary : String
  deriving DecidableEq

/-- A recommendation for a human. -/
structure RecommendedAction where
  actionType : RecommendedActionType
  targetService : Option String := none
  description : String
  rationale : String
  evidenceIds : List String := []
  requiresHumanApproval : Bool := true
  deriving DecidableEq

/-- A dated entry of the report's timeline. -/
structure TimelineEntry where
  at_ : Instant
  description : String
  evidenceIds : List String := []
  deriving DecidableEq

/-- One entry of the operational trace. -/
structure InvestigationStep where
  seq : Nat
  kind : StepKind
  phase : InvestigationStatus
  description : String
  toolName : Option String := none
  evidenceIds : List String := []
  at_ : Instant
  deriving DecidableEq

/-- How the investigation was run. -/
structure InvestigationMetadata where
  mode : String
  llmProvider : Option String := none
  model : Option String := none
  startedAt : Instant
  completedAt : Instant
  durationSeconds : PyFloat
  toolCallCount : Nat
  stepCount : Nat
  evidenceCount : Nat
  terminationReason : String
  limits : ResourceLimits

/-- The structured output of an investigation. -/
structure RCAReport where
  incidentId : String
  investigationId : String
  status : InvestigationStatus
  summary : String
  severity : Option String := none
  affectedServices : List String := []
  timeline : List TimelineEntry := []
  findings : List Finding := []
  hypotheses : List Hypothesis := []
  rootCause : Option RootCause := none
  contributingFactors : List Finding := []
  recommendedAction : RecommendedAction
  evidence : List Evidence := []
  overallConfidence : Confidence := .unknown
  uncertainty : String
  unavailableEvidenceSources : List String := []
  investigationMetadata : InvestigationMetadata

/-- The findings a report lists, the contributing factors after the others. -/
def RCAReport.allFindings (r : RCAReport) : List Finding := r.findings ++ r.contributingFactors

/-- The lengths that the models of a report's parts accept. -/
structure RCAReport.WellFormed (r : RCAReport) : Prop where
  status : r.status = .completed ∨ r.status = .insufficientEvidence
  incidentId : Fits 40 r.incidentId
  investigationId : Fits 40 r.investigationId
  summary : Fits 4000 r.summary
  severity : FitsOpt 16 r.severity
  timeline : ∀ t ∈ r.timeline, Fits 1000 t.description
  findings : ∀ f ∈ r.allFindings, Fits 2000 f.statement
  rootCause : ∀ c ∈ r.rootCause, Fits 2000 c.statement ∧ Fits 4000 c.reasoningSummary
  targetService : FitsOpt 128 r.recommendedAction.targetService
  description : Fits 2000 r.recommendedAction.description
  rationale : Fits 2000 r.recommendedAction.rationale
  uncertainty : Fits 4000 r.uncertainty
  terminationReason : Fits 200 r.investigationMetadata.terminationReason

instance {r : RCAReport} : Decidable r.WellFormed :=
  decidable_of_iff
    ((r.status = .completed ∨ r.status = .insufficientEvidence) ∧ Fits 40 r.incidentId ∧
      Fits 40 r.investigationId ∧ Fits 4000 r.summary ∧ FitsOpt 16 r.severity ∧
      (∀ t ∈ r.timeline, Fits 1000 t.description) ∧
      (∀ f ∈ r.allFindings, Fits 2000 f.statement) ∧
      (∀ c ∈ r.rootCause, Fits 2000 c.statement ∧ Fits 4000 c.reasoningSummary) ∧
      FitsOpt 128 r.recommendedAction.targetService ∧ Fits 2000 r.recommendedAction.description ∧
      Fits 2000 r.recommendedAction.rationale ∧ Fits 4000 r.uncertainty ∧
      Fits 200 r.investigationMetadata.terminationReason)
    ⟨fun ⟨a, b, c, d, e, f, g, h, i, j, k, l, m⟩ => ⟨a, b, c, d, e, f, g, h, i, j, k, l, m⟩,
      fun ⟨a, b, c, d, e, f, g, h, i, j, k, l, m⟩ => ⟨a, b, c, d, e, f, g, h, i, j, k, l, m⟩⟩

/-- The lengths that the model of a hypothesis accepts. -/
def Hypothesis.WellFormed (h : Hypothesis) : Prop :=
  Fits 2000 h.statement ∧ Fits 2000 h.assessment

instance {h : Hypothesis} : Decidable h.WellFormed := inferInstanceAs (Decidable (_ ∧ _))

/-- The persisted investigation entity. -/
structure Investigation where
  id : String
  incidentId : String
  status : InvestigationStatus
  trigger : InvestigationTrigger
  mode : String
  model : Option String := none
  terminationReason : Option String := none
  toolCallCount : Nat := 0
  stepCount : Nat := 0
  evidenceCount : Nat := 0
  overallConfidence : Confidence := .unknown
  startedAt : Option Instant := none
  completedAt : Option Instant := none
  createdAt : Instant
  updatedAt : Instant
  deriving DecidableEq

end SentinelOps.Rca
