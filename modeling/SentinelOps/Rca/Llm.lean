import SentinelOps.Rca.Schemas

/-!
# The model boundary

What the graph asks the language model and what the model proposes. The replies of a client are
functions of the requests; a call may instead raise one of the boundary's errors, which the graph
turns into a terminal status, or any other exception, which leaves the graph.
-/

namespace SentinelOps.Rca

/-- What a call of the client raises. -/
inductive LlmRaised where
  | timeout (text : String)
  | error (name text : String)
  | other (name : String)
  deriving DecidableEq

/-- A tool call the model plans. -/
structure PlannedCall where
  tool : String
  arguments : Content := .empty
  reason : String := ""

/-- A finding without an id. -/
structure ProposedFinding where
  statement : String
  type : FindingType
  evidenceIds : List String := []
  confidence : Confidence := .unknown

/-- A hypothesis without an id. -/
structure ProposedHypothesis where
  statement : String
  supportingEvidenceIds : List String := []
  contradictingEvidenceIds : List String := []
  assessment : String := ""

/-- A root cause as the model states it. -/
structure ProposedRootCause where
  statement : String
  confidence : Confidence
  evidenceIds : List String := []
  reasoningSummary : String := ""

/-- A recommendation as the model states it. -/
structure ProposedAction where
  actionType : RecommendedActionType
  targetService : Option String := none
  description : String
  rationale : String := ""
  evidenceIds : List String := []

/-- A timeline entry as the model states it. -/
structure ProposedTimelineEntry where
  at_ : Instant
  description : String
  evidenceIds : List String := []

/-- The reply to a plan request. -/
structure PlanResult where
  calls : List PlannedCall := []
  rationale : String := ""

/-- The reply to an analysis request. -/
structure AnalysisResult where
  findings : List ProposedFinding := []
  hypotheses : List ProposedHypothesis := []

/-- The verdict on one of the proposed hypotheses. -/
structure HypothesisVerdictItem where
  index : Nat
  verdict : HypothesisVerdict
  assessment : String := ""

/-- The reply to a verification request. -/
structure VerificationResult where
  verdicts : List HypothesisVerdictItem := []
  needsMoreEvidence : Bool := false
  additionalCalls : List PlannedCall := []

/-- What an investigation concludes. -/
inductive Conclusion where
  | completed
  | insufficientEvidence
  deriving DecidableEq

instance : StrEnum Conclusion where
  members := [.completed, .insufficientEvidence]
  str
    | .completed => "completed"
    | .insufficientEvidence => "insufficient_evidence"
  complete a := by cases a <;> decide
  distinct := by decide

/-- The reply to a synthesis request. -/
structure SynthesisResult where
  conclusion : Conclusion
  summary : String
  rootCause : Option ProposedRootCause := none
  contributingFactors : List ProposedFinding := []
  recommendedAction : ProposedAction
  overallConfidence : Confidence := .unknown
  uncertainty : String
  timeline : List ProposedTimelineEntry := []

/-- A request for a plan. -/
structure PlanRequest where
  incident : Content
  evidence : List Evidence
  repairErrors : List String := []

/-- A request for an analysis. -/
structure AnalyzeRequest where
  incident : Content
  evidence : List Evidence

/-- A request for a verification. -/
structure VerifyRequest where
  incident : Content
  evidence : List Evidence
  findings : List ProposedFinding
  hypotheses : List ProposedHypothesis
  reanalysisAllowed : Bool

/-- A request for a synthesis. -/
structure SynthesizeRequest where
  incident : Content
  investigationId : String
  evidence : List Evidence
  findings : List ProposedFinding
  hypotheses : List Hypothesis
  repairErrors : List String

/-- The replies of the client while one node of the graph is executed. -/
structure LlmReplies where
  plan : PlanRequest → Except LlmRaised PlanResult
  analyze : AnalyzeRequest → Except LlmRaised AnalysisResult
  verify : VerifyRequest → Except LlmRaised VerificationResult
  synthesize : SynthesizeRequest → Except LlmRaised SynthesisResult

end SentinelOps.Rca
