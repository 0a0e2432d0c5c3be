import SentinelOps.Lib.PySet
import SentinelOps.Rca.Schemas

/-!
# The deterministic validation of a report

`validateReport` checks what the schema alone cannot: that every cited evidence id was collected,
that a root cause is backed by evidence and appears on a completed report only, that the report is
not more confident than its root cause and that the uncertainty is stated.
-/

namespace SentinelOps.Rca

/-- Every evidence id the report points at, from any section. -/
def referencedEvidenceIds (r : RCAReport) : List String :=
  r.allFindings.flatMap Finding.evidenceIds ++
    r.hypotheses.flatMap (fun h => h.supportingEvidenceIds ++ h.contradictingEvidenceIds) ++
    r.timeline.flatMap TimelineEntry.evidenceIds ++ r.recommendedAction.evidenceIds ++
    (r.rootCause.elim [] RootCause.evidenceIds)

/-- `validate_evidence_references`. -/
def validateEvidenceReferences (r : RCAReport) (known : List String) : List String :=
  (Py.sortedSet ((referencedEvidenceIds r).filter (· ∉ known))).map fun i =>
    "references evidence id " ++ Py.repr i ++ " which was not collected"

/-- The errors of a report about its root cause. -/
def rootCauseErrors (r : RCAReport) (cause : RootCause) : List String :=
  (if cause.evidenceIds.isEmpty then ["root cause asserted with no supporting evidence"] else []) ++
    (if r.status ≠ .completed then ["root cause may only appear on a COMPLETED report"] else []) ++
    (if r.overallConfidence.rank > cause.confidence.rank then
      ["overall confidence exceeds root-cause confidence"] else [])

/-- `validate_consistency`. -/
def validateConsistency (r : RCAReport) : List String :=
  (if r.status = .insufficientEvidence ∧ r.rootCause.isSome then
      ["INSUFFICIENT_EVIDENCE report must not assert a root cause"] else []) ++
    r.rootCause.elim [] (rootCauseErrors r) ++
    (r.allFindings.filter fun f => decide (f.confidence.rank ≥ Confidence.low.rank) &&
        f.evidenceIds.isEmpty).map
      (fun f => "finding " ++ Py.repr f.id ++ " claims " ++ str f.confidence ++
        " confidence with no evidence") ++
    (r.contributingFactors.filter fun f => decide (f.type ≠ .contributingFactor)).map
      (fun f => "contributing factor " ++ Py.repr f.id ++ " has wrong type " ++ str f.type) ++
    (if Py.strip r.uncertainty = "" then ["uncertainty must be stated explicitly"] else []) ++
    (if r.recommendedAction.requiresHumanApproval ≠ true then
      ["recommended action must require human approval"] else [])

/-- `validate_report`: every failure, or nothing. -/
def validateReport (r : RCAReport) (known : List String) : Except (List String) Unit :=
  let errors := validateEvidenceReferences r known ++ validateConsistency r
  if errors.isEmpty then .ok () else .error errors

/-- A report passes exactly when there is no error to list. -/
lemma validateReport_eq_ok {r known} :
    validateReport r known = .ok () ↔
      validateEvidenceReferences r known = [] ∧ validateConsistency r = [] := by
  unfold validateReport
  dsimp only
  split
  · rename_i h
    simpa using h
  · rename_i h
    simpa using h

/-- No reference dangles exactly when every cited id was collected. -/
lemma validateEvidenceReferences_eq_nil {r known} :
    validateEvidenceReferences r known = [] ↔ ∀ i ∈ referencedEvidenceIds r, i ∈ known := by
  unfold validateEvidenceReferences
  rw [List.map_eq_nil_iff]
  constructor
  · intro e i hi
    by_contra no
    have cited : i ∈ (referencedEvidenceIds r).filter (· ∉ known) := by simp [hi, no]
    rw [← Py.mem_sortedSet, e] at cited
    cases cited
  · intro all
    have none_left : (referencedEvidenceIds r).filter (· ∉ known) = [] := by
      rw [List.filter_eq_nil_iff]
      intro i hi
      simp [all i hi]
    rw [none_left]
    rfl

end SentinelOps.Rca
