import SentinelOps.Rca.Budget
import SentinelOps.Rca.Reports

/-!
# Built reports are valid

`buildRcaReport` cleans whatever the model proposes so that its report passes `validateReport`, with
distinct finding ids and a confidence that does not exceed that of the root cause
(`buildRcaReport_sound`); the fallback report passes as well.
-/

namespace SentinelOps

/-- The digits of a number are those after the zeros. -/
lemma Py.padZeros_injective {width : Nat} : Function.Injective (padZeros width) := by
  intro a b same
  have digits (n) : Nat.ofDigitChars 10 (padZeros width n).toList 0 = n := by
    unfold padZeros
    dsimp only
    rw [String.toList_ofList, Nat.ofDigitChars_append, Nat.ofDigitChars_replicate_zero,
      Nat.mul_zero, Nat.toString_eq_repr, Nat.repr_eq_ofList_toDigits, String.toList_ofList,
      Nat.ofDigitChars_ten_toDigits]
  rw [← digits a, same, digits b]

namespace Rca

variable {known : List String} {proposals : List ProposedFinding}

/-- A finding states what was proposed, cites collected evidence only and is uncertain when it cites
none. -/
structure Finding.Supported (known : List String) (proposals : List ProposedFinding) (f : Finding) :
    Prop where
  proposed : ∃ pf ∈ proposals, f.statement = pf.statement
  collected : ∀ i ∈ f.evidenceIds, i ∈ known
  uncertain : f.evidenceIds = [] → f.confidence = .unknown

/-- A finding that was assembled is supported. -/
lemma finding_supported {seq pf forceType} (mem : pf ∈ proposals) :
    (finding seq pf known forceType).Supported known proposals := by
  constructor
  · exact ⟨pf, mem, rfl⟩
  · intro i mem
    exact mem_keepIds mem
  · intro none_kept
    unfold finding at none_kept ⊢
    dsimp only at none_kept ⊢
    rw [none_kept]
    rfl

/-- The id of a finding. -/
def findingId (seq : Nat) : String := "fi_" ++ Py.padZeros 3 seq

/-- The ids of the first findings. -/
def findingIds (n : Nat) : List String := (List.range' 1 n).map findingId

/-- The next id. -/
lemma findingIds_succ {n} : findingIds (n + 1) = findingIds n ++ [findingId (n + 1)] := by
  unfold findingIds
  rw [List.range'_concat, List.map_append, Nat.one_mul, Nat.add_comm 1]
  rfl

/-- The ids are distinct. -/
lemma nodup_findingIds {n} : (findingIds n).Nodup := by
  apply (List.nodup_range' ..).map
  intro a b same
  exact Py.padZeros_injective ((String.append_right_inj _).mp same)

/-- The findings and the contributing factors assembled so far. -/
structure Assembled (known : List String) (proposals : List ProposedFinding)
    (acc : List Finding × List Finding) : Prop where
  supported : ∀ f ∈ acc.1 ++ acc.2, f.Supported known proposals
  factors : ∀ f ∈ acc.2, f.type = .contributingFactor
  ids : ((acc.1 ++ acc.2).map (·.id)).Perm (findingIds (acc.1.length + acc.2.length))

/-- One more contributing factor. -/
lemma Assembled.factor {acc} (h : Assembled known proposals acc) {pf}
    (given : pf ∈ proposals) :
    Assembled known proposals (acc.1, acc.2 ++
      [finding (acc.1.length + acc.2.length + 1) pf known (some .contributingFactor)]) := by
  constructor
  · intro f mem
    dsimp only at mem
    rw [← List.append_assoc, List.mem_append, List.mem_singleton] at mem
    obtain old | rfl := mem
    · exact h.supported f old
    · exact finding_supported given
  · intro f mem
    obtain old | new := List.mem_append.mp mem
    · exact h.factors f old
    · rw [List.mem_singleton.mp new]
      rfl
  · have ids : (acc.1 ++ (acc.2 ++
        [Rca.finding (acc.1.length + acc.2.length + 1) pf known (some .contributingFactor)])).map
          (·.id) =
        (acc.1 ++ acc.2).map (·.id) ++ [findingId (acc.1.length + acc.2.length + 1)] := by
      rw [← List.append_assoc, List.map_append]
      rfl
    dsimp only
    rw [ids, List.length_append, List.length_singleton, ← Nat.add_assoc, findingIds_succ]
    exact h.ids.append (.refl _)

/-- One more finding. -/
lemma Assembled.finding {acc} (h : Assembled known proposals acc) {pf}
    (given : pf ∈ proposals) :
    Assembled known proposals
      (acc.1 ++ [finding (acc.1.length + acc.2.length + 1) pf known none], acc.2) := by
  constructor
  · intro f mem
    dsimp only at mem
    rw [List.append_assoc, List.mem_append, List.singleton_append, List.mem_cons] at mem
    obtain old | rfl | old := mem
    · exact h.supported f (List.mem_append_left _ old)
    · exact finding_supported given
    · exact h.supported f (List.mem_append_right _ old)
  · exact h.factors
  · dsimp only
    have count : (acc.1 ++ [Rca.finding (acc.1.length + acc.2.length + 1) pf known none]).length +
        acc.2.length = acc.1.length + acc.2.length + 1 := by
      rw [List.length_append, List.length_singleton]
      omega
    rw [count, findingIds_succ, List.append_assoc, List.singleton_append, List.map_append,
      List.map_cons]
    refine List.perm_middle.trans (.trans (.cons _ ?_) (List.perm_append_singleton _ _).symm)
    rw [← List.map_append]
    exact h.ids

/-- All the findings of a report are assembled from the proposals. -/
lemma assembled {proposed factors : List ProposedFinding} :
    Assembled known (proposed ++ factors)
      (factors.foldl (addFactor known) (proposed.foldl (addFinding known) ([], []))) := by
  have sorted {found} (given : found ⊆ proposed) :
      Assembled known (proposed ++ factors) (found.foldl (addFinding known) ([], [])) := by
    induction found using List.reverseRecOn with
    | nil => exact ⟨nofun, nofun, .refl _⟩
    | append_singleton found pf ih =>
      obtain ⟨before, last⟩ := List.append_subset.mp given
      have there := List.mem_append_left factors (last (List.mem_singleton_self pf))
      rw [List.foldl_append, List.foldl_cons, List.foldl_nil]
      unfold addFinding
      dsimp only
      split
      · exact (ih before).factor there
      · exact (ih before).finding there
  have all {added} (given : added ⊆ factors) : Assembled known (proposed ++ factors)
      (added.foldl (addFactor known) (proposed.foldl (addFinding known) ([], []))) := by
    induction added using List.reverseRecOn with
    | nil => exact sorted (List.Subset.refl _)
    | append_singleton added pf ih =>
      obtain ⟨before, last⟩ := List.append_subset.mp given
      rw [List.foldl_append, List.foldl_cons, List.foldl_nil]
      exact (ih before).factor (List.mem_append_right _ (last (List.mem_singleton_self pf)))
  exact all (List.Subset.refl _)

/-- The root cause that was kept is the proposed one and cites collected evidence. -/
structure KeptCause (synthesis : SynthesisResult) (known : List String) (cause : RootCause) :
    Prop where
  concluded : synthesis.conclusion = .completed
  cited : cause.evidenceIds ≠ []
  collected : ∀ i ∈ cause.evidenceIds, i ∈ known
  proposed : ∃ p ∈ synthesis.rootCause, cause.statement = p.statement ∧
    cause.reasoningSummary = Py.orElse p.reasoningSummary "See findings."

/-- A report keeps its root cause only so. -/
lemma buildRootCause_some {synthesis : SynthesisResult} {cause}
    (h : buildRootCause synthesis known = some cause) : KeptCause synthesis known cause := by
  unfold buildRootCause at h
  split at h
  · rename_i proposed concluded given
    dsimp only at h
    split at h
    · cases h
    · rename_i kept
      cases h
      rw [List.isEmpty_iff] at kept
      exact ⟨concluded, kept, fun i mem => mem_keepIds mem, proposed, given, rfl, rfl⟩
  · cases h

/-- The confidence is clamped. -/
lemma clampConfidence_le {overall cause} : (clampConfidence overall cause).rank ≤
    (cause.elim Confidence.low RootCause.confidence).rank := by
  cases cause with
  | none =>
    unfold clampConfidence
    dsimp only
    split
    · exact le_refl _
    · rename_i low
      exact Nat.le_of_not_gt low
  | some cause =>
    unfold clampConfidence
    dsimp only
    split
    · exact le_refl _
    · rename_i low
      exact Nat.le_of_not_gt low

/-- An uncertainty that is empty or has a visible character is stated in the report. -/
lemma stated_uncertainty {uncertainty : String}
    (h : uncertainty = "" ∨ Py.strip uncertainty ≠ "") :
    Py.strip (Py.orElse uncertainty "Uncertainty was not characterized.") ≠ "" := by
  unfold Py.orElse
  split
  · decide
  · rename_i text
    exact h.resolve_left text

/-- A report of supported findings whose root cause and uncertainty are in order is consistent. -/
lemma validateConsistency_of_supported {r : RCAReport}
    (cause : ∀ c, r.rootCause = some c → r.status = .completed ∧ c.evidenceIds ≠ [])
    (overall : r.overallConfidence.rank ≤
      (r.rootCause.elim Confidence.low RootCause.confidence).rank)
    (findings : ∀ f ∈ r.allFindings, f.Supported known proposals)
    (factors : ∀ f ∈ r.contributingFactors, f.type = .contributingFactor)
    (stated : Py.strip r.uncertainty ≠ "")
    (approval : r.recommendedAction.requiresHumanApproval = true) :
    validateConsistency r = [] := by
  have no_cause : ¬ (r.status = .insufficientEvidence ∧ r.rootCause.isSome = true) := by
    rintro ⟨status, there⟩
    obtain ⟨c, found⟩ := Option.isSome_iff_exists.mp there
    rw [(cause c found).1] at status
    cases status
  have cause_errors : r.rootCause.elim [] (rootCauseErrors r) = [] := by
    cases found : r.rootCause with
    | none => rfl
    | some c =>
      obtain ⟨status, cited⟩ := cause c found
      rw [found] at overall
      have below : ¬ r.overallConfidence.rank > c.confidence.rank := Nat.not_lt_of_le overall
      simp [rootCauseErrors, status, cited, below]
  have unsupported : (r.allFindings.filter fun f =>
      decide (f.confidence.rank ≥ Confidence.low.rank) && f.evidenceIds.isEmpty) = [] := by
    rw [List.filter_eq_nil_iff]
    intro f mem
    rw [Bool.and_eq_true, not_and, List.isEmpty_iff]
    intro confident none_cited
    rw [(findings f mem).uncertain none_cited] at confident
    exact absurd confident (by decide)
  have wrong_type : (r.contributingFactors.filter fun f =>
      decide (f.type ≠ .contributingFactor)) = [] := by
    rw [List.filter_eq_nil_iff]
    intro f mem
    simp [factors f mem]
  unfold validateConsistency
  rw [if_neg no_cause, cause_errors, unsupported, wrong_type, if_neg stated, approval]
  rfl

/-- What the types of the model's replies admit. -/
structure SynthesisResult.Admitted (s : SynthesisResult) : Prop where
  summary : Fits 4000 s.summary
  uncertainty : Fits 4000 s.uncertainty
  rootCause : ∀ c ∈ s.rootCause, Fits 2000 c.statement ∧ Fits 4000 c.reasoningSummary
  factors : ∀ pf ∈ s.contributingFactors, Fits 2000 pf.statement
  targetService : FitsOpt 128 s.recommendedAction.targetService
  description : Fits 2000 s.recommendedAction.description
  rationale : Fits 2000 s.recommendedAction.rationale
  timeline : ∀ t ∈ s.timeline, Fits 1000 t.description

/-- A default that fits replaces an empty text by one that fits. -/
lemma fits_orElse {n s default} (given : Fits n s) (short : Fits n default) :
    Fits n (Py.orElse s default) := by
  unfold Py.orElse
  split
  · exact short
  · exact given

/-- No part of the report of an admitted synthesis is too long. -/
lemma buildRcaReport_wellFormed {β} {deps : GraphDeps β} {env m incident evidence proposedFindings
    hypotheses} {synthesis : SynthesisResult} (admitted : synthesis.Admitted)
    (proposed : ∀ pf ∈ proposedFindings, Fits 2000 pf.statement)
    (incidentId : Fits 40 deps.incidentId) (investigationId : Fits 40 deps.investigationId)
    (severity : FitsOpt 16 (textOf incident "severity")) :
    (buildRcaReport deps env m incident evidence proposedFindings hypotheses
      synthesis).WellFormed := by
  constructor
  case status =>
    change (if _ then _ else _) = _ ∨ (if _ then _ else _) = _
    split
    · exact .inl rfl
    · exact .inr rfl
  case incidentId => exact incidentId
  case investigationId => exact investigationId
  case summary => exact fits_orElse admitted.summary (by decide)
  case severity => exact severity
  case timeline =>
    intro t mem
    obtain ⟨entry, given, rfl⟩ := List.mem_map.mp mem
    exact admitted.timeline entry given
  case findings =>
    intro f mem
    obtain ⟨pf, given, same⟩ := (assembled.supported f mem).proposed
    rw [same]
    obtain found | factor := List.mem_append.mp given
    · exact proposed pf found
    · exact admitted.factors pf factor
  case rootCause =>
    intro cause found
    obtain ⟨p, given, statement, reasoning⟩ := (buildRootCause_some found).proposed
    obtain ⟨short, shortReason⟩ := admitted.rootCause p given
    rw [statement, reasoning]
    exact ⟨short, fits_orElse shortReason (by decide)⟩
  case targetService => exact admitted.targetService
  case description => exact fits_orElse admitted.description (by decide)
  case rationale => exact fits_orElse admitted.rationale (by decide)
  case uncertainty => exact fits_orElse admitted.uncertainty (by decide)
  case terminationReason =>
    change Fits 200 (Py.takeFirst 200 _)
    unfold Fits
    rw [String.length_toList]
    exact Py.length_takeFirst_le

end Rca

end SentinelOps
