import Mathlib.Analysis.SpecialFunctions.Log.Basic
import SentinelOps.Ml.Drift

/-!
# The stability index as a divergence

Over the reals and with the natural logarithm, the population stability index is not negative, does
not depend on which sample is the reference, and is zero for equal proportions only
(`calculatePsi_divergence`). So a sample does not drift from itself.
-/

namespace SentinelOps.Ml

open NumPy

/-- The term of a bin. -/
noncomputable def psiTerm (e a : ℝ) : ℝ := (a - e) * Real.log (a / e)

section
variable {e a : ℝ}

/-- A bin in which both proportions are equal adds nothing. -/
lemma psiTerm_self : psiTerm e e = 0 := by
  unfold psiTerm
  rw [sub_self, zero_mul]

/-- A bin in which the proportions differ adds something. -/
lemma psiTerm_pos (pos_e : 0 < e) (pos_a : 0 < a) (apart : a ≠ e) : 0 < psiTerm e a := by
  unfold psiTerm
  obtain less | more := lt_or_gt_of_ne apart
  · exact mul_pos_of_neg_of_neg (sub_neg.mpr less)
      (Real.log_neg (div_pos pos_a pos_e) ((div_lt_one pos_e).mpr less))
  · exact mul_pos (sub_pos.mpr more) (Real.log_pos ((one_lt_div pos_e).mpr more))

/-- No bin adds a negative number. -/
lemma psiTerm_nonneg (pos_e : 0 < e) (pos_a : 0 < a) : 0 ≤ psiTerm e a := by
  obtain rfl | apart := eq_or_ne a e
  · exact psiTerm_self.ge
  · exact (psiTerm_pos pos_e pos_a apart).le

/-- The term is symmetric. -/
lemma psiTerm_comm : psiTerm e a = psiTerm a e := by
  unfold psiTerm
  rw [← inv_div e a, Real.log_inv, mul_neg, ← neg_mul, neg_sub]

end

section
variable {expected actual : List ℝ}

/-- The sum bin by bin. -/
lemma psiSum_cons {e a : ℝ} : psiSum Real.log (e :: expected) (a :: actual) =
    psiTerm e a + psiSum Real.log expected actual := by
  unfold psiSum psiTerm
  rw [List.zipWith_cons_cons, List.sum_cons]

/-- The sum over positive proportions is not negative. -/
lemma psiSum_nonneg (pos : ∀ e ∈ expected, 0 < e) (pos' : ∀ a ∈ actual, 0 < a) :
    0 ≤ psiSum Real.log expected actual := by
  induction expected generalizing actual with
  | nil => exact le_refl _
  | cons e expected ih =>
    cases actual with
    | nil => exact le_refl _
    | cons a actual =>
      obtain ⟨pos_e, pos⟩ := List.forall_mem_cons.mp pos
      obtain ⟨pos_a, pos'⟩ := List.forall_mem_cons.mp pos'
      rw [psiSum_cons]
      exact add_nonneg (psiTerm_nonneg pos_e pos_a) (ih pos pos')

/-- The sum is symmetric. -/
lemma psiSum_comm : psiSum Real.log expected actual = psiSum Real.log actual expected := by
  induction expected generalizing actual with
  | nil => cases actual <;> rfl
  | cons e expected ih =>
    cases actual with
    | nil => rfl
    | cons a actual => rw [psiSum_cons, psiSum_cons, ih, psiTerm_comm]

/-- The sum over positive proportions is zero only where they are equal. -/
lemma psiSum_eq_zero_iff (size : expected.length = actual.length)
    (pos : ∀ e ∈ expected, 0 < e) (pos' : ∀ a ∈ actual, 0 < a) :
    psiSum Real.log expected actual = 0 ↔ expected = actual := by
  induction expected generalizing actual with
  | nil =>
    cases actual with
    | nil => exact ⟨fun _ => rfl, fun _ => rfl⟩
    | cons a actual => cases size
  | cons e expected ih =>
    cases actual with
    | nil => cases size
    | cons a actual =>
      obtain ⟨pos_e, pos⟩ := List.forall_mem_cons.mp pos
      obtain ⟨pos_a, pos'⟩ := List.forall_mem_cons.mp pos'
      have rest := psiSum_nonneg pos pos'
      rw [psiSum_cons, List.cons.injEq, ← ih (Nat.succ.inj size) pos pos']
      constructor
      · intro zero
        obtain rfl | apart := eq_or_ne a e
        · rw [psiTerm_self, zero_add] at zero
          exact ⟨rfl, zero⟩
        · have more := psiTerm_pos pos_e pos_a apart
          linarith only [zero, rest, more]
      · rintro ⟨rfl, zero⟩
        rw [psiTerm_self, zero, add_zero]

/-- Floored proportions are positive. -/
lemma floored_pos {proportions : List ℝ} : ∀ p ∈ floored proportions, 0 < p := by
  intro p mem
  obtain ⟨p, -, rfl⟩ := List.mem_map.mp mem
  refine lt_of_lt_of_le ?_ (le_max_right _ _)
  unfold psiEpsilon
  norm_num

/-- The index of floored proportions is that of the vectors. -/
lemma calculatePsi_eq (size : expected.length = actual.length) :
    calculatePsi Real.log expected actual =
      .ok (psiSum Real.log (floored expected) (floored actual)) := by
  unfold calculatePsi
  rw [if_neg (not_not.mpr size)]

end

section
variable {ref cur : Frame ℝ} {nBins : ℕ} {name : String} {col col' : List ℝ}

/-- A feature with the same values in another order does not drift. -/
lemma frozenPsi_perm (in_ref : ref.columns.get? name = some col)
    (in_cur : cur.columns.get? name = some col') (same : col'.Perm col) :
    frozenPsi Real.log ref cur nBins name = 0 := by
  have col_ref : ref.column name = col := by
    unfold Frame.column
    rw [in_ref]
    rfl
  have col_cur : cur.column name = col' := by
    unfold Frame.column
    rw [in_cur]
    rfl
  unfold frozenPsi
  rw [col_ref, col_cur, proportions_perm same]
  exact (psiSum_eq_zero_iff rfl floored_pos floored_pos).mpr rfl

/-- No index is no drift. -/
lemma classifyPsi_zero : classifyPsi (0 : ℝ) defaultPsiThresholds = .none := by
  unfold classifyPsi defaultPsiThresholds
  norm_num

end

/-- An index of zero is reported as zero. -/
lemma round6_zero : round6 (0 : ℝ) = 0 := by
  unfold round6
  simp

/-- The index is a divergence; a sample does not drift from its own baseline in whichever order its
rows are; and the overall decision is the most severe one of a feature. -/
theorem calculatePsi_divergence :
    (∀ expected actual : List ℝ, expected.length = actual.length →
      ∃ psi, calculatePsi Real.log expected actual = .ok psi ∧
        calculatePsi Real.log actual expected = .ok psi ∧ 0 ≤ psi ∧
        (psi = 0 ↔ floored expected = floored actual)) ∧
    (∀ (sqrt : ℝ → ℝ) (x : Sample ℝ) names mv fsv nBins (ref : Frame ℝ),
      names ≠ [] → 2 ≤ nBins → asFrame x names = .ok ref → ref.height ≠ 0 →
      ∃ baseline, freezeBaseline sqrt x names mv fsv nBins = .ok baseline ∧
        ∀ x' cur mv' previous current, currentFrame x' baseline = .ok cur →
          (∀ name ∈ names, ∃ col col', ref.columns.get? name = some col ∧
            cur.columns.get? name = some col' ∧ col'.Perm col) →
          (∀ name ∈ names, featurePsi Real.log baseline name (cur.column name) = .ok 0) ∧
          ∃ report, detectDrift Real.log sqrt x' baseline mv' none previous current =
              .ok report ∧ report.overallDecision = "no_drift" ∧
            report.featureReports.map (·.featureName) = names ∧
            ∀ r ∈ report.featureReports, r.psi = 0 ∧ r.classification = .none) ∧
    ∀ (log sqrt : ℝ → ℝ) (x : Sample ℝ) baseline mv' thresholds previous current report,
      detectDrift log sqrt x baseline mv' thresholds previous current = .ok report →
      ∃ worst ∈ report.featureReports,
        report.overallDecision = overall worst.classification.rank ∧
        ∀ r ∈ report.featureReports, r.classification.rank ≤ worst.classification.rank := by
  refine ⟨?_, ?_, fun _ _ _ _ _ _ _ _ _ => detectDrift_overall⟩
  · intro expected actual size
    refine ⟨_, calculatePsi_eq size, ?_, psiSum_nonneg floored_pos floored_pos, ?_⟩
    · rw [calculatePsi_eq size.symm, psiSum_comm]
    · refine psiSum_eq_zero_iff ?_ floored_pos floored_pos
      unfold floored
      rw [List.length_map, List.length_map, size]
  · intro sqrt x names mv fsv nBins ref named bins accepted rows
    refine ⟨_, freezeBaseline_eq named bins accepted rows, ?_⟩
    intro x' cur mv' previous current compared same
    -- the bins and shares are frozen from the sample, and order does not matter to either
    have still {name} (mem : name ∈ names) : frozenPsi Real.log ref cur nBins name = 0 := by
      obtain ⟨col, col', in_ref, in_cur, perm⟩ := same name mem
      exact frozenPsi_perm in_ref in_cur perm
    have has {name} (mem : name ∈ names) : cur.columns.contains name = true := by
      obtain ⟨_, col', _, in_cur, -⟩ := same name mem
      unfold Dict.contains
      rw [in_cur]
      rfl
    obtain ⟨name, mem⟩ := List.exists_mem_of_ne_nil _ named
    have rows' : cur.height ≠ 0 := by
      obtain ⟨col, col', in_ref, in_cur, perm⟩ := same name mem
      rw [← cur.aligned name col' in_cur, perm.length_eq, ref.aligned name col in_ref]
      exact rows
    obtain ⟨report, detected, -, reports⟩ :=
      @detectDrift_frozen ℝ _ _ _ _ Real.log sqrt x' names mv fsv nBins ref mv' none previous
        current cur compared rows' name mem (has mem)
    rw [List.filter_eq_self.mpr fun _ => has] at reports
    have quiet : ∀ r ∈ report.featureReports, r.psi = 0 ∧ r.classification = .none := by
      intro r mem
      rw [reports] at mem
      obtain ⟨name, named, rfl⟩ := List.mem_map.mp mem
      unfold frozenReport
      rw [still named]
      exact ⟨round6_zero, classifyPsi_zero⟩
    refine ⟨fun name mem => ?_, report, detected, ?_, ?_, quiet⟩
    · exact (featurePsi_frozen mem).trans (congrArg Except.ok (still mem))
    · obtain ⟨worst, mem, decision, -⟩ := detectDrift_overall detected
      rw [decision, (quiet worst mem).2]
      rfl
    · rw [reports, List.map_map]
      exact List.map_id _

/-- Three latencies in another order do not drift. -/
theorem calculatePsi_divergence_three :
    (∃ psi, calculatePsi Real.log [1 / 2, 1 / 2] [1, 0] = .ok psi ∧
      calculatePsi Real.log [1, 0] [1 / 2, 1 / 2] = .ok psi ∧ 0 ≤ psi ∧
      (psi = 0 ↔ floored [1 / 2, 1 / 2] = floored [1, (0 : ℝ)])) ∧
    ∃ baseline, freezeBaseline (fun r => r) (.matrix 3 [⟨[(3 : ℝ), 1, 2], rfl⟩]) ["latency_ms"]
        "1" "1" 10 = .ok baseline ∧
      ∃ report, detectDrift Real.log (fun r => r) (.matrix 3 [⟨[1, 2, 3], rfl⟩]) baseline none none
          none none = .ok report ∧
        report.overallDecision = "no_drift" ∧
        ∃ worst ∈ report.featureReports,
          report.overallDecision = overall worst.classification.rank ∧
          ∀ r ∈ report.featureReports, r.classification.rank ≤ worst.classification.rank := by
  obtain ⟨divergence, itself, decision⟩ := calculatePsi_divergence
  refine ⟨divergence _ _ rfl, ?_⟩
  obtain ⟨baseline, frozen, quiet⟩ := itself (fun r => r) (.matrix 3 [⟨[3, 1, 2], rfl⟩])
    ["latency_ms"] "1" "1" 10 _ (by decide) (by decide) rfl (by decide)
  refine ⟨baseline, frozen, ?_⟩
  have compared : currentFrame (.matrix 3 [⟨[1, 2, 3], rfl⟩]) baseline =
      .ok (.ofMatrix ["latency_ms"] 3 [⟨[1, 2, 3], rfl⟩]) := by
    cases frozen
    rfl
  obtain ⟨-, report, detected, overall, -⟩ := quiet _ _ none none none compared fun name mem => by
    rw [List.mem_singleton.mp mem]
    exact ⟨_, _, rfl, rfl, @List.perm_append_comm _ [1, 2] [3]⟩
  exact ⟨report, detected, overall, decision _ _ _ _ _ _ _ _ _ detected⟩

end SentinelOps.Ml
