import Mathlib.Analysis.Complex.ExponentialBounds
import Mathlib.Analysis.SpecialFunctions.Log.Basic
import Mathlib.Topology.Order.IntermediateValue
import SentinelOps.Lib.Numerals
import SentinelOps.Ml.Divergence

/-!
# Features above their whole reference

When every value of a feature exceeds every reference value, the current sample is in the last bin.
Whether that is significant drift depends on how much of the reference is below the last bin, and
merged edges can leave nothing there: `fullShift_significant` gives the exact condition. A constant
reference never drifts (`not_fullShift_significant`).
-/

namespace SentinelOps.Ml

open NumPy

section
variable {values : List ℝ}

open scoped Numerals in
/-- The deciles of a sample. -/
noncomputable def decile (values : List ℝ) (i : ℕ) : ℝ := quantile values (i / 10)

/-- The share of values with a decile strictly between them and the greatest value. -/
noncomputable def shareBelow (values : List ℝ) : ℝ :=
  (values.countP fun v => (List.range 10).any fun i =>
    decide (v < decile values i ∧ decile values i < quantile values 1)) / values.length

/-- The quantiles of the default bins are the deciles. -/
lemma mem_quantiles {e : ℝ} :
    e ∈ NumPy.unique ((linspace 0 1 (defaultNBins + 1)).map (quantile values)) ↔
      ∃ i ≤ 10, e = decile values i := by
  have point (i : ℕ) : (0 : ℝ) + i * ((1 - 0) / (((defaultNBins + 1 : ℕ) : ℝ) - 1)) = i / 10 := by
    unfold defaultNBins
    norm_num
    ring
  unfold linspace decile
  rw [NumPy.mem_unique, List.map_map, List.mem_map]
  simp only [Function.comp_apply, point, List.mem_range, Nat.lt_succ_iff]
  constructor
  · rintro ⟨i, le, rfl⟩
    exact ⟨i, le, rfl⟩
  · rintro ⟨i, le, rfl⟩
    exact ⟨i, le, rfl⟩

/-- The first and the last decile. -/
lemma decile_ends : decile values 0 = quantile values 0 ∧ decile values 10 = quantile values 1 := by
  unfold decile
  norm_num

/-- No decile is outside the sample. -/
lemma decile_between (nonempty : values ≠ []) {i : ℕ} (le : i ≤ 10) :
    quantile values 0 ≤ decile values i ∧ decile values i ≤ quantile values 1 := by
  have le : (i : ℝ) ≤ 10 := by exact_mod_cast le
  exact quantile_between nonempty (by positivity) ((div_le_one (by norm_num)).mpr le)

/-- A decile but the first is not below an edge that few values are below. -/
lemma le_decile {edge : ℝ} (few : 10 * values.countP (· < edge) < values.length) {i : ℕ}
    (pos : 1 ≤ i) (le : i ≤ 10) : edge ≤ decile values i := by
  have nonempty : values ≠ [] := by
    rintro rfl
    cases few
  have le' : (i : ℝ) ≤ 10 := by exact_mod_cast le
  have at_rank := (@quantile_mem ℝ _ _ _ values (i / 10) _ nonempty (by positivity)
    ((div_le_one (by norm_num)).mpr le')).1
  refine le_trans ?_ at_rank
  have below := @le_sorted_countP ℝ _ values edge 0 (by omega)
  refine below.trans (sorted_getD_mono ?_ (rank_lt nonempty (by positivity)
    ((div_le_one (by norm_num)).mpr le')))
  rw [Nat.le_floor_iff (rank_nonneg nonempty (by positivity))]
  have count : 10 * (values.countP (· < edge) : ℝ) + 1 ≤ values.length := by exact_mod_cast few
  have pos' : (1 : ℝ) ≤ i := by exact_mod_cast pos
  have counted : (0 : ℝ) ≤ values.countP (· < edge) := Nat.cast_nonneg _
  have rows : (0 : ℝ) ≤ values.length - 1 := by linarith only [count, counted]
  have more := mul_nonneg (sub_nonneg.mpr pos') rows
  linarith only [count, more]

/-- The edges of a sample with different deciles. -/
lemma edges_of_two (two : 2 ≤
    (NumPy.unique ((linspace 0 1 (defaultNBins + 1)).map (quantile values))).length) :
    (binEdges values defaultNBins).edges =
      NumPy.unique ((linspace 0 1 (defaultNBins + 1)).map (quantile values)) := by
  unfold binEdges
  dsimp only
  rw [dif_pos two]

/-- At least two edges end with two. -/
lemma exists_last {α : Type*} {edges : List α} (two : 2 ≤ edges.length) :
    ∃ inner edge top, edges = inner ++ [edge, top] := by
  obtain rfl | ⟨front, top, rfl⟩ := List.eq_nil_or_concat' edges
  · cases two
  · obtain rfl | ⟨inner, edge, rfl⟩ := List.eq_nil_or_concat' front
    · exact absurd two (Nat.not_succ_le_self 1)
    · exact ⟨inner, edge, top, by rw [List.append_assoc]; rfl⟩

/-- Increasing edges lie between the first and the last one, and all but the last are at most that
before it. -/
lemma mem_increasing {inner : List ℝ} {edge top e : ℝ}
    (increasing : (inner ++ [edge, top]).Pairwise (· < ·)) (mem : e ∈ inner ++ [edge, top]) :
    inner.headD edge ≤ e ∧ (e = top ∨ e ≤ edge) ∧ e ≤ top := by
  obtain ⟨sorted, last, below⟩ := List.pairwise_append.mp increasing
  have edge_lt : edge < top := List.rel_of_pairwise_cons last (List.mem_singleton.mpr rfl)
  have head_le : inner.headD edge ≤ edge := by
    cases inner with
    | nil => exact le_refl _
    | cons a inner => exact (below a List.mem_cons_self edge (by simp)).le
  obtain mem | mem := List.mem_append.mp mem
  · have less := below e mem edge (by simp)
    refine ⟨?_, .inr less.le, less.le.trans edge_lt.le⟩
    cases inner with
    | nil => cases mem
    | cons a inner =>
      obtain rfl | mem := List.mem_cons.mp mem
      · exact le_refl _
      · exact (List.rel_of_pairwise_cons sorted mem).le
  · obtain rfl | mem := List.mem_cons.mp mem
    · exact ⟨head_le, .inr (le_refl _), edge_lt.le⟩
    · rw [List.mem_singleton.mp mem]
      exact ⟨head_le.trans edge_lt.le, .inl rfl, le_refl _⟩

/-- The edges of a sample: its least and its greatest value, and deciles between them. -/
structure Binned (values : List ℝ) (inner : List ℝ) (edge top : ℝ) : Prop where
  edges : (binEdges values defaultNBins).edges = inner ++ [edge, top]
  top_eq : top = quantile values 1
  low_eq : inner.headD edge = quantile values 0
  size : inner.length ≤ 9
  mem : ∀ e, e ∈ inner ++ [edge, top] ↔ ∃ i ≤ 10, e = decile values i

/-- A sample with different deciles is binned at them. -/
lemma exists_binned (nonempty : values ≠ []) (two : 2 ≤
    (NumPy.unique ((linspace 0 1 (defaultNBins + 1)).map (quantile values))).length) :
    ∃ inner edge top, Binned values inner edge top := by
  obtain ⟨inner, edge, top, split⟩ := exists_last two
  have mem (e) : e ∈ inner ++ [edge, top] ↔ ∃ i ≤ 10, e = decile values i := by
    rw [← split]
    exact mem_quantiles
  have increasing : (inner ++ [edge, top]).Pairwise (· < ·) := split ▸ NumPy.pairwise_unique
  have between {e} (here : e ∈ inner ++ [edge, top]) :
      quantile values 0 ≤ e ∧ e ≤ quantile values 1 := by
    obtain ⟨i, le, rfl⟩ := (mem e).mp here
    exact decile_between nonempty le
  have low_mem : inner.headD edge ∈ inner ++ [edge, top] := by
    cases inner <;> simp
  refine ⟨inner, edge, top, (edges_of_two two).trans split, ?_, ?_, ?_, mem⟩
  · refine le_antisymm (between (by simp)).2 ?_
    have last := (mem (decile values 10)).mpr ⟨10, le_refl _, rfl⟩
    rw [decile_ends.2] at last
    exact (mem_increasing increasing last).2.2
  · refine le_antisymm ?_ (between low_mem).1
    have first := (mem (decile values 0)).mpr ⟨0, Nat.zero_le _, rfl⟩
    rw [decile_ends.1] at first
    exact (mem_increasing increasing first).1
  · have few : (NumPy.unique ((linspace 0 1 (defaultNBins + 1)).map (quantile values))).length ≤
        ((linspace 0 1 (defaultNBins + 1)).map (quantile values)).length := NumPy.length_unique_le
    rw [split, List.length_append, List.length_map] at few
    unfold linspace at few
    rw [List.length_map, List.length_range] at few
    unfold defaultNBins at few
    have two : [edge, top].length = 2 := rfl
    omega

section
variable {inner : List ℝ} {edge top : ℝ}

/-- The edges increase. -/
lemma Binned.increasing (binned : Binned values inner edge top) :
    (inner ++ [edge, top]).Pairwise (· < ·) :=
  binned.edges ▸ (binEdges values defaultNBins).increasing

/-- The values with a decile between them and the greatest one are those below the last bin. -/
lemma Binned.shareBelow_eq (binned : Binned values inner edge top) :
    shareBelow values = (values.countP (· < edge) : ℝ) / values.length := by
  unfold shareBelow
  congr 2
  refine List.countP_congr fun v _ => ?_
  rw [List.any_eq_true, decide_eq_true_iff]
  have edge_lt : edge < top :=
    List.rel_of_pairwise_cons (List.pairwise_append.mp binned.increasing).2.1
      (List.mem_singleton.mpr rfl)
  constructor
  · rintro ⟨i, mem, between⟩
    obtain ⟨less, under⟩ := of_decide_eq_true between
    have inside := (binned.mem (decile values i)).mpr ⟨i, (List.mem_range.mp mem).le, rfl⟩
    obtain same | le := (mem_increasing binned.increasing inside).2.1
    · rw [same, binned.top_eq] at under
      exact absurd under (lt_irrefl _)
    · exact less.trans_le le
  · intro less
    obtain ⟨i, le, rfl⟩ := (binned.mem edge).mp (by simp)
    rw [binned.top_eq] at edge_lt
    refine ⟨i, List.mem_range.mpr (lt_of_le_of_ne le ?_), decide_eq_true ⟨less, edge_lt⟩⟩
    rintro rfl
    rw [decile_ends.2] at edge_lt
    exact lt_irrefl _ edge_lt

/-- The first and the last edge. -/
lemma Binned.ends (binned : Binned values inner edge top) :
    (binEdges values defaultNBins).edges.headD 0 = quantile values 0 ∧
      (binEdges values defaultNBins).edges.getLastD 0 = quantile values 1 := by
  rw [binned.edges, ← binned.top_eq, ← binned.low_eq]
  constructor
  · cases inner <;> rfl
  · have last : inner ++ [edge, top] = inner ++ [edge] ++ [top] := by rw [List.append_assoc]; rfl
    rw [last, List.getLastD_concat]

/-- Proportions of counts that are not all zero. -/
lemma proportions_of_pos {counts : List ℕ} {edges : BinEdges ℝ}
    (eq : binCounts values edges = counts) (pos : 0 < counts.sum) :
    proportions values edges = counts.map fun c : ℕ => (c : ℝ) / (counts.sum : ℝ) := by
  unfold proportions
  rw [eq]
  dsimp only
  rw [if_neg]
  exact not_le.mpr (by exact_mod_cast pos)

/-- The proportions of the sample itself: those below the last bin and what is left. -/
lemma Binned.proportions_self (binned : Binned values inner edge top) (nonempty : values ≠ []) :
    ∃ lower : List ℕ, lower.length = inner.length ∧ lower.sum = values.countP (· < edge) ∧
      proportions values (binEdges values defaultNBins) =
        (lower.map fun c : ℕ => (c : ℝ) / values.length) ++ [1 - shareBelow values] := by
  obtain ⟨lower, split, size, total⟩ := @histogram_split ℝ _ values edge top inner binned.increasing
  have below : lower.sum = values.countP (· < edge) := by
    rw [total]
    refine List.countP_congr fun v mem => ?_
    rw [decide_eq_true_iff, decide_eq_true_iff, binned.low_eq]
    exact and_iff_right (quantiles_bound mem).1
  have rest : (values.countP fun v => decide (edge ≤ v ∧ v ≤ top)) =
      values.length - values.countP (· < edge) := by
    have upper : (values.countP fun v => decide (edge ≤ v ∧ v ≤ top)) =
        values.countP fun v => decide (edge ≤ v) := by
      refine List.countP_congr fun v mem => ?_
      rw [decide_eq_true_iff, decide_eq_true_iff, binned.top_eq]
      exact and_iff_left (quantiles_bound mem).2
    have both := @countP_add ℝ values (fun v => decide (v < edge)) (fun v => decide (edge ≤ v))
      (fun _ => true)
      (fun v both => absurd (of_decide_eq_true both.2) (not_le.mpr (of_decide_eq_true both.1)))
      (fun v => by
        rw [decide_eq_true_iff, decide_eq_true_iff]
        exact iff_of_true rfl (lt_or_ge v edge))
    rw [List.countP_true] at both
    rw [upper]
    omega
  have counts : binCounts values (binEdges values defaultNBins) =
      lower ++ [values.length - values.countP (· < edge)] := by
    unfold binCounts
    rw [binned.ends.1, binned.ends.2, clip_of_mem fun v mem => quantiles_bound mem, binned.edges,
      split, rest]
  have few : values.countP (· < edge) ≤ values.length := List.countP_le_length
  have some : 0 < values.length := List.length_pos_iff.mpr nonempty
  have all : (lower ++ [values.length - values.countP (· < edge)]).sum = values.length := by
    rw [List.sum_append, List.sum_singleton, below]
    omega
  refine ⟨lower, size, below, ?_⟩
  rw [proportions_of_pos counts (by rw [all]; exact some), all, List.map_append, List.map_singleton,
    binned.shareBelow_eq, Nat.cast_sub few, sub_div, div_self (by exact_mod_cast some.ne')]

/-- The proportions of a sample above all of it. -/
lemma Binned.proportions_above (binned : Binned values inner edge top) {current : List ℝ}
    (nonempty : current ≠ []) (above : ∀ c ∈ current, top ≤ c) :
    proportions current (binEdges values defaultNBins) =
      List.replicate inner.length 0 ++ [1] := by
  have edge_lt : edge < top :=
    List.rel_of_pairwise_cons (List.pairwise_append.mp binned.increasing).2.1
      (List.mem_singleton.mpr rfl)
  have wide : quantile values 0 ≤ quantile values 1 := by
    rw [← binned.low_eq, ← binned.top_eq]
    exact (mem_increasing binned.increasing (e := edge) (by simp)).1.trans edge_lt.le
  obtain ⟨lower, split, size, total⟩ :=
    @histogram_split ℝ _ (List.replicate current.length top) edge top inner binned.increasing
  have none : lower = List.replicate inner.length 0 := by
    rw [← size, List.eq_replicate_length]
    intro c mem
    have zero : lower.sum = 0 := by
      rw [total, List.countP_eq_zero]
      intro v mem both
      rw [List.eq_of_mem_replicate mem] at both
      exact lt_asymm edge_lt (of_decide_eq_true both).2
    exact List.sum_eq_zero_iff.mp zero c mem
  have last : ((List.replicate current.length top).countP fun v => decide (edge ≤ v ∧ v ≤ top)) =
      current.length := by
    rw [List.countP_replicate, if_pos (decide_eq_true ⟨edge_lt.le, le_refl _⟩)]
  have counts : binCounts current (binEdges values defaultNBins) =
      List.replicate inner.length 0 ++ [current.length] := by
    unfold binCounts
    rw [binned.ends.1, binned.ends.2, clip_of_above wide fun c mem => ?_, ← binned.top_eq,
      binned.edges, split, none, last]
    exact binned.top_eq ▸ above c mem
  have all : (List.replicate inner.length 0 ++ [current.length]).sum = current.length := by
    rw [List.sum_append, List.sum_replicate, List.sum_singleton, smul_zero, zero_add]
  have some : 0 < current.length := List.length_pos_iff.mpr nonempty
  rw [proportions_of_pos counts (by rw [all]; exact some), all, List.map_append, List.map_replicate,
    List.map_singleton, Nat.cast_zero, zero_div, div_self (by exact_mod_cast some.ne')]

end

/-- What a bin that holds a share of the reference and nothing of the current sample adds. -/
noncomputable def emptiedTerm (p : ℝ) : ℝ := psiTerm (max p psiEpsilon) psiEpsilon

/-- The index of a sample in the last bin, of a reference with a share in one bin below it. -/
noncomputable def shiftPsi (r : ℝ) : ℝ := emptiedTerm r + psiTerm (max (1 - r) psiEpsilon) 1

lemma psiEpsilon_pos : 0 < (psiEpsilon : ℝ) := by
  unfold psiEpsilon
  norm_num

/-- The last bin apart. -/
lemma psiSum_concat {expected actual : List ℝ} {e a : ℝ}
    (size : expected.length = actual.length) :
    psiSum Real.log (expected ++ [e]) (actual ++ [a]) =
      psiSum Real.log expected actual + psiTerm e a := by
  unfold psiSum psiTerm
  rw [List.zipWith_append size, List.sum_append, List.zipWith_cons_cons, List.zipWith_nil_left,
    List.sum_singleton]

/-- Emptied bins. -/
lemma psiSum_emptied {shares : List ℝ} :
    psiSum Real.log (floored shares) (floored (List.replicate shares.length 0)) =
      (shares.map emptiedTerm).sum := by
  induction shares with
  | nil => rfl
  | cons p shares ih =>
    have here : emptiedTerm p = psiTerm (max p psiEpsilon) (max 0 psiEpsilon) := by
      unfold emptiedTerm
      rw [max_eq_right psiEpsilon_pos.le]
    unfold floored at ih ⊢
    rw [List.length_cons, List.replicate_succ, List.map_cons, List.map_cons, psiSum_cons, ih,
      List.map_cons, List.sum_cons, here]

/-- The index of a sample in the last bin. -/
lemma psiSum_shift {shares : List ℝ} {p : ℝ} :
    psiSum Real.log (floored (shares ++ [p]))
        (floored (List.replicate shares.length 0 ++ [1])) =
      (shares.map emptiedTerm).sum + psiTerm (max p psiEpsilon) 1 := by
  have one : max (1 : ℝ) psiEpsilon = 1 := by
    unfold psiEpsilon
    norm_num
  rw [← psiSum_emptied]
  unfold floored
  rw [List.map_append, List.map_append, List.map_singleton, List.map_singleton, one]
  refine psiSum_concat ?_
  rw [List.length_map, List.length_map, List.length_replicate]

section
variable {p q r : ℝ}

/-- The term of an emptied bin, over the floored share. -/
lemma emptiedTerm_eq : emptiedTerm p =
    (max p psiEpsilon - psiEpsilon) * Real.log (max p psiEpsilon / psiEpsilon) := by
  unfold emptiedTerm
  rw [psiTerm_comm]
  rfl

/-- No emptied bin adds a negative number. -/
lemma emptiedTerm_nonneg : 0 ≤ emptiedTerm p :=
  psiTerm_nonneg (lt_of_lt_of_le psiEpsilon_pos (le_max_right _ _)) psiEpsilon_pos

/-- The term of an emptied bin grows with its share. -/
lemma emptiedTerm_mono (le : p ≤ q) : emptiedTerm p ≤ emptiedTerm q := by
  have more : max p psiEpsilon ≤ max q psiEpsilon := max_le_max_right _ le
  have floor : (psiEpsilon : ℝ) ≤ max p psiEpsilon := le_max_right _ _
  have pos := psiEpsilon_pos
  rw [emptiedTerm_eq, emptiedTerm_eq]
  refine mul_le_mul (sub_le_sub_right more _) ?_ ?_ (sub_nonneg.mpr (floor.trans more))
  · exact Real.log_le_log (div_pos (pos.trans_le floor) pos) (by gcongr)
  · exact Real.log_nonneg ((one_le_div pos).mpr floor)

/-- A line below the term of an emptied bin. -/
lemma line_le_emptiedTerm : Real.log 32 * (p - 32 * psiEpsilon) ≤ emptiedTerm p := by
  have pos := psiEpsilon_pos
  have log_pos : 0 < Real.log 32 := Real.log_pos (by norm_num)
  obtain less | more := lt_or_ge p (32 * psiEpsilon)
  · exact (mul_nonpos_of_nonneg_of_nonpos log_pos.le (sub_nonpos.mpr less.le)).trans
      emptiedTerm_nonneg
  · have kept : max p psiEpsilon = p := max_eq_left (by linarith only [more, pos])
    rw [emptiedTerm_eq, kept, mul_comm]
    refine mul_le_mul (by linarith only [pos]) ?_ log_pos.le (by linarith only [more, pos])
    exact Real.log_le_log (by norm_num) ((le_div_iff₀ pos).mpr more)

/-- The term of a last bin that the current sample fills. -/
lemma filledTerm_eq : psiTerm (max (1 - r) psiEpsilon) 1 =
    (1 - max (1 - r) psiEpsilon) * -Real.log (max (1 - r) psiEpsilon) := by
  unfold psiTerm
  rw [one_div, Real.log_inv]

/-- The index grows with the share below the last bin. -/
lemma shiftPsi_lt (low : 0 ≤ q) (less : q < r) (high : r < 1 / 2) : shiftPsi q < shiftPsi r := by
  have kept {s : ℝ} (under : s < 1 / 2) : max (1 - s) (psiEpsilon : ℝ) = 1 - s := by
    refine max_eq_left ?_
    unfold psiEpsilon
    linarith only [under]
  unfold shiftPsi
  refine add_lt_add_of_le_of_lt (emptiedTerm_mono less.le) ?_
  rw [filledTerm_eq, filledTerm_eq, kept high, kept (less.trans high)]
  have logs : -Real.log (1 - q) < -Real.log (1 - r) :=
    neg_lt_neg (Real.log_lt_log (by linarith only [high]) (by linarith only [less]))
  have first : 0 ≤ -Real.log (1 - q) := neg_nonneg.mpr (Real.log_nonpos
    (by linarith only [less, high]) (by linarith only [low]))
  calc (1 - (1 - q)) * -Real.log (1 - q) ≤ (1 - (1 - r)) * -Real.log (1 - q) :=
        mul_le_mul_of_nonneg_right (by linarith only [less]) first
    _ < (1 - (1 - r)) * -Real.log (1 - r) :=
        mul_lt_mul_of_pos_left logs (by linarith only [low, less])

/-- The index is continuous in that share. -/
lemma continuous_shiftPsi : Continuous shiftPsi := by
  have pos (s : ℝ) : max s psiEpsilon ≠ 0 :=
    (lt_of_lt_of_le psiEpsilon_pos (le_max_right _ _)).ne'
  unfold shiftPsi emptiedTerm psiTerm
  refine Continuous.add ?_ ?_
  · refine Continuous.mul (by fun_prop) (Continuous.log ?_ ?_)
    · exact Continuous.div (by fun_prop) (by fun_prop) pos
    · exact fun s => div_ne_zero psiEpsilon_pos.ne' (pos s)
  · refine Continuous.mul (by fun_prop) (Continuous.log ?_ ?_)
    · exact Continuous.div (by fun_prop) (by fun_prop) fun s => pos _
    · exact fun s => div_ne_zero one_ne_zero (pos _)

/-- A share of two percent is too small and one of three percent is enough. -/
lemma shiftPsi_bounds : shiftPsi (1 / 50) < 1 / 4 ∧ 1 / 4 < shiftPsi (3 / 100) := by
  have two_lt := Real.log_two_lt_d9
  have two_gt := Real.log_two_gt_d9
  have eps : (psiEpsilon : ℝ) = 1 / 1000000 := rfl
  unfold shiftPsi
  constructor
  · have emptied : emptiedTerm (1 / 50) ≤ 1 / 50 * (15 * Real.log 2) := by
      have power : Real.log 20000 ≤ Real.log (2 ^ 15) := Real.log_le_log (by norm_num) (by norm_num)
      have ratio : (1 / 50 : ℝ) / psiEpsilon = 20000 := by norm_num [eps]
      rw [Real.log_pow] at power
      rw [emptiedTerm_eq, max_eq_left (by norm_num [eps]), ratio]
      exact mul_le_mul (by norm_num [eps]) (by exact_mod_cast power)
        (Real.log_nonneg (by norm_num)) (by norm_num)
    have filled : psiTerm (max (1 - 1 / 50) psiEpsilon) 1 ≤ 1 / 50 * (1 / 49) := by
      have line := Real.one_sub_inv_le_log_of_pos (show (0 : ℝ) < 1 - 1 / 50 by norm_num)
      rw [filledTerm_eq, max_eq_left (by norm_num [eps])]
      refine mul_le_mul (by norm_num) ?_ (neg_nonneg.mpr (Real.log_nonpos (by norm_num)
        (by norm_num))) (by norm_num)
      refine (neg_le_neg line).trans ?_
      norm_num
    linarith only [emptied, filled, two_lt]
  · have emptied : (3 / 100 - 1 / 1000000) * (14 * Real.log 2) ≤ emptiedTerm (3 / 100) := by
      have power : Real.log (2 ^ 14) ≤ Real.log 30000 := Real.log_le_log (by norm_num) (by norm_num)
      have ratio : (3 / 100 : ℝ) / psiEpsilon = 30000 := by norm_num [eps]
      rw [Real.log_pow] at power
      rw [emptiedTerm_eq, max_eq_left (by norm_num [eps]), ratio, eps]
      exact mul_le_mul_of_nonneg_left (by exact_mod_cast power) (by norm_num)
    have filled : 0 ≤ psiTerm (max (1 - 3 / 100) psiEpsilon) 1 :=
      psiTerm_nonneg (lt_of_lt_of_le psiEpsilon_pos (le_max_right _ _)) one_pos
    linarith only [emptied, filled, two_gt]

/-- A share between two and three percent makes the index that of significant drift. -/
lemma exists_share : ∃ r : ℝ, r ∈ Set.Icc (1 / 50 : ℝ) (3 / 100) ∧ shiftPsi r = 1 / 4 :=
  intermediate_value_Icc (by norm_num) continuous_shiftPsi.continuousOn
    ⟨shiftPsi_bounds.1.le, shiftPsi_bounds.2.le⟩

open scoped Numerals in
/-- The share from which on the index is that of significant drift. -/
noncomputable def driftShare : {r : ℝ // r ∈ Set.Icc (1 / 50) (3 / 100) ∧ shiftPsi r = 1 / 4} :=
  Classical.indefiniteDescription _ exists_share

end

section
variable {inner : List ℝ} {edge top : ℝ} {current : List ℝ}

/-- The index of a sample above the whole reference. -/
noncomputable def indexOf (values current : List ℝ) : ℝ :=
  psiSum Real.log (floored (proportions values (binEdges values defaultNBins)))
    (floored (proportions current (binEdges values defaultNBins)))

/-- Its value, from the counts below the last bin. -/
lemma Binned.indexOf_eq (binned : Binned values inner edge top) (nonempty : values ≠ [])
    (some : current ≠ []) (above : ∀ c ∈ current, top ≤ c) :
    ∃ lower : List ℕ, lower.length = inner.length ∧ lower.sum = values.countP (· < edge) ∧
      indexOf values current =
        (lower.map fun c : ℕ => emptiedTerm ((c : ℝ) / values.length)).sum +
          psiTerm (max (1 - shareBelow values) psiEpsilon) 1 := by
  obtain ⟨lower, size, total, own⟩ := binned.proportions_self nonempty
  refine ⟨lower, size, total, ?_⟩
  unfold indexOf
  rw [own, binned.proportions_above some above, ← size,
    ← @List.length_map _ _ lower (fun c : ℕ => (c : ℝ) / values.length), psiSum_shift,
    List.map_map]
  rfl

/-- Where much of the reference is below the last bin, the index is that of significant drift. -/
lemma Binned.significant_of_many (binned : Binned values inner edge top) (nonempty : values ≠ [])
    (some : current ≠ []) (above : ∀ c ∈ current, top ≤ c)
    (many : values.length ≤ 10 * values.countP (· < edge)) : 1 / 4 ≤ indexOf values current := by
  obtain ⟨lower, size, total, eq⟩ := binned.indexOf_eq nonempty some above
  have log_gt : 3 < Real.log 32 := by
    have power : Real.log 32 = 5 * Real.log 2 := by
      rw [show (32 : ℝ) = 2 ^ 5 by norm_num, Real.log_pow]
      norm_num
    linarith only [power, Real.log_two_gt_d9]
  have lines (cs : List ℕ) : Real.log 32 * ((cs.sum : ℝ) / values.length -
      cs.length * (32 * psiEpsilon)) ≤
        (cs.map fun c : ℕ => emptiedTerm ((c : ℝ) / values.length)).sum := by
    induction cs with
    | nil => simp
    | cons c cs ih =>
      have here := @line_le_emptiedTerm ((c : ℝ) / values.length)
      rw [List.map_cons, List.sum_cons, List.sum_cons, List.length_cons]
      refine le_trans (le_of_eq ?_) (add_le_add here ih)
      push_cast
      ring
  have few : (lower.length : ℝ) ≤ 9 := by
    rw [size]
    exact_mod_cast binned.size
  have rows : (0 : ℝ) < values.length := by exact_mod_cast List.length_pos_iff.mpr nonempty
  have share : (1 / 10 : ℝ) ≤ (lower.sum : ℝ) / values.length := by
    rw [total, le_div_iff₀ rows]
    have many : (values.length : ℝ) ≤ 10 * values.countP (· < edge) := by exact_mod_cast many
    linarith only [many]
  have filled : 0 ≤ psiTerm (max (1 - shareBelow values) psiEpsilon) 1 :=
    psiTerm_nonneg (lt_of_lt_of_le psiEpsilon_pos (le_max_right _ _)) one_pos
  have eps : (psiEpsilon : ℝ) = 1 / 1000000 := rfl
  have line := lines lower
  have low : (1 / 12 : ℝ) ≤ (lower.sum : ℝ) / values.length - lower.length * (32 * psiEpsilon) := by
    rw [eps]
    linarith only [share, few]
  have product : 3 * (1 / 12 : ℝ) ≤ Real.log 32 *
      ((lower.sum : ℝ) / values.length - lower.length * (32 * psiEpsilon)) :=
    mul_le_mul log_gt.le low (by norm_num) (by linarith only [log_gt])
  rw [eq]
  linarith only [line, product, filled]

/-- Where little of the reference is below the last bin, there is at most one bin below it. -/
lemma Binned.size_of_few (binned : Binned values inner edge top)
    (few : 10 * values.countP (· < edge) < values.length) : inner.length ≤ 1 := by
  match inner, binned with
  | [], _ => exact Nat.zero_le _
  | [_], _ => exact le_refl _
  | a :: b :: inner, binned =>
    exfalso
    have increasing := binned.increasing
    obtain ⟨i, le, same⟩ := (binned.mem b).mp (by simp)
    have first : a = decile values 0 := binned.low_eq.trans decile_ends.1.symm
    have a_lt : a < b := List.rel_of_pairwise_cons increasing (by simp)
    have b_lt : b < edge :=
      List.rel_of_pairwise_cons (List.pairwise_cons.mp increasing).2 (by simp)
    have pos : 1 ≤ i := by
      rw [Nat.one_le_iff_ne_zero]
      rintro rfl
      rw [same, first] at a_lt
      exact lt_irrefl _ a_lt
    have beyond := le_decile few pos le
    rw [← same] at beyond
    exact absurd b_lt (not_lt.mpr beyond)

/-- Then the index is determined by the share below the last bin. -/
lemma Binned.indexOf_of_few (binned : Binned values inner edge top) (nonempty : values ≠ [])
    (some : current ≠ []) (above : ∀ c ∈ current, top ≤ c)
    (few : 10 * values.countP (· < edge) < values.length) :
    indexOf values current = shiftPsi (shareBelow values) := by
  obtain ⟨lower, size, total, eq⟩ := binned.indexOf_eq nonempty some above
  have short := binned.size_of_few few
  rw [← size] at short
  rw [eq]
  unfold shiftPsi
  congr 1
  match lower with
  | [] =>
    have none : shareBelow values = 0 := by
      rw [binned.shareBelow_eq, ← total]
      simp
    have floor : max (0 : ℝ) psiEpsilon = psiEpsilon := max_eq_right psiEpsilon_pos.le
    rw [none]
    unfold emptiedTerm
    rw [floor, psiTerm_self]
    rfl
  | [c] =>
    rw [binned.shareBelow_eq, ← total]
    simp
  | _ :: _ :: _ => exact absurd short (by simp)

/-- One bin holds every sample. -/
lemma proportions_of_one {sample : List ℝ} {edges : BinEdges ℝ} (one : edges.edges.length = 2) :
    proportions sample edges = [1] := by
  have size : (binCounts sample edges).length = edges.edges.length - 1 := length_binCounts
  rw [one] at size
  obtain ⟨c, counts⟩ := List.length_eq_one_iff.mp size
  unfold proportions
  rw [counts]
  dsimp only
  split
  · simp
  · rename_i counted
    rw [List.map_singleton, List.sum_singleton, div_self]
    intro zero
    rw [List.sum_singleton, zero] at counted
    exact counted (le_refl _)

/-- A sample whose deciles are equal has one bin. -/
lemma edges_of_constant (constant : (NumPy.unique ((linspace 0 1 (defaultNBins + 1)).map
    (quantile values))).length < 2) : (binEdges values defaultNBins).edges.length = 2 := by
  unfold binEdges
  dsimp only
  rw [dif_neg (not_le.mpr constant)]
  rfl

/-- Nothing of it is below the last bin. -/
lemma shareBelow_of_constant (constant : (NumPy.unique ((linspace 0 1 (defaultNBins + 1)).map
    (quantile values))).length < 2) : shareBelow values = 0 := by
  have same {e e' : ℝ}
      (mem : e ∈ NumPy.unique ((linspace 0 1 (defaultNBins + 1)).map (quantile values)))
      (mem' : e' ∈ NumPy.unique ((linspace 0 1 (defaultNBins + 1)).map (quantile values))) : e = e' := by
    generalize NumPy.unique ((linspace 0 1 (defaultNBins + 1)).map (quantile values)) = edges at *
    cases edges with
    | nil => cases mem
    | cons a edges =>
      cases edges with
      | nil => rw [List.mem_singleton.mp mem, List.mem_singleton.mp mem']
      | cons b edges => exact absurd constant (by simp)
  have none : (values.countP fun v => (List.range 10).any fun i =>
      decide (v < decile values i ∧ decile values i < quantile values 1)) = 0 := by
    rw [List.countP_eq_zero]
    intro v _ found
    obtain ⟨i, mem, between⟩ := List.any_eq_true.mp found
    obtain ⟨-, under⟩ := of_decide_eq_true between
    rw [← decile_ends.2, same (mem_quantiles.mpr ⟨i, (List.mem_range.mp mem).le, rfl⟩)
      (mem_quantiles.mpr ⟨10, le_refl _, rfl⟩)] at under
    exact lt_irrefl _ under
  unfold shareBelow
  rw [none, Nat.cast_zero, zero_div]

/-- The index of a constant is zero. -/
lemma indexOf_of_one (one : (binEdges values defaultNBins).edges.length = 2) :
    indexOf values current = 0 := by
  unfold indexOf
  rw [proportions_of_one one, proportions_of_one one]
  exact (psiSum_eq_zero_iff rfl floored_pos floored_pos).mpr rfl

/-- The index of a sample above the whole reference is that of significant drift exactly where a
certain share of the reference has a decile between it and the greatest value. -/
lemma indexOf_iff (nonempty : values ≠ []) (some : current ≠ [])
    (above : ∀ c ∈ current, ∀ v ∈ values, v < c) :
    1 / 4 ≤ indexOf values current ↔ driftShare.1 ≤ shareBelow values := by
  obtain ⟨r, mem, bound⟩ := driftShare
  dsimp only
  obtain constant | two := lt_or_ge
    (NumPy.unique ((linspace 0 1 (defaultNBins + 1)).map (quantile values))).length 2
  · rw [indexOf_of_one (edges_of_constant constant), shareBelow_of_constant constant]
    have low := mem.1
    exact iff_of_false (by norm_num) (by linarith only [low])
  · obtain ⟨inner, edge, top, binned⟩ := exists_binned nonempty two
    have beyond : ∀ c ∈ current, top ≤ c := fun c mem => by
      rw [binned.top_eq]
      exact (above c mem _ (quantiles_mem nonempty).2).le
    have rows : (0 : ℝ) < values.length := by exact_mod_cast List.length_pos_iff.mpr nonempty
    obtain many | few := le_or_gt values.length (10 * values.countP (· < edge))
    · refine iff_of_true (binned.significant_of_many nonempty some beyond many) ?_
      rw [binned.shareBelow_eq, le_div_iff₀ rows]
      have many : (values.length : ℝ) ≤ 10 * values.countP (· < edge) := by exact_mod_cast many
      have part := mul_le_mul_of_nonneg_right mem.2 rows.le
      linarith only [many, part, rows]
    · rw [binned.indexOf_of_few nonempty some beyond few, ← bound]
      have few : 10 * (values.countP (· < edge) : ℝ) < values.length := by exact_mod_cast few
      have low : 0 ≤ shareBelow values := by
        rw [binned.shareBelow_eq]
        exact div_nonneg (Nat.cast_nonneg _) rows.le
      have high : shareBelow values < 1 / 10 := by
        rw [binned.shareBelow_eq, div_lt_iff₀ rows]
        linarith only [few]
      constructor
      · intro le
        by_contra less
        have top_r := mem.2
        exact absurd (shiftPsi_lt low (not_le.mp less) (by linarith only [top_r])) (not_lt.mpr le)
      · intro le
        obtain rfl | less := le.eq_or_lt
        · exact le_refl _
        · have low_r := mem.1
          exact (shiftPsi_lt (by linarith only [low_r]) less (by linarith only [high])).le

end

end

/-- Significant drift begins at the upper threshold. -/
lemma classifyPsi_significant {psi : ℝ} :
    classifyPsi psi defaultPsiThresholds = .significant ↔ 1 / 4 ≤ psi := by
  unfold classifyPsi defaultPsiThresholds
  dsimp only
  split
  · rename_i small
    exact iff_of_false (by simp) (by linarith only [small])
  · split
    · rename_i moderate
      exact iff_of_false (by simp) (not_le.mpr moderate)
    · rename_i large
      exact iff_of_true rfl (not_lt.mp large)

/-- What is compared of a column that is there. -/
lemma column_of_get? {frame : Frame ℝ} {name col} (there : frame.columns.get? name = some col) :
    frame.column name = col := by
  unfold Frame.column
  rw [there]
  rfl

/-- A feature whose current values all exceed all reference values is classified as significant drift
exactly where at least a certain share of the reference has a decile between it and the greatest
value. -/
theorem fullShift_significant {sqrt : ℝ → ℝ} {x : Sample ℝ} {names mv fsv} {ref : Frame ℝ}
    (named : names ≠ []) (accepted : asFrame x names = .ok ref) (rows : ref.height ≠ 0) :
    ∃ baseline, freezeBaseline sqrt x names mv fsv defaultNBins = .ok baseline ∧
      ∀ x' cur mv' previous current, currentFrame x' baseline = .ok cur →
        ∀ name ∈ names, ∀ col col', ref.columns.get? name = some col →
          cur.columns.get? name = some col' → col' ≠ [] →
          (∀ c ∈ col', ∀ v ∈ col, v < c) →
          ∃ report, detectDrift Real.log sqrt x' baseline mv' none previous current =
              .ok report ∧
            (∃ r ∈ report.featureReports, r.featureName = name) ∧
            ∀ r ∈ report.featureReports, r.featureName = name →
              (r.classification = .significant ↔ driftShare.1 ≤ shareBelow col) := by
  refine ⟨_, freezeBaseline_eq named (by decide) accepted rows, ?_⟩
  intro x' cur mv' previous current compared name mem col col' in_ref in_cur some above
  have has : cur.columns.contains name = true := by
    unfold Dict.contains
    rw [in_cur]
    rfl
  have rows' : cur.height ≠ 0 := by
    rw [← cur.aligned name col' in_cur]
    exact fun none => some (List.length_eq_zero_iff.mp none)
  have nonempty : col ≠ [] := by
    rintro rfl
    exact rows (ref.aligned name [] in_ref).symm
  obtain ⟨report, detected, -, reports⟩ :=
    @detectDrift_frozen ℝ _ _ _ _ Real.log sqrt x' names mv fsv defaultNBins ref mv' none previous
      current cur compared rows' name mem has
  refine ⟨report, detected, ?_, ?_⟩
  · rw [reports]
    exact ⟨_, List.mem_map_of_mem (List.mem_filter.mpr ⟨mem, has⟩), rfl⟩
  · intro r mem_r same
    rw [reports] at mem_r
    obtain ⟨name', -, rfl⟩ := List.mem_map.mp mem_r
    obtain rfl : name' = name := same
    refine classifyPsi_significant.trans ?_
    unfold frozenPsi
    rw [column_of_get? in_ref, column_of_get? in_cur]
    exact indexOf_iff nonempty some above

/-- Two latencies of which the first has deciles above it, and later ones above both. -/
theorem fullShift_significant_two :
    ∃ baseline, freezeBaseline (fun r => r) (.matrix 2 [⟨[(1 : ℝ), 2], rfl⟩]) ["latency_ms"] "1" "1"
        defaultNBins = .ok baseline ∧
      ∃ report, detectDrift Real.log (fun r => r) (.matrix 1 [⟨[3], rfl⟩]) baseline none none none
          none = .ok report ∧
        ∀ r ∈ report.featureReports, r.featureName = "latency_ms" →
          (r.classification = .significant ↔ driftShare.1 ≤ shareBelow [1, 2]) := by
  obtain ⟨baseline, frozen, shifts⟩ := @fullShift_significant (fun r => r)
    (.matrix 2 [⟨[1, 2], rfl⟩]) ["latency_ms"] "1" "1" _ (by decide) rfl (by decide)
  have compared : currentFrame (.matrix 1 [⟨[3], rfl⟩]) baseline =
      .ok (.ofMatrix ["latency_ms"] 1 [⟨[3], rfl⟩]) := by
    cases frozen
    rfl
  obtain ⟨report, detected, -, classified⟩ := shifts _ _ none none none compared "latency_ms"
    (by decide) [1, 2] [3] rfl rfl (by simp) (by norm_num)
  exact ⟨baseline, frozen, report, detected, classified⟩

/-- The comparison of two samples of one feature. -/
noncomputable def compareFeature (ref cur : List ℝ) : Except String (DriftReport ℝ) := do
  let baseline ← freezeBaseline Real.sqrt (.matrix ref.length [⟨ref, rfl⟩]) ["latency_ms"] "1" "1"
    defaultNBins
  detectDrift Real.log Real.sqrt (.matrix cur.length [⟨cur, rfl⟩]) baseline none none none none

/-- One value has one bin. -/
lemma edges_of_singleton {v : ℝ} : (binEdges [v] defaultNBins).edges.length = 2 := by
  have nonempty : [v] ≠ [] := by simp
  have same {i : ℕ} (le : i ≤ 10) : decile [v] i = v := by
    obtain ⟨low, high⟩ := decile_between nonempty le
    obtain ⟨first, last⟩ := quantiles_mem nonempty
    rw [List.mem_singleton.mp first] at low
    rw [List.mem_singleton.mp last] at high
    exact le_antisymm high low
  refine edges_of_constant (not_le.mp fun two => ?_)
  obtain ⟨inner, edge, top, binned⟩ := exists_binned nonempty two
  have less : edge < top :=
    List.rel_of_pairwise_cons (List.pairwise_append.mp binned.increasing).2.1
      (List.mem_singleton.mpr rfl)
  obtain ⟨i, le, rfl⟩ := (binned.mem edge).mp (by simp)
  obtain ⟨j, le', rfl⟩ := (binned.mem top).mp (by simp)
  rw [same le, same le'] at less
  exact lt_irrefl _ less

/-- A latency that was 1 in the whole reference and is 2 now is not reported as drift. -/
theorem not_fullShift_significant :
    ¬ ∀ ref cur : List ℝ, ref ≠ [] → cur ≠ [] → (∀ c ∈ cur, ∀ v ∈ ref, v < c) →
      ∃ report, compareFeature ref cur = .ok report ∧
        ∀ r ∈ report.featureReports, r.classification = .significant := by
  intro claim
  obtain ⟨report, compared, significant⟩ := claim [1] [2] (by simp) (by simp) (by norm_num)
  unfold compareFeature at compared
  have frozen := @freezeBaseline_eq ℝ _ _ _ _ Real.sqrt (.matrix 1 [⟨[1], rfl⟩]) ["latency_ms"]
    "1" "1" defaultNBins _ (by decide) (by decide) rfl (by decide)
  obtain ⟨report', detected, -, reports⟩ := @detectDrift_frozen ℝ _ _ _ _ Real.log Real.sqrt
    (.matrix 1 [⟨[2], rfl⟩]) ["latency_ms"] "1" "1" defaultNBins
    (.ofMatrix ["latency_ms"] 1 [⟨[1], rfl⟩]) none none none none _ rfl (by decide) "latency_ms"
    (by decide) rfl
  have both := (congrArg (· >>= fun baseline => detectDrift Real.log Real.sqrt
    (.matrix 1 [⟨[2], rfl⟩]) baseline none none none none) frozen).symm.trans compared
  obtain rfl : report' = report := Except.ok.inj (detected.symm.trans both)
  have zero : frozenPsi Real.log (.ofMatrix ["latency_ms"] 1 [⟨[1], rfl⟩])
      (.ofMatrix ["latency_ms"] 1 [⟨[2], rfl⟩]) defaultNBins "latency_ms" = 0 :=
    @indexOf_of_one [1] [2] edges_of_singleton
  have drifts := significant (frozenReport Real.log Real.sqrt
    (.ofMatrix ["latency_ms"] 1 [⟨[1], rfl⟩]) (.ofMatrix ["latency_ms"] 1 [⟨[2], rfl⟩])
    defaultNBins defaultPsiThresholds "latency_ms") (by rw [reports]; exact List.mem_cons_self)
  unfold frozenReport at drifts
  rw [zero] at drifts
  exact absurd (classifyPsi_significant.mp drifts) (by norm_num)

end SentinelOps.Ml
