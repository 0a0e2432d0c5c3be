import Mathlib.Algebra.Order.Floor.Semiring
import Mathlib.Algebra.Order.Field.Basic
import Mathlib.Data.List.Sort
import Mathlib.Data.List.Dedup
import Mathlib.Tactic.Linarith
import Mathlib.Tactic.FieldSimp

/-!
# Functions on samples

What NumPy computes of a sample, the list of its values, in exact arithmetic: quantiles with linear
interpolation, the distinct values in order, clipping, the counts of a histogram, and broadcasting.
A quantile lies between the values whose ranks are next to it (`le_quantile`); the counts of a
histogram split a sample at the edges (`histogram_split`).
-/

namespace SentinelOps.NumPy

section
variable {F : Type*} [LinearOrder F] {values : List F}

/-- The values of a sample in order. -/
def sorted (values : List F) : List F := values.insertionSort (· ≤ ·)

/-- `np.unique`. -/
def unique (values : List F) : List F := sorted values.dedup

/-- `np.clip`. -/
def clip (low high : F) (values : List F) : List F := values.map fun v => min (max v low) high

/-- The counts of `np.histogram`: a bin holds its lower edge, the last one the upper edge too. -/
def histogram (values : List F) : List F → List ℕ
  | [] => []
  | [_] => []
  | [low, high] => [values.countP fun v => low ≤ v ∧ v ≤ high]
  | low :: high :: edges =>
    (values.countP fun v => low ≤ v ∧ v < high) :: histogram values (high :: edges)

/-- Two arrays broadcast together: an array of one element goes with every element of the other. -/
def broadcast {α β : Type*} (xs : List α) (ys : List β) : Except String (List (α × β)) :=
  if xs.length = ys.length then .ok (xs.zip ys)
  else
    match xs, ys with
    | [x], ys => .ok (ys.map fun y => (x, y))
    | xs, [y] => .ok (xs.map fun x => (x, y))
    | xs, ys => .error ("operands could not be broadcast together with shapes (" ++
        toString xs.length ++ ",) (" ++ toString ys.length ++ ",) ")

/-- Arrays of one length go together element by element. -/
lemma broadcast_zip {α β : Type*} {xs : List α} {ys : List β} (same : xs.length = ys.length) :
    broadcast xs ys = .ok (xs.zip ys) :=
  if_pos same

/-- The sorted values are those of the sample. -/
lemma mem_sorted {v : F} : v ∈ sorted values ↔ v ∈ values := by
  unfold sorted
  rw [List.mem_insertionSort]

/-- As many values. -/
lemma length_sorted : (sorted values).length = values.length := by
  unfold sorted
  rw [List.length_insertionSort]

/-- The sorted values do not decrease. -/
lemma pairwise_sorted : (sorted values).Pairwise (· ≤ ·) := by
  have total : Std.Total fun a b : F => a ≤ b := ⟨le_total⟩
  have transitive : IsTrans F fun a b => a ≤ b := ⟨fun _ _ _ => le_trans⟩
  exact List.pairwise_insertionSort _ _

/-- The order of ranks. -/
lemma sorted_getD_mono {i j : ℕ} {d : F} (le : i ≤ j) (inside : j < values.length) :
    (sorted values)[i]?.getD d ≤ (sorted values)[j]?.getD d := by
  rw [← length_sorted] at inside
  rw [List.getElem?_eq_getElem (le.trans_lt inside), List.getElem?_eq_getElem inside]
  obtain rfl | less := le.eq_or_lt
  · exact le_refl _
  · exact List.pairwise_iff_getElem.mp pairwise_sorted i j _ inside less

/-- The value at a rank is one of the sample. -/
lemma getD_sorted_mem {i : ℕ} (inside : i < values.length) {d : F} :
    (sorted values)[i]?.getD d ∈ values := by
  rw [← length_sorted] at inside
  rw [List.getElem?_eq_getElem inside]
  exact mem_sorted.mp (List.getElem_mem inside)

/-- A value has a rank. -/
lemma exists_rank {v d : F} (mem : v ∈ values) :
    ∃ i < values.length, (sorted values)[i]?.getD d = v := by
  obtain ⟨i, inside, here⟩ := List.getElem_of_mem (mem_sorted.mpr mem)
  refine ⟨i, inside.trans_eq length_sorted, ?_⟩
  rw [List.getElem?_eq_getElem inside]
  exact here

/-- The distinct values are those of the sample. -/
lemma mem_unique {v : F} : v ∈ unique values ↔ v ∈ values := by
  unfold unique
  rw [mem_sorted, List.mem_dedup]

/-- The distinct values increase. -/
lemma pairwise_unique : (unique values).Pairwise (· < ·) := by
  have distinct : (unique values).Nodup :=
    (List.perm_insertionSort _ _).nodup_iff.mpr (List.nodup_dedup _)
  exact (pairwise_sorted.and distinct).imp fun h => lt_of_le_of_ne h.1 h.2

/-- No more distinct values than values. -/
lemma length_unique_le : (unique values).length ≤ values.length := by
  unfold unique
  rw [length_sorted]
  exact (List.dedup_sublist _).length_le

/-- Values inside the bounds are not clipped. -/
lemma clip_of_mem {low high : F} (inside : ∀ v ∈ values, low ≤ v ∧ v ≤ high) :
    clip low high values = values := by
  unfold clip
  refine (List.map_congr_left fun v mem => ?_).trans (List.map_id _)
  rw [max_eq_left (inside v mem).1, min_eq_left (inside v mem).2]
  rfl

/-- Values above the bounds become the upper one. -/
lemma clip_of_above {low high : F} (wide : low ≤ high) (above : ∀ v ∈ values, high ≤ v) :
    clip low high values = List.replicate values.length high := by
  unfold clip
  rw [@List.map_congr_left _ _ _ _ fun _ => high, List.map_const']
  intro v mem
  rw [max_eq_left (wide.trans (above v mem)), min_eq_right (above v mem)]

end

section
variable {F : Type*} [Field F]

/-- `np.linspace`. -/
def linspace (start stop : F) (num : ℕ) : List F :=
  (List.range num).map fun i : ℕ => start + i * ((stop - start) / (num - 1))

/-- `np.mean`. -/
def mean (values : List F) : F := values.sum / values.length

/-- `np.std`. -/
def std (sqrt : F → F) (values : List F) : F :=
  sqrt (mean (values.map fun v => (v - mean values) ^ 2))

variable [LinearOrder F] [FloorSemiring F]

/-- `np.quantile`, which interpolates between the values next to the rank. -/
def quantile (values : List F) (q : F) : F :=
  let rank := q * (values.length - 1)
  let below := ⌊rank⌋₊
  let low := (sorted values)[below]?.getD 0
  let high := (sorted values)[min (below + 1) (values.length - 1)]?.getD 0
  low + (high - low) * (rank - below)

variable {values : List F} {q : F}

variable [IsStrictOrderedRing F]

/-- The rank of a quantile. -/
lemma rank_lt (nonempty : values ≠ []) (low : 0 ≤ q) (le : q ≤ 1) :
    ⌊q * ((values.length : F) - 1)⌋₊ < values.length := by
  have some : (1 : F) ≤ values.length := by
    exact_mod_cast List.length_pos_iff.mpr nonempty
  rw [Nat.floor_lt (mul_nonneg low (sub_nonneg.mpr some))]
  calc q * ((values.length : F) - 1) ≤ 1 * ((values.length : F) - 1) :=
        mul_le_mul_of_nonneg_right le (sub_nonneg.mpr some)
    _ < values.length := by linarith only

/-- The rank of a quantile is not negative. -/
lemma rank_nonneg (nonempty : values ≠ []) (low : 0 ≤ q) :
    0 ≤ q * ((values.length : F) - 1) := by
  have some : (1 : F) ≤ values.length := by
    exact_mod_cast List.length_pos_iff.mpr nonempty
  exact mul_nonneg low (sub_nonneg.mpr some)

/-- A quantile lies between the value at the rank below it and the greatest one. -/
lemma quantile_mem (nonempty : values ≠ []) (low : 0 ≤ q) (le : q ≤ 1) :
    (sorted values)[⌊q * ((values.length : F) - 1)⌋₊]?.getD 0 ≤ quantile values q ∧
      quantile values q ≤ (sorted values)[values.length - 1]?.getD 0 := by
  have below := rank_lt nonempty low le
  have rise := @sorted_getD_mono F _ values _ (min (⌊q * ((values.length : F) - 1)⌋₊ + 1)
    (values.length - 1)) 0 (le_min (Nat.le_succ _) (Nat.le_sub_one_of_lt below)) (by omega)
  have top := @sorted_getD_mono F _ values (min (⌊q * ((values.length : F) - 1)⌋₊ + 1)
    (values.length - 1)) (values.length - 1) 0 (min_le_right _ _) (by omega)
  have floor_le := Nat.floor_le (rank_nonneg nonempty low)
  have lt_floor := Nat.lt_floor_add_one (q * ((values.length : F) - 1))
  have share := sub_nonneg.mpr rise
  unfold quantile
  dsimp only
  constructor
  · exact le_add_of_nonneg_right (mul_nonneg share (sub_nonneg.mpr floor_le))
  · refine le_trans ?_ top
    have part := mul_le_of_le_one_right share (sub_le_iff_le_add'.mpr lt_floor.le)
    linarith only [part]

/-- The first quantile is the least value. -/
lemma quantile_zero : quantile values 0 = (sorted values)[0]?.getD 0 := by
  unfold quantile
  simp

/-- The last quantile is the greatest value. -/
lemma quantile_one (nonempty : values ≠ []) :
    quantile values 1 = (sorted values)[values.length - 1]?.getD 0 := by
  have rank : (1 : F) * ((values.length : F) - 1) = ((values.length - 1 : ℕ) : F) := by
    rw [one_mul, Nat.cast_sub (List.length_pos_iff.mpr nonempty), Nat.cast_one]
  unfold quantile
  dsimp only
  rw [rank, Nat.floor_natCast, sub_self, mul_zero, add_zero]

/-- Every value lies between the first and the last quantile. -/
lemma quantiles_bound {v : F} (mem : v ∈ values) :
    quantile values 0 ≤ v ∧ v ≤ quantile values 1 := by
  have nonempty := List.ne_nil_of_mem mem
  obtain ⟨i, inside, rfl⟩ := @exists_rank F _ values v 0 mem
  rw [quantile_zero, quantile_one nonempty]
  exact ⟨sorted_getD_mono (Nat.zero_le i) inside,
    sorted_getD_mono (Nat.le_sub_one_of_lt inside) (by omega)⟩

/-- The first and the last quantile are values. -/
lemma quantiles_mem (nonempty : values ≠ []) :
    quantile values 0 ∈ values ∧ quantile values 1 ∈ values := by
  have some := List.length_pos_iff.mpr nonempty
  rw [quantile_zero, quantile_one nonempty]
  exact ⟨getD_sorted_mem some, getD_sorted_mem (by omega)⟩

/-- Every quantile lies between the first and the last one. -/
lemma quantile_between (nonempty : values ≠ []) (low : 0 ≤ q) (le : q ≤ 1) :
    quantile values 0 ≤ quantile values q ∧ quantile values q ≤ quantile values 1 := by
  obtain ⟨beyond, under⟩ := quantile_mem nonempty low le
  rw [quantile_zero, quantile_one nonempty]
  exact ⟨(sorted_getD_mono (Nat.zero_le _) (rank_lt nonempty low le)).trans beyond, under⟩

end

section
variable {F : Type*} [LinearOrder F] {values : List F} {edge top : F}

/-- As many values are below an edge as its rank says: the value at that rank is not below it. -/
lemma le_sorted_countP {d : F} (inside : values.countP (· < edge) < values.length) :
    edge ≤ (sorted values)[values.countP (· < edge)]?.getD d := by
  by_contra low
  rw [not_le] at low
  generalize count : values.countP (· < edge) = n at inside low
  have counted : (sorted values).countP (· < edge) = n := by
    rw [← count]
    exact (List.perm_insertionSort _ _).countP_eq _
  have all : ∀ v ∈ (sorted values).take (n + 1), (decide (v < edge)) = true := by
    intro v mem
    obtain ⟨i, at_i, rfl⟩ := List.getElem_of_mem mem
    rw [List.length_take] at at_i
    rw [List.getElem_take]
    have mono := @sorted_getD_mono F _ values i n d (by omega) inside
    rw [List.getElem?_eq_getElem (by omega)] at mono
    exact decide_eq_true (mono.trans_lt low)
  have more : ((sorted values).take (n + 1)).countP (· < edge) ≤
      (sorted values).countP (· < edge) := (List.take_sublist _ _).countP_le
  rw [List.countP_eq_length.mpr all, counted, List.length_take, length_sorted] at more
  omega

/-- Values in one of two disjoint ranges are counted once. -/
lemma countP_add {α : Type*} {values : List α} {p q r : α → Bool}
    (apart : ∀ v, ¬ (p v = true ∧ q v = true))
    (covers : ∀ v, r v = true ↔ p v = true ∨ q v = true) :
    values.countP p + values.countP q = values.countP r := by
  induction values with
  | nil => rfl
  | cons v values ih =>
    rw [List.countP_cons, List.countP_cons, List.countP_cons, ← ih]
    have once := apart v
    have here : r v = (p v || q v) := by
      rw [Bool.eq_iff_iff, covers, Bool.or_eq_true]
    rw [here]
    cases here_p : p v <;> cases here_q : q v
    · rfl
    · exact (add_assoc _ _ _).symm
    · exact add_right_comm _ _ _
    · exact absurd ⟨here_p, here_q⟩ once

/-- The first of several bins does not hold its upper edge. -/
lemma histogram_cons {low high next : F} {edges : List F} :
    histogram values (low :: high :: next :: edges) =
      (values.countP fun v => low ≤ v ∧ v < high) :: histogram values (high :: next :: edges) := rfl

/-- A histogram has a bin for each edge but one. -/
lemma length_histogram {edges : List F} :
    (histogram values edges).length = edges.length - 1 := by
  induction edges with
  | nil => rfl
  | cons low edges ih =>
    match edges with
    | [] => rfl
    | [high] => rfl
    | high :: next :: edges =>
      rw [histogram_cons, List.length_cons, ih]
      rfl

/-- The order of a sample does not matter to its histogram. -/
lemma histogram_perm {edges values' : List F} (same : values.Perm values') :
    histogram values edges = histogram values' edges := by
  induction edges with
  | nil => rfl
  | cons low edges ih =>
    match edges with
    | [] => rfl
    | [high] => rw [histogram, histogram, same.countP_eq]
    | high :: next :: edges => rw [histogram_cons, histogram_cons, ih, same.countP_eq]

/-- The last bin of a histogram and the bins below it, which hold the values below its lower edge. -/
lemma histogram_split {edges : List F} (increasing : (edges ++ [edge, top]).Pairwise (· < ·)) :
    ∃ lower, histogram values (edges ++ [edge, top]) =
        lower ++ [values.countP fun v => edge ≤ v ∧ v ≤ top] ∧
      lower.length = edges.length ∧
      lower.sum = values.countP fun v => edges.headD edge ≤ v ∧ v < edge := by
  induction edges with
  | nil =>
    refine ⟨[], rfl, rfl, ?_⟩
    rw [List.sum_nil, eq_comm, List.countP_eq_zero]
    intro v _ both
    have both := of_decide_eq_true both
    exact absurd both.1 (not_le.mpr both.2)
  | cons low edges ih =>
    obtain ⟨first, increasing⟩ := List.pairwise_cons.mp increasing
    obtain ⟨lower, split, size, total⟩ := ih increasing
    have next_le : edges.headD edge ≤ edge := by
      cases edges with
      | nil => exact le_refl _
      | cons next edges =>
        exact (List.rel_of_pairwise_cons increasing (by simp)).le
    have low_lt : low < edges.headD edge := by
      cases edges with
      | nil => exact first edge (by simp)
      | cons next edges => exact first next (by simp)
    refine ⟨(values.countP fun v => low ≤ v ∧ v < edges.headD edge) :: lower, ?_, ?_, ?_⟩
    · rw [List.cons_append, List.cons_append, ← split]
      cases edges with
      | nil => rfl
      | cons next edges => cases edges <;> rfl
    · rw [List.length_cons, List.length_cons, size]
    · rw [List.sum_cons, total]
      refine countP_add ?_ ?_
      · intro v both
        have here := of_decide_eq_true both.1
        have there := of_decide_eq_true both.2
        exact absurd there.1 (not_le.mpr here.2)
      · intro v
        rw [decide_eq_true_iff, decide_eq_true_iff, decide_eq_true_iff, List.headD_cons]
        constructor
        · rintro ⟨beyond, under⟩
          obtain less | more := lt_or_ge v (edges.headD edge)
          · exact .inl ⟨beyond, less⟩
          · exact .inr ⟨more, under⟩
        · rintro (⟨beyond, less⟩ | ⟨more, under⟩)
          · exact ⟨beyond, less.trans_le next_le⟩
          · exact ⟨low_lt.le.trans more, under⟩

end

end SentinelOps.NumPy
