import Mathlib.Algebra.Order.Field.Basic
import Mathlib.Data.List.Dedup
import Mathlib.Data.List.Sort
import Mathlib.Data.Prod.Lex
import Mathlib.Tactic.FieldSimp
import Mathlib.Tactic.Linarith
import Mathlib.Tactic.NormNum
import Mathlib.Tactic.Positivity

/-!
# Threshold calibration

`calibrateThreshold` tries the thresholds of a grid: one between every two scores, one below and one
above all of them. Each threshold predicts like some point of the grid (`exists_mem_grid`), so the
best point of the grid is the best threshold (`calibrateThreshold_optimal`). Scores are elements of
an ordered field.
-/

namespace SentinelOps

section Keep

variable {α κ : Type*} [LinearOrder κ] (key : α → κ)

/-- One step of the search for the greatest key; an equal key does not replace the best one. -/
def keepBest (best : κ × α) (a : α) : κ × α := if best.1 < key a then (key a, a) else best

/-- The search ends with a greatest key, which is that of an element or the one it started with. -/
lemma foldl_keepBest (l : List α) (best : κ × α) :
    best.1 ≤ (l.foldl (keepBest key) best).1 ∧
      (∀ a ∈ l, key a ≤ (l.foldl (keepBest key) best).1) ∧
      (l.foldl (keepBest key) best = best ∨
        ∃ a ∈ l, l.foldl (keepBest key) best = (key a, a)) := by
  induction l generalizing best with
  | nil => exact ⟨le_refl _, nofun, .inl rfl⟩
  | cons a l ih =>
    obtain ⟨grows, above, found⟩ := ih (keepBest key best a)
    have step : best.1 ≤ (keepBest key best a).1 ∧ key a ≤ (keepBest key best a).1 ∧
        (keepBest key best a = best ∨ keepBest key best a = (key a, a)) := by
      unfold keepBest
      split
      · rename_i better
        exact ⟨better.le, le_refl _, .inr rfl⟩
      · rename_i worse
        exact ⟨le_refl _, not_lt.mp worse, .inl rfl⟩
    obtain ⟨start, here, which⟩ := step
    rw [List.foldl_cons]
    refine ⟨start.trans grows, ?_, ?_⟩
    · intro x mem
      obtain rfl | later := List.mem_cons.mp mem
      · exact here.trans grows
      · exact above x later
    · obtain same | ⟨x, mem, same⟩ := found
      · rw [same]
        exact which.imp_right fun e => ⟨a, List.mem_cons_self, e⟩
      · exact .inr ⟨x, List.mem_cons_of_mem _ mem, same⟩

end Keep

namespace Ml

/-- How predictions compare with labels. -/
structure Confusion where
  tp : Nat
  fp : Nat
  fn : Nat
  tn : Nat

variable {K : Type*} [Field K] [LinearOrder K]

/-- The counts for one threshold: a score above it is predicted to be an anomaly. -/
def confusion (validation : List (K × Int)) (t : K) : Confusion where
  tp := validation.countP fun s => decide (t < s.1) && decide (s.2 = 1)
  fp := validation.countP fun s => decide (t < s.1) && decide (s.2 = 0)
  fn := validation.countP fun s => !decide (t < s.1) && decide (s.2 = 1)
  tn := validation.countP fun s => !decide (t < s.1) && decide (s.2 = 0)

namespace Confusion

variable (K) (c : Confusion)

/-- `tp / (tp + fp) if tp + fp else 0.0`. -/
def precision : K := if c.tp + c.fp = 0 then 0 else (c.tp : K) / (c.tp + c.fp)

/-- `tp / (tp + fn) if tp + fn else 0.0`. -/
def «recall» : K := if c.tp + c.fn = 0 then 0 else (c.tp : K) / (c.tp + c.fn)

/-- The harmonic mean of precision and recall, 0 without any. -/
def f1 : K :=
  if c.precision K + c.recall K = 0 then 0
  else 2 * c.precision K * c.recall K / (c.precision K + c.recall K)

/-- `fp / (fp + tn) if fp + tn else 0.0`. -/
def fpr : K := if c.fp + c.tn = 0 then 0 else (c.fp : K) / (c.fp + c.tn)

end Confusion

/-- What a threshold is chosen for. -/
inductive Objective where
  | f1
  | fpr
  deriving DecidableEq

/-- What is maximised, in the order of tuples. -/
def objectiveKey (objective : Objective) (targetFpr : K) (c : Confusion) : K ×ₗ K :=
  match objective with
  | .fpr => if c.fpr K ≤ targetFpr then toLex (1, c.recall K) else toLex (0, -c.fpr K)
  | .f1 => toLex (c.f1 K, -c.fpr K)

/-- `np.unique`. -/
def unique (scores : List K) : List K := scores.dedup.insertionSort (· ≤ ·)

/-- The midpoints, or the only candidate. -/
def midpoints (candidates : List K) : List K :=
  if 1 < candidates.length then
    List.zipWith (fun a b => (a + b) / 2) candidates.dropLast candidates.tail
  else candidates

/-- The thresholds that are tried, for candidates from `first` to `last`. -/
def grid (candidates : List K) (first last : K) : List K :=
  (first - 1 / 10 ^ 9) :: (midpoints candidates ++ [last + 1 / 10 ^ 9])

/-- `calibrate_threshold`. -/
def calibrateThreshold (objective : Objective) (targetFpr : K) (validation : List (K × Int)) : K :=
  match unique (validation.map Prod.fst) with
  | [] => 0
  | first :: rest =>
    let last := (first :: rest).getLast (List.cons_ne_nil _ _)
    ((grid (first :: rest) first last).foldl
      (keepBest fun t => objectiveKey objective targetFpr (confusion validation t))
      (toLex (-1, -1), last + 1 / 10 ^ 9)).2

section
variable [IsStrictOrderedRing K]

omit [Field K] [IsStrictOrderedRing K] in
/-- The candidates are the scores, in increasing order. -/
lemma mem_unique {scores : List K} {s : K} : s ∈ unique scores ↔ s ∈ scores := by
  unfold unique
  rw [List.mem_insertionSort, List.mem_dedup]

omit [Field K] [IsStrictOrderedRing K] in
/-- Between a candidate that is not above a threshold and one that is there are two neighbours. -/
lemma exists_neighbours {t first : K} {rest : List K} (below : first ≤ t)
    (above : ∃ s ∈ first :: rest, t < s) :
    ∃ before a b after, first :: rest = before ++ a :: b :: after ∧ a ≤ t ∧ t < b := by
  induction rest generalizing first with
  | nil =>
    obtain ⟨s, mem, more⟩ := above
    rw [List.mem_singleton.mp mem] at more
    exact absurd more (not_lt.mpr below)
  | cons second rest ih =>
    by_cases next : t < second
    · exact ⟨[], first, second, rest, rfl, below, next⟩
    · obtain ⟨s, mem, more⟩ := above
      have later : s ∈ second :: rest := by
        obtain rfl | later := List.mem_cons.mp mem
        · exact absurd more (not_lt.mpr below)
        · exact later
      obtain ⟨before, a, b, after, split, low, high⟩ := ih (not_lt.mp next) ⟨s, later, more⟩
      exact ⟨first :: before, a, b, after, by rw [split]; rfl, low, high⟩

omit [LinearOrder K] [IsStrictOrderedRing K] in
/-- The midpoint of two neighbours is tried. -/
lemma mem_midpoints {before after : List K} {a b : K} :
    (a + b) / 2 ∈ midpoints (before ++ a :: b :: after) := by
  have several : 1 < (before ++ a :: b :: after).length := by
    simp only [List.length_append, List.length_cons]
    omega
  unfold midpoints
  rw [if_pos several]
  clear several
  induction before with
  | nil => exact List.mem_cons_self
  | cons c before ih =>
    cases before with
    | nil => exact List.mem_cons_of_mem _ ih
    | cons d before => exact List.mem_cons_of_mem _ ih

/-- Every threshold predicts like one of the grid. -/
lemma exists_mem_grid {candidates rest : List K} {first last : K} (e : first :: rest = candidates)
    (sorted : candidates.Pairwise (· ≤ ·)) (greatest : ∀ s ∈ candidates, s ≤ last) (t : K) :
    ∃ t' ∈ grid candidates first last, ∀ s ∈ candidates, t < s ↔ t' < s := by
  have little : (0 : K) < 1 / 10 ^ 9 := by positivity
  have least : ∀ s ∈ candidates, first ≤ s := by
    subst e
    intro s mem
    obtain rfl | later := List.mem_cons.mp mem
    · exact le_refl _
    · exact (List.pairwise_cons.mp sorted).1 s later
  by_cases below : first ≤ t
  · by_cases above : ∃ s ∈ candidates, t < s
    · obtain ⟨before, a, b, after, split, low, high⟩ := exists_neighbours below (e ▸ above)
      rw [← e, split] at sorted ⊢
      refine ⟨(a + b) / 2, ?_, ?_⟩
      · exact List.mem_cons_of_mem _ (List.mem_append_left _ mem_midpoints)
      obtain ⟨-, tail, apart⟩ := List.pairwise_append.mp sorted
      obtain ⟨-, tail⟩ := List.pairwise_cons.mp tail
      intro s mem
      have side : s ≤ a ∨ b ≤ s := by
        rw [List.mem_append, List.mem_cons, List.mem_cons] at mem
        obtain early | rfl | rfl | late := mem
        · exact .inl (apart s early a List.mem_cons_self)
        · exact .inl (le_refl _)
        · exact .inr (le_refl _)
        · exact .inr ((List.pairwise_cons.mp tail).1 s late)
      constructor
      · intro more
        obtain early | late := side
        · exact absurd more (not_lt.mpr (early.trans low))
        · linarith
      · intro more
        obtain early | late := side
        · linarith
        · exact high.trans_le late
    · rw [not_exists] at above
      refine ⟨_, List.mem_cons_of_mem _ (List.mem_append_right _ (List.mem_singleton_self _)), ?_⟩
      intro s mem
      have most := greatest s mem
      constructor
      · exact fun more => absurd ⟨mem, more⟩ (above s)
      · intro more
        linarith
  · refine ⟨_, List.mem_cons_self, ?_⟩
    intro s mem
    have more := least s mem
    constructor
    · intro
      linarith
    · intro
      exact (not_le.mp below).trans_le more

omit [Field K] [IsStrictOrderedRing K] in
/-- Thresholds that predict alike have the same counts. -/
lemma confusion_congr {validation : List (K × Int)} {t t' : K}
    (same : ∀ s ∈ validation.map Prod.fst, t < s ↔ t' < s) :
    confusion validation t = confusion validation t' := by
  have each (s) (mem : s ∈ validation) : decide (t < s.1) = decide (t' < s.1) :=
    decide_eq_decide.mpr (same s.1 (List.mem_map_of_mem mem))
  unfold confusion
  congr 1 <;>
  · apply List.countP_congr
    intro s mem
    rw [each s mem]

namespace Confusion

variable (c : Confusion)

/-- The rates are not negative. -/
lemma rates_nonneg : 0 ≤ c.precision K ∧ 0 ≤ c.recall K ∧ 0 ≤ c.f1 K ∧ 0 ≤ c.fpr K := by
  have precision : 0 ≤ c.precision K := by
    unfold precision
    split
    · exact le_refl _
    · positivity
  have recalled : 0 ≤ c.recall K := by
    unfold Confusion.recall
    split
    · exact le_refl _
    · positivity
  refine ⟨precision, recalled, ?_, ?_⟩
  · unfold f1
    split
    · exact le_refl _
    · positivity
  · unfold fpr
    split
    · exact le_refl _
    · positivity

end Confusion

/-- Every key beats the one the search starts with. -/
lemma lt_objectiveKey {objective targetFpr} {c : Confusion} :
    (toLex (-1, -1) : K ×ₗ K) < objectiveKey objective targetFpr c := by
  obtain ⟨-, -, f1, -⟩ := c.rates_nonneg (K := K)
  rw [Prod.Lex.lt_iff]
  left
  cases objective with
  | f1 =>
    change (-1 : K) < c.f1 K
    linarith
  | fpr =>
    unfold objectiveKey
    dsimp only
    split
    · change (-1 : K) < 1
      linarith
    · change (-1 : K) < 0
      linarith

/-- No threshold has a greater key than the one that is chosen. -/
lemma objectiveKey_le {objective targetFpr} {validation : List (K × Int)} (some_ : validation ≠ [])
    (t : K) : objectiveKey objective targetFpr (confusion validation t) ≤
      objectiveKey objective targetFpr
        (confusion validation (calibrateThreshold objective targetFpr validation)) := by
  have covers (s) : s ∈ validation.map Prod.fst ↔ s ∈ unique (validation.map Prod.fst) :=
    mem_unique.symm
  have sorted : (unique (validation.map Prod.fst)).Pairwise (· ≤ ·) :=
    List.pairwise_insertionSort _ _
  unfold calibrateThreshold
  split
  · rename_i none_
    obtain ⟨s, rest, e⟩ := List.exists_cons_of_ne_nil some_
    have there := (covers s.1).mp (by rw [e]; exact List.mem_cons_self)
    rw [none_] at there
    cases there
  · rename_i first rest candidates
    rw [candidates] at sorted covers
    dsimp only
    have greatest : ∀ s ∈ first :: rest, s ≤ (first :: rest).getLast (List.cons_ne_nil _ _) :=
      fun s mem => sorted.rel_getLast mem
    obtain ⟨t', tried, alike⟩ := exists_mem_grid rfl sorted greatest t
    rw [confusion_congr fun s mem => alike s ((covers s).mp mem)]
    obtain ⟨-, above, found⟩ := foldl_keepBest
      (fun t => objectiveKey objective targetFpr (confusion validation t))
      (grid (first :: rest) first ((first :: rest).getLast (List.cons_ne_nil _ _)))
      (toLex (-1, -1), (first :: rest).getLast (List.cons_ne_nil _ _) + 1 / 10 ^ 9)
    have better := above t' tried
    obtain same | ⟨best, -, same⟩ := found
    · rw [same] at better
      exact absurd lt_objectiveKey (not_lt.mpr better)
    · rw [same] at better ⊢
      exact better

/-- The order of the keys for F1. -/
lemma f1Key_le {targetFpr : K} {c c' : Confusion}
    (h : objectiveKey .f1 targetFpr c ≤ objectiveKey .f1 targetFpr c') :
    c.f1 K ≤ c'.f1 K ∧ (c.f1 K = c'.f1 K → c'.fpr K ≤ c.fpr K) := by
  rw [Prod.Lex.le_iff] at h
  change c.f1 K < c'.f1 K ∨ c.f1 K = c'.f1 K ∧ -c.fpr K ≤ -c'.fpr K at h
  obtain less | ⟨same, lower⟩ := h
  · exact ⟨less.le, fun same => absurd same less.ne⟩
  · exact ⟨same.le, fun _ => neg_le_neg_iff.mp lower⟩

/-- The order of the keys for the false-positive rate. -/
lemma fprKey_le {targetFpr : K} {c c' : Confusion}
    (h : objectiveKey .fpr targetFpr c ≤ objectiveKey .fpr targetFpr c')
    (meets : c.fpr K ≤ targetFpr) :
    c'.fpr K ≤ targetFpr ∧ c.recall K ≤ c'.recall K := by
  unfold objectiveKey at h
  dsimp only at h
  rw [if_pos meets] at h
  split at h
  · rename_i meets'
    rw [Prod.Lex.le_iff] at h
    change (1 : K) < 1 ∨ (1 : K) = 1 ∧ c.recall K ≤ c'.recall K at h
    obtain less | ⟨-, more⟩ := h
    · exact absurd less (lt_irrefl _)
    · exact ⟨meets', more⟩
  · rw [Prod.Lex.le_iff] at h
    change (1 : K) < 0 ∨ (1 : K) = 0 ∧ c.recall K ≤ -c'.fpr K at h
    obtain less | ⟨same, -⟩ := h
    · exact absurd less (not_lt.mpr zero_le_one)
    · exact absurd same one_ne_zero

omit [IsStrictOrderedRing K] in
/-- Above all scores nothing is predicted. -/
lemma exists_fpr_eq_zero (validation : List (K × Int)) :
    ∃ t, (confusion validation t).fpr K = 0 := by
  have bound : ∃ t, ∀ s ∈ validation, s.1 ≤ t := by
    induction validation with
    | nil => exact ⟨0, nofun⟩
    | cons s validation ih =>
      obtain ⟨t, above⟩ := ih
      refine ⟨max s.1 t, ?_⟩
      intro x mem
      obtain rfl | later := List.mem_cons.mp mem
      · exact le_max_left _ _
      · exact (above x later).trans (le_max_right _ _)
  obtain ⟨t, above⟩ := bound
  have none_ : (confusion validation t).fp = 0 := by
    unfold confusion
    dsimp only
    rw [List.countP_eq_zero]
    intro s mem
    rw [Bool.and_eq_true, decide_eq_true_iff]
    exact fun both => absurd both.1 (not_lt.mpr (above s mem))
  refine ⟨t, ?_⟩
  unfold Confusion.fpr
  rw [none_]
  split <;> simp

/-- The calibrated threshold is optimal: for F1 no threshold has a greater F1, nor the same with a
lower false-positive rate; for the false-positive rate it meets the target, with the greatest recall
of those that do. -/
theorem calibrateThreshold_optimal {validation : List (K × Int)} (some_ : validation ≠ [])
    {targetFpr : K} :
    (∀ t, (confusion validation t).f1 K ≤
        (confusion validation (calibrateThreshold .f1 targetFpr validation)).f1 K) ∧
      (∀ t, (confusion validation t).f1 K =
          (confusion validation (calibrateThreshold .f1 targetFpr validation)).f1 K →
        (confusion validation (calibrateThreshold .f1 targetFpr validation)).fpr K ≤
          (confusion validation t).fpr K) ∧
      (0 ≤ targetFpr →
        (confusion validation (calibrateThreshold .fpr targetFpr validation)).fpr K ≤ targetFpr ∧
          ∀ t, (confusion validation t).fpr K ≤ targetFpr → (confusion validation t).recall K ≤
            (confusion validation (calibrateThreshold .fpr targetFpr validation)).recall K) := by
  refine ⟨fun t => (f1Key_le (objectiveKey_le some_ t)).1,
    fun t => (f1Key_le (objectiveKey_le some_ t)).2, fun nonneg => ⟨?_, ?_⟩⟩
  · obtain ⟨t, none_⟩ := exists_fpr_eq_zero validation
    exact (fprKey_le (objectiveKey_le some_ t) (none_.le.trans nonneg)).1
  · exact fun t meets => (fprKey_le (objectiveKey_le some_ t) meets).2

/-- Of two scores with their labels the midpoint separates the classes. -/
theorem calibrateThreshold_optimal_pair :
    calibrateThreshold .f1 0 [(1 / 5, 0), (4 / 5, 1)] = (1 / 2 : ℚ) ∧
      (confusion [(1 / 5, 0), (4 / 5, 1)] (0 : ℚ)).f1 ℚ ≤
        (confusion [(1 / 5, 0), (4 / 5, 1)]
          (calibrateThreshold .f1 0 [(1 / 5, 0), (4 / 5, 1)] : ℚ)).f1 ℚ :=
  ⟨by decide +kernel, (calibrateThreshold_optimal (by decide)).1 0⟩

end

end Ml

end SentinelOps
