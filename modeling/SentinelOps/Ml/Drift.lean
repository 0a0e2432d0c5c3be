import SentinelOps.Lib.NumPy
import SentinelOps.Lib.Numerals
import SentinelOps.Lib.Dict
import SentinelOps.Lib.Fallible
import SentinelOps.Lib.PyText
import Mathlib.Algebra.Order.Floor.Ring

/-!
# Drift of features

`freezeBaseline` bins the training features at their quantiles, and `detectDrift` compares a later
sample with that baseline by the population stability index of each feature. Numbers are those of an
ordered field, so arithmetic is exact; `log` and `sqrt` are its logarithm and its square root.
`detectDrift_overall`: the overall decision is the most severe one of a feature.
-/

namespace SentinelOps.Ml

open NumPy

/-- `_QUANTILES` and the other statistics of a feature. -/
structure FeatureStatistics (F : Type) where
  mean : F
  std : F
  min : F
  max : F
  p05 : F
  p25 : F
  p50 : F
  p75 : F
  p95 : F

/-- Columns of one height under their names. -/
structure Frame (F : Type) where
  columns : Dict String (List F)
  height : ℕ
  aligned : ∀ name col, columns.get? name = some col → col.length = height

/-- What is accepted as features: a frame, or an array, of two dimensions or of others. -/
inductive Sample (F : Type) where
  | frame (frame : Frame F)
  | matrix (height : ℕ) (columns : List { col : List F // col.length = height })
  | array (shape : List ℕ)

/-- The edges of at least one bin. -/
structure BinEdges (F : Type) [LinearOrder F] where
  edges : List F
  two : 2 ≤ edges.length
  increasing : edges.Pairwise (· < ·)

/-- `BaselineDistribution`. -/
structure BaselineDistribution (F : Type) [LinearOrder F] where
  featureNames : List String
  binEdges : Dict String (BinEdges F)
  referenceProportions : Dict String (List F)
  statistics : Dict String (FeatureStatistics F)
  nSamples : ℕ
  modelVersion : String
  featureSchemaVersion : String
  nBins : ℕ

/-- The classification of a feature. -/
inductive Classification where
  | none
  | moderate
  | significant
  deriving DecidableEq, Repr

namespace Classification

/-- `_CLASSIFICATION_RANK`. -/
def rank : Classification → ℕ
  | none => 0
  | moderate => 1
  | significant => 2

/-- `_DECISION`. -/
def decision : Classification → String
  | none => "pass"
  | moderate => "warn"
  | significant => "fail"

end Classification

/-- `_OVERALL`, of a rank. -/
def overall : ℕ → String
  | 0 => "no_drift"
  | 1 => "moderate_drift"
  | _ => "significant_drift"

/-- `FeatureDriftReport`. -/
structure FeatureDriftReport (F : Type) where
  featureName : String
  psi : F
  classification : Classification
  decision : String
  thresholdModerate : F
  thresholdSignificant : F
  referenceStats : Option (FeatureStatistics F)
  currentStats : FeatureStatistics F

/-- `DriftReport`. -/
structure DriftReport (F : Type) where
  featureReports : List (FeatureDriftReport F)
  overallDecision : String
  predictionDrift : Option F
  modelVersion : String
  nSamplesCurrent : ℕ
  missingFeatures : List String

/-- `DEFAULT_N_BINS`. -/
def defaultNBins : ℕ := 10

/-- The text of a shape. -/
def shapeText : List ℕ → String
  | [n] => s!"({n},)"
  | ns => "(" ++ Py.join ", " (ns.map toString) ++ ")"

/-- `d[key]`. -/
def lookup {α : Type*} (d : Dict String α) (key : String) : Except String α :=
  match d.get? key with
  | some a => .ok a
  | none => .error (Py.repr key)

namespace Frame
variable {F : Type}

/-- `frame[name]`, of a column that is there. -/
def column (frame : Frame F) (name : String) : List F := (frame.columns.get? name).getD []

/-- `pd.DataFrame(arr, columns=names)`. -/
def ofMatrix (names : List String) (height : ℕ)
    (columns : List { col : List F // col.length = height }) : Frame F where
  columns := .ofList (names.zip (columns.map Subtype.val))
  height := height
  aligned name col found := by
    have mem := (List.of_mem_zip (Dict.mem_of_get?_ofList found)).2
    obtain ⟨⟨col, size⟩, -, rfl⟩ := List.mem_map.mp mem
    exact size

end Frame

/-- A running maximum is one of the numbers, or where it started, and no number exceeds it. -/
lemma foldl_max {ns : List ℕ} {n : ℕ} : (ns.foldl max n = n ∨ ns.foldl max n ∈ ns) ∧
    n ≤ ns.foldl max n ∧ ∀ k ∈ ns, k ≤ ns.foldl max n := by
  induction ns generalizing n with
  | nil => exact ⟨.inl rfl, le_refl _, fun k mem => by cases mem⟩
  | cons m ns ih =>
    obtain ⟨here, low, high⟩ := @ih (max n m)
    refine ⟨?_, (le_max_left _ _).trans low, ?_⟩
    · obtain same | mem := here
      · obtain first | second := max_choice n m
        · exact .inl (same.trans first)
        · exact .inr (List.mem_cons.mpr (.inl (same.trans second)))
      · exact .inr (List.mem_cons_of_mem _ mem)
    · intro k mem
      obtain rfl | mem := List.mem_cons.mp mem
      · exact (le_max_right _ _).trans low
      · exact high k mem

/-- The most severe classification of reports. -/
lemma exists_worst {F : Type} {reports : List (FeatureDriftReport F)} (some : reports ≠ []) :
    ∃ worst ∈ reports, (reports.map fun r => r.classification.rank).foldl max 0 =
        worst.classification.rank ∧
      ∀ r ∈ reports, r.classification.rank ≤ worst.classification.rank := by
  obtain ⟨first, mem_first⟩ := List.exists_mem_of_ne_nil _ some
  obtain ⟨here, -, high⟩ := @foldl_max (reports.map fun r => r.classification.rank) 0
  have high (r) (mem : r ∈ reports) := high _ (List.mem_map_of_mem mem)
  obtain none | mem := here
  · rw [none] at high ⊢
    have least := Nat.le_zero.mp (high first mem_first)
    exact ⟨first, mem_first, least.symm, fun r mem => (high r mem).trans (Nat.zero_le _)⟩
  · obtain ⟨worst, mem, same⟩ := List.mem_map.mp mem
    rw [← same] at high ⊢
    exact ⟨worst, mem, rfl, high⟩

section
variable {F : Type} [Field F] [LinearOrder F]

/-- The counts of a sample that is clipped to the first and the last edge. -/
def binCounts (values : List F) (edges : BinEdges F) : List ℕ :=
  histogram (clip (edges.edges.headD 0) (edges.edges.getLastD 0) values) edges.edges

/-- `_proportions`. -/
def proportions (values : List F) (edges : BinEdges F) : List F :=
  let counts := binCounts values edges
  let total : F := counts.sum
  if total ≤ 0 then
    let uniform : F := 1 / counts.length
    counts.map fun _ => uniform
  else counts.map fun c : ℕ => c / total

/-- `_current_proportions`. -/
def currentProportions (values : List F) (edges : BinEdges F) : List F :=
  let counts := binCounts values edges
  let total : F := counts.sum
  if total ≤ 0 then List.replicate counts.length (1 / counts.length)
  else counts.map fun c : ℕ => c / total

/-- A bin for each edge but one. -/
lemma length_binCounts {values : List F} {edges : BinEdges F} :
    (binCounts values edges).length = edges.edges.length - 1 := length_histogram

/-- The proportions are those of the bins. -/
lemma length_proportions {values : List F} {edges : BinEdges F} :
    (proportions values edges).length = edges.edges.length - 1 := by
  unfold proportions
  dsimp only
  split <;> rw [List.length_map, length_binCounts]

/-- Freezing and comparing bin a sample in the same way. -/
lemma currentProportions_eq {values : List F} {edges : BinEdges F} :
    currentProportions values edges = proportions values edges := by
  unfold currentProportions proportions
  dsimp only
  rw [List.map_const']

/-- The order of a sample does not matter to its proportions. -/
lemma proportions_perm {values values' : List F} {edges : BinEdges F}
    (same : values.Perm values') : proportions values edges = proportions values' edges := by
  have counts : binCounts values edges = binCounts values' edges := by
    unfold binCounts clip
    exact histogram_perm (same.map _)
  unfold proportions
  rw [counts]

/-- What a constant is widened by. -/
def constantSpan (centre : F) : F := |centre| * (1 / 1000000) + 1 / 1000000000

variable [IsStrictOrderedRing F]

/-- The widened constant is a bin. -/
lemma constantSpan_pos {centre : F} : 0 < constantSpan centre := by
  unfold constantSpan
  positivity

/-- The one bin of a constant. -/
def constantEdges (centre : F) : BinEdges F where
  edges := [centre - constantSpan centre, centre + constantSpan centre]
  two := le_refl _
  increasing := by
    rw [List.pairwise_pair]
    linarith only [@constantSpan_pos F _ _ _ centre]

variable [FloorRing F]

open scoped Numerals in
/-- `feature_statistics`. -/
def featureStatistics (sqrt : F → F) (values : List F) : FeatureStatistics F where
  mean := mean values
  std := std sqrt values
  min := values.min?.getD 0
  max := values.max?.getD 0
  p05 := quantile values (1 / 20)
  p25 := quantile values (1 / 4)
  p50 := quantile values (1 / 2)
  p75 := quantile values (3 / 4)
  p95 := quantile values (19 / 20)

/-- `_bin_edges`. -/
def binEdges (values : List F) (nBins : ℕ) : BinEdges F :=
  let edges := NumPy.unique ((linspace 0 1 (nBins + 1)).map (quantile values))
  if two : 2 ≤ edges.length then ⟨edges, two, NumPy.pairwise_unique⟩
  else constantEdges (edges.headD 0)

/-- `_as_frame`, the part of a sample under the names of the features. -/
def asFrame (x : Sample F) (featureNames : List String) : Except String (Frame F) :=
  match x with
  | .frame frame =>
    let missing := featureNames.filter fun c => !frame.columns.contains c
    if missing ≠ [] then
      .error s!"training features missing columns: {Py.reprList missing}"
    else .ok frame
  | .matrix height columns =>
    if columns.length ≠ featureNames.length then
      .error (s!"array shape {shapeText [height, columns.length]} does not match " ++
        s!"{featureNames.length} feature names")
    else .ok (.ofMatrix featureNames height columns)
  | .array shape =>
    .error s!"array shape {shapeText shape} does not match {featureNames.length} feature names"

/-- `freeze_baseline`. -/
def freezeBaseline (sqrt : F → F) (x : Sample F) (featureNames : List String)
    (modelVersion featureSchemaVersion : String) (nBins : ℕ) :
    Except String (BaselineDistribution F) := do
  ensure (featureNames ≠ []) "feature_names is empty"
  ensure (2 ≤ nBins) "n_bins must be >= 2"
  let frame ← asFrame x featureNames
  ensure (frame.height ≠ 0) "training feature frame has no rows"
  return {
    featureNames
    binEdges := .ofList (featureNames.map fun name => (name, binEdges (frame.column name) nBins))
    referenceProportions := .ofList (featureNames.map fun name =>
      (name, proportions (frame.column name) (binEdges (frame.column name) nBins)))
    statistics := .ofList (featureNames.map fun name =>
      (name, featureStatistics sqrt (frame.column name)))
    nSamples := frame.height
    modelVersion
    featureSchemaVersion
    nBins }

open scoped Numerals in
/-- `DEFAULT_PSI_THRESHOLDS`. -/
def defaultPsiThresholds : F × F := (1 / 10, 1 / 4)

/-- `_PSI_EPSILON`. -/
def psiEpsilon : F := 1 / 1000000

/-- A vector of proportions with zeros floored. -/
def floored (proportions : List F) : List F := proportions.map fun p => max p psiEpsilon

/-- The sum of `calculate_psi`. -/
def psiSum (log : F → F) (expected actual : List F) : F :=
  (List.zipWith (fun e a => (a - e) * log (a / e)) expected actual).sum

/-- `calculate_psi`. -/
def calculatePsi (log : F → F) (expected actual : List F) : Except String F :=
  if expected.length ≠ actual.length then
    .error ("proportion vectors must be 1-D and equal length, got " ++
      s!"{shapeText [expected.length]} and {shapeText [actual.length]}")
  else .ok (psiSum log (floored expected) (floored actual))

/-- `classify_psi`. -/
def classifyPsi (psi : F) (thresholds : F × F) : Classification :=
  let (moderate, significant) := thresholds
  if psi < moderate then .none
  else if psi < significant then .moderate
  else .significant

/-- `compute_prediction_drift`. -/
def computePredictionDrift (prevRate currentRate : F) : Option F :=
  if prevRate ≤ 0 then none else some ((currentRate - prevRate) / prevRate)

open scoped Numerals in
/-- `round(x, 6)`. -/
def round6 (x : F) : F :=
  let scaled := x * 1000000
  let below := ⌊scaled⌋
  let nearest : ℤ :=
    if scaled - below < 1 / 2 then below
    else if 1 / 2 < scaled - below then below + 1
    else if below % 2 = 0 then below
    else below + 1
  nearest / 1000000

/-- The index of a feature in the loop of `detect_drift`. -/
def featurePsi (log : F → F) (baseline : BaselineDistribution F) (name : String)
    (col : List F) : Except String F := do
  let edges ← lookup baseline.binEdges name
  let actual := currentProportions col edges
  let expected ← lookup baseline.referenceProportions name
  calculatePsi log expected actual

/-- The report of a feature in the loop of `detect_drift`. -/
def featureReport (log sqrt : F → F) (baseline : BaselineDistribution F) (thresholds : F × F)
    (name : String) (col : List F) : Except String (FeatureDriftReport F) := do
  let psi ← featurePsi log baseline name col
  let classification := classifyPsi psi thresholds
  return {
    featureName := name
    psi := round6 psi
    classification
    decision := classification.decision
    thresholdModerate := thresholds.1
    thresholdSignificant := thresholds.2
    referenceStats := baseline.statistics.get? name
    currentStats := featureStatistics sqrt col }

/-- The frame that `detect_drift` compares. -/
def currentFrame (x : Sample F) (baseline : BaselineDistribution F) : Except String (Frame F) :=
  let features := baseline.featureNames.length
  match x with
  | .frame frame => .ok frame
  | .matrix height columns =>
    if columns.length ≠ features then
      .error (s!"array shape {shapeText [height, columns.length]} does not match " ++
        s!"baseline's {features} features")
    else .ok (.ofMatrix baseline.featureNames height columns)
  | .array shape =>
    .error s!"array shape {shapeText shape} does not match baseline's {features} features"

/-- `detect_drift`. -/
def detectDrift (log sqrt : F → F) (x : Sample F) (baseline : BaselineDistribution F)
    (modelVersion : Option String) (psiThresholds : Option (F × F))
    (ratePrevious rateCurrent : Option F) : Except String (DriftReport F) := do
  let thresholds := psiThresholds.getD defaultPsiThresholds
  let frame ← currentFrame x baseline
  let present := baseline.featureNames.filter fun f => frame.columns.contains f
  ensure (frame.height ≠ 0) "current feature frame has no rows"
  ensure (present ≠ []) "no baseline features present in the current data"
  let missing := baseline.featureNames.filter fun f => f ∉ present
  let reports ← present.mapM fun name =>
    featureReport log sqrt baseline thresholds name (frame.column name)
  let worst := (reports.map fun r => r.classification.rank).foldl max 0
  return {
    featureReports := reports
    overallDecision := overall worst
    predictionDrift := do computePredictionDrift (← ratePrevious) (← rateCurrent)
    modelVersion := modelVersion.getD baseline.modelVersion
    nSamplesCurrent := frame.height
    missingFeatures := missing }

section
variable {log sqrt : F → F} {x : Sample F} {names : List String} {mv fsv : String} {nBins : ℕ}
  {ref : Frame F}

/-- The baseline of an accepted sample with rows. -/
def frozen (sqrt : F → F) (ref : Frame F) (names : List String) (mv fsv : String) (nBins : ℕ) :
    BaselineDistribution F where
  featureNames := names
  binEdges := .ofList (names.map fun name => (name, binEdges (ref.column name) nBins))
  referenceProportions := .ofList (names.map fun name =>
    (name, proportions (ref.column name) (binEdges (ref.column name) nBins)))
  statistics := .ofList (names.map fun name => (name, featureStatistics sqrt (ref.column name)))
  nSamples := ref.height
  modelVersion := mv
  featureSchemaVersion := fsv
  nBins := nBins

/-- An accepted sample with rows is frozen. -/
lemma freezeBaseline_eq (named : names ≠ []) (bins : 2 ≤ nBins)
    (accepted : asFrame x names = .ok ref) (rows : ref.height ≠ 0) :
    freezeBaseline sqrt x names mv fsv nBins = .ok (frozen sqrt ref names mv fsv nBins) := by
  unfold freezeBaseline
  rw [ensure_of named, ensure_of bins, accepted]
  dsimp only [Except.ok_bind]
  rw [ensure_of rows]
  rfl

/-- The index of a feature against a frozen baseline. -/
lemma featurePsi_frozen {name : String} {col : List F} (mem : name ∈ names) :
    featurePsi log (frozen sqrt ref names mv fsv nBins) name col = .ok (psiSum log
      (floored (proportions (ref.column name) (binEdges (ref.column name) nBins)))
      (floored (proportions col (binEdges (ref.column name) nBins)))) := by
  unfold featurePsi lookup frozen
  dsimp only
  rw [Dict.get?_ofList_map mem, Dict.get?_ofList_map mem]
  dsimp only [Except.ok_bind]
  unfold calculatePsi
  rw [if_neg, currentProportions_eq]
  rw [not_not, currentProportions_eq, length_proportions, length_proportions]

variable {baseline : BaselineDistribution F} {mv' : Option String} {thresholds : Option (F × F)}
  {previous current : Option F}

omit [IsStrictOrderedRing F] in
/-- The overall decision is the most severe one of a feature. -/
lemma detectDrift_overall {report} (detected : detectDrift log sqrt x baseline mv' thresholds
    previous current = .ok report) :
    ∃ worst ∈ report.featureReports, report.overallDecision = overall worst.classification.rank ∧
      ∀ r ∈ report.featureReports, r.classification.rank ≤ worst.classification.rank := by
  unfold detectDrift at detected
  obtain ⟨frame, -, detected⟩ := Except.bind_eq_ok.mp detected
  obtain ⟨_, -, detected⟩ := Except.bind_eq_ok.mp detected
  obtain ⟨_, present, detected⟩ := Except.bind_eq_ok.mp detected
  obtain ⟨reports, read, detected⟩ := Except.bind_eq_ok.mp detected
  cases detected
  have some : reports ≠ [] := by
    rintro rfl
    have none := length_of_mapM read
    exact ensure_eq_ok.mp present (List.length_eq_zero_iff.mp none.symm)
  obtain ⟨worst, mem, rank, most⟩ := exists_worst some
  exact ⟨worst, mem, congrArg overall rank, most⟩

/-- What is compared of a feature against a frozen baseline. -/
def frozenPsi (log : F → F) (ref cur : Frame F) (nBins : ℕ) (name : String) : F :=
  psiSum log
    (floored (proportions (ref.column name) (binEdges (ref.column name) nBins)))
    (floored (proportions (cur.column name) (binEdges (ref.column name) nBins)))

/-- The report of a feature against a frozen baseline. -/
def frozenReport (log sqrt : F → F) (ref cur : Frame F) (nBins : ℕ) (thresholds : F × F)
    (name : String) : FeatureDriftReport F where
  featureName := name
  psi := round6 (frozenPsi log ref cur nBins name)
  classification := classifyPsi (frozenPsi log ref cur nBins name) thresholds
  decision := (classifyPsi (frozenPsi log ref cur nBins name) thresholds).decision
  thresholdModerate := thresholds.1
  thresholdSignificant := thresholds.2
  referenceStats := some (featureStatistics sqrt (ref.column name))
  currentStats := featureStatistics sqrt (cur.column name)

/-- A feature of a frozen baseline has that report. -/
lemma featureReport_frozen {cur : Frame F} {bounds : F × F} {name} (mem : name ∈ names) :
    featureReport log sqrt (frozen sqrt ref names mv fsv nBins) bounds name (cur.column name) =
      .ok (frozenReport log sqrt ref cur nBins bounds name) := by
  unfold featureReport frozenReport
  rw [featurePsi_frozen mem]
  dsimp only [Except.ok_bind, frozen]
  rw [Dict.get?_ofList_map mem]
  rfl

/-- The comparison of a sample that has rows and some of the features with a frozen baseline. -/
lemma detectDrift_frozen {cur : Frame F}
    (accepted : currentFrame x (frozen sqrt ref names mv fsv nBins) = .ok cur)
    (rows : cur.height ≠ 0) {name} (mem : name ∈ names) (has : cur.columns.contains name = true) :
    ∃ report, detectDrift log sqrt x (frozen sqrt ref names mv fsv nBins) mv' thresholds previous
        current = .ok report ∧
      report.missingFeatures =
        names.filter (fun f => f ∉ names.filter fun f => cur.columns.contains f) ∧
      report.featureReports = (names.filter fun f => cur.columns.contains f).map
        (frozenReport log sqrt ref cur nBins (thresholds.getD defaultPsiThresholds)) := by
  have present : (names.filter fun f => cur.columns.contains f) ≠ [] :=
    List.ne_nil_of_mem (List.mem_filter.mpr ⟨mem, has⟩)
  have reports : (names.filter fun f => cur.columns.contains f).mapM (fun f =>
        featureReport log sqrt (frozen sqrt ref names mv fsv nBins)
          (thresholds.getD defaultPsiThresholds) f (cur.column f)) =
      .ok ((names.filter fun f => cur.columns.contains f).map
        (frozenReport log sqrt ref cur nBins (thresholds.getD defaultPsiThresholds))) :=
    mapM_eq_map fun f mem => featureReport_frozen (List.mem_filter.mp mem).1
  have same : (frozen sqrt ref names mv fsv nBins).featureNames = names := rfl
  unfold detectDrift
  rw [accepted, same]
  dsimp only [Except.ok_bind]
  rw [ensure_of rows, ensure_of present, reports]
  exact ⟨_, rfl, rfl, rfl⟩

end

end

end SentinelOps.Ml
