import SentinelOps.Lib.Dict
import SentinelOps.Lib.PyArith
import SentinelOps.Lib.PySet

/-!
# The promotion gate

`evaluateCandidate` compares the metrics of a candidate with floors and with those of the champion.
-/

namespace SentinelOps.Ml

/-- A value in a mapping of metrics. -/
inductive MetricValue where
  | none
  | bool (b : Bool)
  | number (x : PyFloat)
  | other
  deriving DecidableEq

/-- `F1_KEY`. -/
def f1Key : String := "pointwise.f1"

/-- `RECALL_KEY`. -/
def recallKey : String := "pointwise.recall"

/-- `PR_AUC_KEY`. -/
def prAucKey : String := "pointwise.pr_auc"

/-- `_REQUIRED_METRICS`. -/
def requiredMetrics : List String := [f1Key, recallKey, prAucKey]

/-- `PromotionPolicy`. -/
structure PromotionPolicy where
  minF1 : PyFloat := .nearest 0.75
  minRecall : PyFloat := .nearest 0.90
  minPrAuc : PyFloat := .nearest 0.60
  f1RegressionTolerance : PyFloat := .nearest 0.05
  requireAllMetrics : Bool := true

/-- `PromotionDecision`. -/
structure PromotionDecision where
  promote : Bool
  reasons : List String
  candidateVersion : String
  championVersion : Option String

/-- `_metric`. -/
def metric (metrics : Dict String MetricValue) (key : String) : Option PyFloat :=
  match metrics.get? key with
  | some (.number x) => some x
  | _ => none

/-- `present[key] or 0.0`. -/
def metricOrZero (metrics : Dict String MetricValue) (key : String) : PyFloat :=
  (metric metrics key).getD (.fin 0)

/-- `f"{x:+.4f}"`. -/
def signed (x : PyFloat) : String :=
  if x.lt (.fin 0) then x.fixed 4 else "+" ++ x.fixed 4

/-- The reason for a metric below its floor. -/
def belowFloor (name : String) (x floor : PyFloat) : List String :=
  if x.lt floor then [s!"{name} {x.fixed 4} below floor {floor.fixed 2}"] else []

/-- The reason for a regression against the champion. -/
def regression (policy : PromotionPolicy) (f1 : PyFloat) : Option PyFloat → List String
  | none => []
  | some championF1 =>
    let delta := f1.sub championF1
    if delta.lt policy.f1RegressionTolerance.neg then
      [s!"F1 regression {signed delta} vs champion "
        ++ s!"(tolerance -{policy.f1RegressionTolerance.fixed 2})"]
    else []

/-- `evaluate_candidate`. -/
def evaluateCandidate (candidateMetrics : Dict String MetricValue)
    (championMetrics : Option (Dict String MetricValue)) (policy : PromotionPolicy)
    (candidateVersion : String) (championVersion : Option String) : PromotionDecision :=
  let missing := requiredMetrics.filter fun k => (metric candidateMetrics k).isNone
  if missing ≠ [] ∧ policy.requireAllMetrics = true then
    ⟨false, [s!"incomplete evaluation - missing metric(s): "
      ++ ", ".intercalate (Py.sorted missing)], candidateVersion, championVersion⟩
  else
    let f1 := metricOrZero candidateMetrics f1Key
    let «recall» := metricOrZero candidateMetrics recallKey
    let prAuc := metricOrZero candidateMetrics prAucKey
    let championF1 := championMetrics.bind fun m => metric m f1Key
    let reasons := belowFloor "F1" f1 policy.minF1 ++ belowFloor "recall" «recall» policy.minRecall ++
      belowFloor "PR-AUC" prAuc policy.minPrAuc ++ regression policy f1 championF1
    if reasons ≠ [] then ⟨false, reasons, candidateVersion, championVersion⟩
    else
      let met := s!"F1 {f1.fixed 4} / recall {recall.fixed 4} / PR-AUC {prAuc.fixed 4} "
        ++ "meet all floors"
      let against := match championF1 with
        | none => "no prior champion - first model"
        | some c => s!"F1 {signed (f1.sub c)} vs champion (within tolerance)"
      ⟨true, [met, against], candidateVersion, championVersion⟩

/-- A candidate passes the checks that do not look at the champion. -/
structure ClearsFloors (policy : PromotionPolicy) (candidateMetrics : Dict String MetricValue) :
    Prop where
  complete : policy.requireAllMetrics = true →
    ∀ k ∈ requiredMetrics, (metric candidateMetrics k).isSome = true
  f1 : (metricOrZero candidateMetrics f1Key).lt policy.minF1 = false
  «recall» : (metricOrZero candidateMetrics recallKey).lt policy.minRecall = false
  prAuc : (metricOrZero candidateMetrics prAucKey).lt policy.minPrAuc = false

/-- When the gate passes. -/
lemma evaluateCandidate_promote {candidateMetrics championMetrics policy candidateVersion
    championVersion} : (evaluateCandidate candidateMetrics championMetrics policy candidateVersion
      championVersion).promote = true ↔
    ClearsFloors policy candidateMetrics ∧
      ∀ m, championMetrics = some m → ∀ c, metric m f1Key = some c →
        ((metricOrZero candidateMetrics f1Key).sub c).lt policy.f1RegressionTolerance.neg =
          false := by
  have floor {name : String} {x floor : PyFloat} :
      belowFloor name x floor = [] ↔ x.lt floor = false := by
    unfold belowFloor
    split <;> simp_all
  have compared {f1 : PyFloat} {c} : regression policy f1 c = [] ↔
      ∀ x, c = some x → (f1.sub x).lt policy.f1RegressionTolerance.neg = false := by
    cases c with
    | none => simp [regression]
    | some x =>
      unfold regression
      dsimp only
      split <;> simp_all
  have missing : requiredMetrics.filter (fun k => (metric candidateMetrics k).isNone) = [] ↔
      ∀ k ∈ requiredMetrics, (metric candidateMetrics k).isSome = true := by
    rw [List.filter_eq_nil_iff]
    simp [Option.isSome_iff_ne_none]
  unfold evaluateCandidate
  dsimp only
  split
  · rename_i incomplete
    obtain ⟨some_missing, strict⟩ := incomplete
    simp only [Bool.false_eq_true, false_iff, not_and]
    intro clears
    exact absurd (missing.mpr (clears.complete strict)) some_missing
  · rename_i complete
    split
    · rename_i refused
      simp only [Bool.false_eq_true, false_iff, not_and]
      intro clears compares
      apply refused
      rw [List.append_eq_nil_iff, List.append_eq_nil_iff, List.append_eq_nil_iff, floor, floor,
        floor, compared]
      refine ⟨⟨⟨clears.f1, clears.recall⟩, clears.prAuc⟩, ?_⟩
      intro c found
      obtain ⟨m, given, found⟩ := Option.bind_eq_some_iff.mp found
      exact compares m given c found
    · rename_i accepted
      rw [not_not, List.append_eq_nil_iff, List.append_eq_nil_iff, List.append_eq_nil_iff, floor,
        floor, floor, compared] at accepted
      obtain ⟨⟨⟨f1, recalled⟩, prAuc⟩, compares⟩ := accepted
      simp only [true_iff]
      refine ⟨⟨fun strict => ?_, f1, recalled, prAuc⟩, ?_⟩
      · rw [not_and', not_not] at complete
        exact missing.mp (complete strict)
      · rintro m rfl c found
        exact compares c found

end SentinelOps.Ml
