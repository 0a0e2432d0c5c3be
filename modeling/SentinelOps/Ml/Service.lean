import SentinelOps.Lib.Groups
import SentinelOps.Ml.Training

/-!
# The detector as a service

`DetectorService` scores windows one at a time through the buffer of its featurizer (`scoreWindow`) or
a table of windows at once (`scoreBatch`). `recorded_as_served`: over any number of runs, with a
reset before each, the results of the stream are those of the table, in whichever order the table
holds the windows.
-/

namespace SentinelOps.Ml

variable {F τ L : Type} [Field F] [LinearOrder F] [LinearOrder τ]

/-- `FEATURE_COLUMNS`. -/
def featureColumns : List String :=
  ["request_rate", "error_rate", "success_rate", "latency_mean_ms", "latency_p50_ms",
    "latency_p90_ms", "latency_p95_ms", "publish_rate", "publish_error_rate",
    "publish_latency_mean_ms", "orders_created_rate", "request_rate_roll_mean",
    "request_rate_roll_std", "request_rate_delta", "error_rate_roll_mean", "error_rate_delta",
    "latency_mean_ms_roll_mean", "latency_mean_ms_roll_std", "latency_mean_ms_delta",
    "latency_p95_ms_roll_mean", "publish_error_rate_roll_mean", "publish_latency_mean_ms_roll_mean",
    "traffic_growth_rate"]

/-- `AnomalyResult`. -/
structure AnomalyResult (F τ : Type) where
  windowStart : τ
  windowEnd : τ
  score : F
  threshold : F
  isAnomaly : Bool
  modelType : String
  modelVersion : String
  features : List (String × F)

/-- A `DetectorService` with the buffer of its featurizer. -/
structure DetectorService (d : Detector F) (τ L : Type) where
  detector : Trained d
  modelType : String
  modelVersion : String
  config : FeatureConfig
  buffer : List (SignalRecord F τ L) := []

namespace DetectorService

variable {d : Detector F} (sqrt round6 : F → F) (service : DetectorService d τ L)

/-- `_make_result`; the anomaly is a score above the threshold. -/
def makeResult (row : FeatureRow F τ L) (score : F) : AnomalyResult F τ where
  windowStart := row.windowStart
  windowEnd := row.windowEnd
  score := round6 score
  threshold := round6 service.detector.threshold
  isAnomaly := service.detector.threshold < score
  modelType := service.modelType
  modelVersion := service.modelVersion
  features := featureColumns.zip ((matrixRow row).map round6)

/-- `reset_stream`. -/
def resetStream : DetectorService d τ L := { service with buffer := [] }

/-- `_result_from_features`. -/
def resultFromFeatures (row : FeatureRow F τ L) : Except String (AnomalyResult F τ) := do
  let score ← (d.score service.detector.state [matrixRow row]).head?.elim
    (.error "index 0 is out of bounds for axis 0 with size 0") .ok
  return service.makeResult round6 row score

/-- The result for what the featurizer returns. -/
def streamed (features : Option (FeatureRow F τ L)) : Except String (AnomalyResult F τ) := do
  let row ← features.elim (.error "No objects to concatenate") .ok
  service.resultFromFeatures round6 row

/-- `score_window`. -/
def scoreWindow (signalRecord : SignalRecord F τ L) :
    DetectorService d τ L × Except String (AnomalyResult F τ) :=
  let (buffer, features) := StreamFeaturizer.push sqrt service.config service.buffer signalRecord
  ({ service with buffer }, service.streamed round6 features)

/-- `score_batch`. -/
def scoreBatch (signals : List (SignalRecord F τ L)) : Except String (List (AnomalyResult F τ)) := do
  let features ← (buildFeatures sqrt service.config signals).elim
    (.error "No objects to concatenate") .ok
  let scores := d.score service.detector.state (features.map matrixRow)
  return (features.zip scores).map fun row => service.makeResult round6 row.1 row.2

/-- What a service is asked for. -/
inductive Request (F τ L : Type) where
  | resetStream
  | scoreWindow (signalRecord : SignalRecord F τ L)

/-- The results of a sequence of requests. -/
def serve (service : DetectorService d τ L) :
    List (Request F τ L) → List (Except String (AnomalyResult F τ))
  | [] => []
  | .resetStream :: requests => serve service.resetStream requests
  | .scoreWindow w :: requests =>
    (service.scoreWindow sqrt round6 w).2 :: serve (service.scoreWindow sqrt round6 w).1 requests

end DetectorService

/-- A detector scores a row whatever the other rows are. -/
def RowWise (d : Detector F) : Prop := ∀ state, ∃ f, ∀ X, d.score state X = X.map f

/-- The windows of some runs, each in the order of time, in the order of the ids of the runs. -/
structure Recorded (runs : List (List (SignalRecord F τ L))) : Prop where
  run : ∀ ws ∈ runs, ws ≠ [] ∧ ∃ id, OneRun id ws
  order : runs.Pairwise fun ws ws' => ∀ w ∈ ws, ∀ w' ∈ ws',
    Py.strLe w.runId w'.runId = true ∧ w.runId ≠ w'.runId

section
variable {d : Detector F} {sqrt round6 : F → F} {runs : List (List (SignalRecord F τ L))}

omit [Field F] [LinearOrder F] in
/-- The windows of some runs are in the order of a table. -/
lemma Recorded.sorted (h : Recorded runs) : runs.flatten.Pairwise fun a b => sortLe a b = true := by
  refine List.pairwise_flatten.mpr ⟨fun ws mem => ?_, h.order.imp fun apart w here w' there => ?_⟩
  · obtain ⟨-, id, one⟩ := h.run ws mem
    refine one.increasing.imp_of_mem fun {a b} inA inB before => ?_
    simp [sortLe, one.run a inA, one.run b inB, before.le]
  · obtain ⟨before, other⟩ := apart w here w' there
    rw [sortLe, if_neg other, before]

omit [Field F] [LinearOrder F] in
/-- A window is the only one of its run that starts when it does. -/
lemma Recorded.distinct (h : Recorded runs) :
    (runs.flatten.map fun w => (w.runId, w.windowStart)).Nodup := by
  refine List.pairwise_map.mpr (List.pairwise_flatten.mpr ⟨fun ws mem => ?_, ?_⟩)
  · obtain ⟨-, id, one⟩ := h.run ws mem
    exact one.increasing.imp fun before same => before.ne (congrArg Prod.snd same)
  · refine h.order.imp fun apart w here w' there same => ?_
    exact (apart w here w' there).2 (congrArg Prod.fst same)

omit [Field F] [LinearOrder F] in
/-- Windows that are in order both ways are of one run and start together. -/
lemma sortLe_antisymm {a b : SignalRecord F τ L} (ab : sortLe a b = true) (ba : sortLe b a = true) :
    (a.runId, a.windowStart) = (b.runId, b.windowStart) := by
  unfold sortLe at ab ba
  by_cases runs : a.runId = b.runId
  · rw [if_pos runs, decide_eq_true_eq] at ab
    rw [if_pos runs.symm, decide_eq_true_eq] at ba
    exact Prod.ext runs (le_antisymm ab ba)
  · rw [if_neg runs] at ab
    rw [if_neg (Ne.symm runs)] at ba
    exact absurd (Py.strLe_antisymm ab ba) runs

omit [Field F] [LinearOrder F] in
/-- A table is sorted into the runs that it was recorded in. -/
lemma Recorded.mergeSort (h : Recorded runs) {df : List (SignalRecord F τ L)}
    (table : df.Perm runs.flatten) : df.mergeSort sortLe = runs.flatten := by
  have perm := (List.mergeSort_perm df sortLe).trans table
  refine perm.eq_of_pairwise (fun a b inA inB ab ba => ?_)
    (List.pairwise_mergeSort sortLe_trans sortLe_total df) h.sorted
  exact List.inj_on_of_nodup_map h.distinct (perm.subset inA) inB (sortLe_antisymm ab ba)

/-- The features of a table are those of its runs. -/
lemma Recorded.features (h : Recorded runs) (some_run : runs ≠ []) {cfg : FeatureConfig}
    {df : List (SignalRecord F τ L)} (table : df.Perm runs.flatten) :
    buildFeatures sqrt cfg df = some (runs.flatMap (engineerGroup sqrt cfg)) := by
  have groups : groupByRun runs.flatten = runs := by
    refine groupedBy_flatten (fun ws mem => ?_) (h.order.imp fun apart w here w' there => ?_)
    · obtain ⟨some_window, id, one⟩ := h.run ws mem
      exact ⟨some_window, id, one.run⟩
    · exact (apart w here w' there).2
  unfold buildFeatures
  simp only [h.mergeSort table, groups]
  rw [if_neg (by simpa using some_run), List.flatMap_def]

/-- What a service returns for some windows, and the rest of its requests. -/
lemma serve_windows {service : DetectorService d τ L} {ws : List (SignalRecord F τ L)}
    {rest : List (DetectorService.Request F τ L)} :
    ∃ buffer, service.serve sqrt round6 (ws.map .scoreWindow ++ rest) =
      (StreamFeaturizer.pushAll sqrt service.config service.buffer ws).map (service.streamed round6) ++
        { service with buffer }.serve sqrt round6 rest := by
  induction ws generalizing service with
  | nil => exact ⟨service.buffer, rfl⟩
  | cons w ws ih =>
    obtain ⟨buffer, later⟩ := @ih (service.scoreWindow sqrt round6 w).1
    exact ⟨buffer, congrArg (_ :: ·) later⟩

/-- What a service returns for some runs. -/
lemma serve_runs {service : DetectorService d τ L} (run : ∀ ws ∈ runs, ∃ id, OneRun id ws) :
    service.serve sqrt round6 (runs.flatMap fun ws => .resetStream :: ws.map .scoreWindow) =
      (runs.flatMap (engineerGroup sqrt service.config)).map (service.resultFromFeatures round6) := by
  induction runs generalizing service with
  | nil => rfl
  | cons ws runs ih =>
    obtain ⟨⟨id, one⟩, run⟩ := List.forall_mem_cons.mp run
    obtain ⟨buffer, served⟩ := @serve_windows F τ L _ _ _ d sqrt round6 service.resetStream ws
      (runs.flatMap fun ws => .resetStream :: ws.map .scoreWindow)
    have stream : StreamFeaturizer.pushAll sqrt service.config [] ws = _ := one.stream
    rw [List.flatMap_cons, List.cons_append, DetectorService.serve, served, ih run]
    refine Eq.trans (congrArg (List.map _ · ++ _) stream) ?_
    rw [List.map_map, List.flatMap_cons, List.map_append]
    rfl

/-- A stream of windows is scored like a table of them: over any number of runs, each after a reset,
the service returns window for window what it returns for all of them at once, in whichever order
the table holds them. -/
theorem recorded_as_served (sqrt round6 : F → F) (service : DetectorService d τ L)
    (rows : RowWise d) (h : Recorded runs) (some_run : runs ≠ []) {df : List (SignalRecord F τ L)}
    (table : df.Perm runs.flatten) :
    ∃ results, service.scoreBatch sqrt round6 df = .ok results ∧
      service.serve sqrt round6 (runs.flatMap fun ws => .resetStream :: ws.map .scoreWindow) =
        results.map .ok := by
  obtain ⟨f, each⟩ := rows service.detector.state
  refine ⟨(runs.flatMap (engineerGroup sqrt service.config)).map fun row =>
    service.makeResult round6 row (f (matrixRow row)), ?_, ?_⟩
  · unfold DetectorService.scoreBatch
    rw [h.features some_run table, Option.elim_some, Except.ok_bind]
    dsimp only
    rw [each, List.map_map, ← List.map_prod_left_eq_zip, List.map_map]
    rfl
  · rw [serve_runs fun ws mem => (h.run ws mem).2, List.map_map]
    refine List.map_congr_left fun row _ => ?_
    unfold DetectorService.resultFromFeatures
    rw [each]
    rfl

end

/-- `RobustZScoreDetector` scores row by row. -/
lemma RobustZScoreDetector.rowWise {minScale : F} {width : ℕ} :
    RowWise (RobustZScoreDetector.detector minScale width) :=
  fun state => ⟨scoreRow state, fun _ => rfl⟩

/-- A service whose detector knows calm traffic. -/
def calmService : DetectorService (RobustZScoreDetector.detector (1 / 1000000000 : ℚ) 1) ℕ
    WindowLabels where
  detector := ⟨[⟨4, some 1⟩], 3⟩
  modelType := "robust_zscore"
  modelVersion := "0.1.0"
  config := {}

/-- Two runs of two windows. -/
def twoRuns : List (List (SignalRecord ℚ ℕ WindowLabels)) :=
  [[trainingWindow 0 4, trainingWindow 10 9],
    [{ trainingWindow 0 5 with runId := "run-2" }, { trainingWindow 10 4 with runId := "run-2" }]]

/-- The table that holds the windows of two runs last to first is scored like the stream of them. -/
theorem recorded_as_served_two :
    ∃ results, calmService.scoreBatch id id twoRuns.flatten.reverse = .ok results ∧
      calmService.serve id id (twoRuns.flatMap fun ws => .resetStream :: ws.map .scoreWindow) =
        results.map .ok := by
  have h : Recorded twoRuns := by
    constructor
    · refine List.forall_mem_cons.mpr ⟨⟨by simp, "run-1", ?_⟩, List.forall_mem_singleton.mpr
        ⟨by simp, "run-2", ?_⟩⟩
      · constructor <;> simp [trainingWindow]
      · constructor <;> simp [trainingWindow]
    · refine List.pairwise_pair.mpr fun w here w' there => ?_
      have first : w.runId = "run-1" := by
        simp only [List.mem_cons, List.not_mem_nil, or_false] at here
        obtain rfl | rfl := here <;> rfl
      have second : w'.runId = "run-2" := by
        simp only [List.mem_cons, List.not_mem_nil, or_false] at there
        obtain rfl | rfl := there <;> rfl
      rw [first, second]
      exact ⟨by decide, by decide⟩
  exact recorded_as_served id id calmService RobustZScoreDetector.rowWise h (by simp [twoRuns])
    (List.reverse_perm _)

end SentinelOps.Ml
