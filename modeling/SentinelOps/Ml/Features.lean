import SentinelOps.Lib.PySet
import SentinelOps.Lib.Numerals
import SentinelOps.Lib.Trailing
import Mathlib.Algebra.Order.Field.Basic
import Mathlib.Algebra.BigOperators.Group.List.Basic
import Mathlib.Analysis.Real.Sqrt

/-!
# Feature engineering, in batches and in streams

`buildFeatures` engineers the features of a table of signal windows, run by run; `StreamFeaturizer`
keeps a buffer of the last windows and engineers the features of that. Numbers are those of an
ordered field, so arithmetic is exact, and `sqrt` is its square root; a missing value (NaN) is
`none`. `stream_eq_batch`: a stream of one run gives every window the row it has in the batch.
-/

namespace SentinelOps.Ml

/-- `SIGNAL_COLUMNS`. -/
structure Signals (F : Type) where
  requestRate : F
  errorRate : F
  successRate : F
  latencyMeanMs : F
  latencyP50Ms : F
  latencyP90Ms : F
  latencyP95Ms : F
  publishRate : F
  publishErrorRate : F
  publishLatencyMeanMs : F
  ordersCreatedRate : F

/-- One window: `META_COLUMNS`, `SIGNAL_COLUMNS` and the label columns, which are passed through. -/
structure SignalRecord (F τ L : Type) extends Signals F where
  runId : String
  windowStart : τ
  windowEnd : τ
  windowSeconds : F
  labels : L

/-- `DERIVED_FEATURE_COLUMNS`. -/
structure DerivedFeatures (F : Type) where
  requestRateRollMean : F
  requestRateRollStd : F
  requestRateDelta : F
  errorRateRollMean : F
  errorRateDelta : F
  latencyMeanMsRollMean : F
  latencyMeanMsRollStd : F
  latencyMeanMsDelta : F
  latencyP95MsRollMean : F
  publishErrorRateRollMean : F
  publishLatencyMeanMsRollMean : F
  trafficGrowthRate : F

/-- `META_COLUMNS`, `FEATURE_COLUMNS` and the label columns. -/
structure FeatureRow (F τ L : Type) extends SignalRecord F τ L, DerivedFeatures F

/-- `FeatureConfig`. -/
structure FeatureConfig where
  rollingWindow : Nat := 3
  atLeastTwo : 2 ≤ rollingWindow := by decide

variable {F τ L : Type} [Field F] [LinearOrder F] [LinearOrder τ]

/-- `.mean()`. -/
def mean (xs : List F) : F := xs.sum / xs.length

/-- `.std()`, the deviation of a sample. -/
def std (sqrt : F → F) (xs : List F) : F :=
  sqrt ((xs.map fun x => (x - mean xs) ^ 2).sum / (xs.length - 1))

/-- `.rolling(k, min_periods=n)` of a column at a row. -/
def rolling (k minPeriods : Nat) (f : List F → F) (col : SignalRecord F τ L → F)
    (before : List (SignalRecord F τ L)) (row : SignalRecord F τ L) : Option F :=
  let window := ((before ++ [row]).map col).rtake k
  if window.length < minPeriods then none else some (f window)

/-- `.shift(1)` of a column at the row after `before`. -/
def shift (col : SignalRecord F τ L → F) (before : List (SignalRecord F τ L)) : Option F :=
  (before.map col).getLast?

/-- `.diff()` of a column at a row. -/
def diff (col : SignalRecord F τ L → F) (before : List (SignalRecord F τ L))
    (row : SignalRecord F τ L) : Option F :=
  (shift col before).map (col row - ·)

/-- `.fillna(0.0)`. -/
def fillna (x : Option F) : F := x.getD 0

/-- `_EPS`. -/
def eps : F := 1

/-- One row of `_engineer_group`: that of a window after the windows before it in its run. -/
def engineerRow (sqrt : F → F) (cfg : FeatureConfig) (before : List (SignalRecord F τ L))
    (row : SignalRecord F τ L) : FeatureRow F τ L :=
  let k := cfg.rollingWindow
  let rollMean (col : SignalRecord F τ L → F) := fillna (rolling k 1 mean col before row)
  let rollStd (col : SignalRecord F τ L → F) := fillna (rolling k 2 (std sqrt) col before row)
  let delta (col : SignalRecord F τ L → F) := fillna (diff col before row)
  { row with
    requestRateRollMean := rollMean (·.requestRate)
    requestRateRollStd := rollStd (·.requestRate)
    requestRateDelta := delta (·.requestRate)
    errorRateRollMean := rollMean (·.errorRate)
    errorRateDelta := delta (·.errorRate)
    latencyMeanMsRollMean := rollMean (·.latencyMeanMs)
    latencyMeanMsRollStd := rollStd (·.latencyMeanMs)
    latencyMeanMsDelta := delta (·.latencyMeanMs)
    latencyP95MsRollMean := rollMean (·.latencyP95Ms)
    publishErrorRateRollMean := rollMean (·.publishErrorRate)
    publishLatencyMeanMsRollMean := rollMean (·.publishLatencyMeanMs)
    trafficGrowthRate := fillna ((shift (·.requestRate) before).map fun prevRate =>
      (row.requestRate - prevRate) / max prevRate eps) }

/-- `_engineer_group`. -/
def engineerGroup (sqrt : F → F) (cfg : FeatureConfig) (g : List (SignalRecord F τ L)) :
    List (FeatureRow F τ L) :=
  scan (engineerRow sqrt cfg) [] g

/-- The order of `sort_values(["run_id", "window_start"])`. -/
def sortLe (a b : SignalRecord F τ L) : Bool :=
  if a.runId = b.runId then decide (a.windowStart ≤ b.windowStart) else Py.strLe a.runId b.runId

/-- `groupby("run_id", sort=False)`. -/
def groupByRun (rows : List (SignalRecord F τ L)) : List (List (SignalRecord F τ L)) :=
  (rows.map (·.runId)).eraseDups.map fun run => rows.filter fun row => row.runId = run

/-- `build_features`, which raises where there is no group to concatenate. -/
def buildFeatures (sqrt : F → F) (cfg : FeatureConfig) (df : List (SignalRecord F τ L)) :
    Option (List (FeatureRow F τ L)) :=
  let parts := (groupByRun (df.mergeSort sortLe)).map (engineerGroup sqrt cfg)
  if parts = [] then none else some parts.flatten

/-- The buffer of a `StreamFeaturizer` after `push`, and the row that `push` returns. -/
def StreamFeaturizer.push (sqrt : F → F) (cfg : FeatureConfig)
    (buffer : List (SignalRecord F τ L)) (signalRecord : SignalRecord F τ L) :
    List (SignalRecord F τ L) × Option (FeatureRow F τ L) :=
  let buffer := (buffer ++ [signalRecord]).rtake cfg.rollingWindow
  (buffer, (buildFeatures sqrt cfg buffer).bind List.getLast?)

/-- The rows that `push` returns for a sequence of windows. -/
def StreamFeaturizer.pushAll (sqrt : F → F) (cfg : FeatureConfig) :
    List (SignalRecord F τ L) → List (SignalRecord F τ L) → List (Option (FeatureRow F τ L))
  | _, [] => []
  | buffer, w :: ws =>
    (push sqrt cfg buffer w).2 :: pushAll sqrt cfg (push sqrt cfg buffer w).1 ws

variable {sqrt : F → F} {cfg : FeatureConfig} {col : SignalRecord F τ L → F}
  {ws : List (SignalRecord F τ L)}

omit [Field F] [LinearOrder F] [LinearOrder τ] in
/-- A rolling statistic looks back over its window. -/
lemma trailing_rolling {k n : Nat} {f : List F → F} (pos : 0 < k) :
    Trailing k (rolling k n f col) := by
  intro before row
  have window : ((before.rtake (k - 1) ++ [row]).map col).rtake k =
      ((before ++ [row]).map col).rtake k := by
    rw [← rtake_append_singleton pos, ← map_rtake, rtake_rtake, Nat.min_self, map_rtake]
  unfold rolling
  rw [window]

omit [Field F] [LinearOrder F] [LinearOrder τ] in
/-- A lag looks back over two rows. -/
lemma shift_rtake {before : List (SignalRecord F τ L)} {n : Nat} (pos : 0 < n) :
    shift col (before.rtake n) = shift col before := by
  unfold shift
  rw [map_rtake, getLast?_rtake pos]

omit [LinearOrder τ] in
/-- The features of a row look back over the rolling window. -/
lemma trailing_engineerRow :
    Trailing cfg.rollingWindow (engineerRow sqrt cfg : List (SignalRecord F τ L) → _) := by
  intro before row
  have two := cfg.atLeastTwo
  have lag (col : SignalRecord F τ L → F) : shift col (before.rtake (cfg.rollingWindow - 1)) =
      shift col before := shift_rtake (by omega)
  have stat (n : Nat) (f : List F → F) (col : SignalRecord F τ L → F) :
      rolling cfg.rollingWindow n f col (before.rtake (cfg.rollingWindow - 1)) row =
        rolling cfg.rollingWindow n f col before row := trailing_rolling (by omega) before row
  unfold engineerRow diff
  simp only [lag, stat]

/-- The windows of one run in the order of their time. -/
structure OneRun (run : String) (ws : List (SignalRecord F τ L)) : Prop where
  run : ∀ w ∈ ws, w.runId = run
  increasing : ws.Pairwise fun w w' => w.windowStart < w'.windowStart

omit [Field F] [LinearOrder F] in
/-- A part of a run. -/
lemma OneRun.sublist {run : String} {ws' : List (SignalRecord F τ L)} (h : OneRun run ws)
    (sub : ws'.Sublist ws) : OneRun run ws' :=
  ⟨fun w member => h.run w (sub.subset member), h.increasing.sublist sub⟩

/-- The features of a run. -/
lemma OneRun.batch {run : String} (h : OneRun run ws) (some_window : ws ≠ []) :
    buildFeatures sqrt cfg ws = some (engineerGroup sqrt cfg ws) := by
  have sorted : ws.mergeSort sortLe = ws := by
    apply List.mergeSort_of_pairwise
    refine h.increasing.imp_of_mem fun {a b} inA inB before => ?_
    simp [sortLe, h.run a inA, h.run b inB, before.le]
  have runs : (ws.map (·.runId)).eraseDups = [run] := by
    cases ws with
    | nil => exact absurd rfl some_window
    | cons w ws =>
      rw [List.map_cons, List.eraseDups_cons, h.run w List.mem_cons_self]
      have none : (ws.map (·.runId)).filter (fun b => !b == run) = [] := by
        rw [List.filter_eq_nil_iff]
        intro r member
        obtain ⟨w', there, rfl⟩ := List.mem_map.mp member
        simp [h.run w' (List.mem_cons_of_mem _ there)]
      rw [none]
      rfl
  have group : groupByRun ws = [ws] := by
    unfold groupByRun
    rw [runs, List.map_singleton]
    congr 1
    rw [List.filter_eq_self]
    intro w member
    simp [h.run w member]
  unfold buildFeatures
  rw [sorted, group]
  simp

/-- A stream feeds its buffer. -/
lemma pushAll_eq_feed {buffer : List (SignalRecord F τ L)} :
    StreamFeaturizer.pushAll sqrt cfg buffer ws =
      feed cfg.rollingWindow (fun b => (buildFeatures sqrt cfg b).bind List.getLast?) buffer
        ws := by
  induction ws generalizing buffer with
  | nil => rfl
  | cons w ws ih => exact congrArg _ ih

/-- A stream of one run returns the rows of the batch. -/
lemma OneRun.stream {run : String} (h : OneRun run ws) :
    StreamFeaturizer.pushAll sqrt cfg [] ws = (engineerGroup sqrt cfg ws).map some := by
  have trailing : Trailing cfg.rollingWindow fun before (row : SignalRecord F τ L) =>
      some (engineerRow sqrt cfg before row) :=
    fun before row => congrArg some (trailing_engineerRow before row)
  have agrees : ∀ (init : List (SignalRecord F τ L)) x, init ++ [x] <:+: [] ++ ws →
      (buildFeatures sqrt cfg (init ++ [x])).bind List.getLast? =
        some (engineerRow sqrt cfg init x) := by
    intro init x part
    rw [List.nil_append] at part
    rw [(h.sublist part.sublist).batch (by simp), Option.bind_some]
    exact getLast?_scan
  have two := cfg.atLeastTwo
  have fed := feed_eq_scan
    (g := fun b => (buildFeatures sqrt cfg b).bind List.getLast?) (by omega) trailing agrees
  rw [List.rtake_nil] at fed
  rw [pushAll_eq_feed, fed, scan_map]
  rfl

/-- The row that a stream of one run returns for a window is the one that the batch computes for it,
whichever later windows the batch holds. -/
theorem stream_eq_batch (sqrt : F → F) (cfg : FeatureConfig) {run : String}
    {ws : List (SignalRecord F τ L)} (h : OneRun run ws) (i : Nat) (position : i < ws.length) :
    ∃ row, (StreamFeaturizer.pushAll sqrt cfg [] ws)[i]? = some (some row) ∧
      ∀ n, i < n → ∃ rows, buildFeatures sqrt cfg (ws.take n) = some rows ∧
        rows[i]? = some row := by
  have there : i < (engineerGroup sqrt cfg ws).length := by
    unfold engineerGroup
    rwa [length_scan]
  refine ⟨(engineerGroup sqrt cfg ws)[i], ?_, ?_⟩
  · rw [h.stream, List.getElem?_map, List.getElem?_eq_getElem there, Option.map_some]
  · intro n before
    have some_window : ws.take n ≠ [] := by
      rw [← List.length_pos_iff, List.length_take]
      omega
    refine ⟨_, (h.sublist (List.take_sublist n ws)).batch some_window, ?_⟩
    have kept : engineerGroup sqrt cfg (ws.take n) = (engineerGroup sqrt cfg ws).take n := scan_take
    rw [kept, List.getElem?_take_of_lt before, List.getElem?_eq_getElem there]

open scoped Numerals in
/-- A window of a stream over ten seconds. -/
noncomputable def streamWindow (start : Nat) (rate : ℝ) : SignalRecord ℝ Nat Unit where
  runId := "run-1"
  windowStart := start
  windowEnd := start + 10
  windowSeconds := 10
  labels := ()
  requestRate := rate
  errorRate := 0
  successRate := 1
  latencyMeanMs := 110
  latencyP50Ms := 100
  latencyP90Ms := 150
  latencyP95Ms := 180
  publishRate := rate
  publishErrorRate := 0
  publishLatencyMeanMs := 4
  ordersCreatedRate := rate

/-- The fourth window of a stream has the row of the batch although the buffer holds three. -/
theorem stream_eq_batch_fourth :
    let ws := [streamWindow 0 4, streamWindow 10 6, streamWindow 20 3, streamWindow 30 8]
    ∃ row, (StreamFeaturizer.pushAll Real.sqrt {} [] ws)[3]? = some (some row) ∧
      ∀ n, 3 < n → ∃ rows, buildFeatures Real.sqrt {} (ws.take n) = some rows ∧
        rows[3]? = some row := by
  have h : OneRun "run-1"
      [streamWindow 0 4, streamWindow 10 6, streamWindow 20 3, streamWindow 30 8] := by
    constructor <;> simp [streamWindow]
  exact stream_eq_batch Real.sqrt {} h 3 (by simp)

end SentinelOps.Ml
