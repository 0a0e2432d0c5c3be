import SentinelOps.Lib.Numerals
import SentinelOps.Ml.Calibration
import SentinelOps.Ml.Detectors
import SentinelOps.Ml.Features
import SentinelOps.Ml.Splits

/-!
# Training without a look ahead

How a detector is trained on a run: its features are built over the whole run, the features are split
by time, the earliest rows are fitted and the next ones choose the threshold. `train_ignores_test`:
what is trained does not depend on the windows that are kept for the test, although the features are
built over them too.
-/

namespace SentinelOps.Ml

variable {F τ : Type} [Field F] [LinearOrder F] [LinearOrder τ]

/-- The label columns. -/
structure WindowLabels where
  label : String
  isAnomaly : Int
  scenario : String

/-- The values of `FEATURE_COLUMNS` in a row. -/
def matrixRow {L : Type} (row : FeatureRow F τ L) : List F :=
  [row.requestRate, row.errorRate, row.successRate, row.latencyMeanMs, row.latencyP50Ms,
    row.latencyP90Ms, row.latencyP95Ms, row.publishRate, row.publishErrorRate,
    row.publishLatencyMeanMs, row.ordersCreatedRate, row.requestRateRollMean, row.requestRateRollStd,
    row.requestRateDelta, row.errorRateRollMean, row.errorRateDelta, row.latencyMeanMsRollMean,
    row.latencyMeanMsRollStd, row.latencyMeanMsDelta, row.latencyP95MsRollMean,
    row.publishErrorRateRollMean, row.publishLatencyMeanMsRollMean, row.trafficGrowthRate]

/-- A fitted detector and its threshold. -/
structure Trained (d : Detector F) where
  state : d.State
  threshold : F

open scoped Numerals in
/-- `fit` on the training rows and `calibrate_threshold` on the validation rows. -/
def fitDetector (d : Detector F) (split : Split (FeatureRow F τ WindowLabels)) :
    Except String (Trained d) := do
  let state ← d.fit (split.train.map matrixRow) (split.train.map (·.labels.isAnomaly))
  let scores := d.score state (split.val.map matrixRow)
  return ⟨state, calibrateThreshold .f1 (1 / 20) (scores.zip (split.val.map (·.labels.isAnomaly)))⟩

/-- The split of the features of a run. -/
def prepared (sqrt : F → F) (cfg : FeatureConfig) (argsort : Argsort τ) (valFraction testFraction : ℚ)
    (df : List (SignalRecord F τ WindowLabels)) :
    Except String (Split (FeatureRow F τ WindowLabels)) := do
  let feats ← (buildFeatures sqrt cfg df).elim (.error "No objects to concatenate") .ok
  chronologicalSplit argsort (·.windowStart) feats valFraction testFraction

/-- `_train`. -/
def train (d : Detector F) (sqrt : F → F) (cfg : FeatureConfig) (argsort : Argsort τ)
    (valFraction testFraction : ℚ) (df : List (SignalRecord F τ WindowLabels)) :
    Except String (Trained d) := do
  let split ← prepared sqrt cfg argsort valFraction testFraction df
  fitDetector d split

/-- Two windows at the same place of a run, which are the same up to a point in time. -/
structure SameUpTo {L : Type} (cut : τ) (a b : SignalRecord F τ L) : Prop where
  runId : a.runId = b.runId
  windowStart : a.windowStart = b.windowStart
  known : a.windowStart ≤ cut → a = b

section Causality

variable {L : Type} {sqrt : F → F} {cfg : FeatureConfig} {cut : τ}
  {ps : List (SignalRecord F τ L × SignalRecord F τ L)}

omit [Field F] [LinearOrder F] in
/-- The order of a table by run and time. -/
lemma sortLe_trans (a b c : SignalRecord F τ L) (ab : sortLe a b = true) (bc : sortLe b c = true) :
    sortLe a c = true := by
  unfold sortLe at *
  by_cases runs : a.runId = b.runId <;> by_cases runs' : b.runId = c.runId
  · simp only [runs, runs', if_true, decide_eq_true_eq] at *
    exact ab.trans bc
  · simp only [runs, runs', if_true, if_false] at *
    exact bc
  · simp only [← runs', runs, if_true, if_false] at *
    exact ab
  · simp only [runs, runs', if_false] at ab bc
    have other : a.runId ≠ c.runId := by
      intro same
      rw [← same] at bc
      exact runs (Py.strLe_antisymm ab bc)
    rw [if_neg other]
    exact Py.strLe_trans _ _ _ ab bc

omit [Field F] [LinearOrder F] in
/-- Any two windows are in order one way or the other. -/
lemma sortLe_total (a b : SignalRecord F τ L) : (sortLe a b || sortLe b a) = true := by
  unfold sortLe
  by_cases runs : a.runId = b.runId
  · simpa [runs] using le_total a.windowStart b.windowStart
  · rw [if_neg runs, if_neg (Ne.symm runs)]
    exact Py.strLe_total _ _

/-- The windows of a table of pairs, sorted and grouped by run. -/
def pairGroups (ps : List (SignalRecord F τ L × SignalRecord F τ L)) :
    List (List (SignalRecord F τ L × SignalRecord F τ L)) :=
  let qs := ps.mergeSort fun p q => sortLe p.1 q.1
  ((qs.map Prod.fst).map (·.runId)).eraseDups.map fun run => qs.filter fun p => p.1.runId = run

omit [Field F] [LinearOrder F] in
/-- Both tables are sorted and grouped as the table of pairs is. -/
lemma groupByRun_pairs (same : ∀ p ∈ ps, SameUpTo cut p.1 p.2) :
    groupByRun ((ps.map Prod.fst).mergeSort sortLe) = (pairGroups ps).map (·.map Prod.fst) ∧
      groupByRun ((ps.map Prod.snd).mergeSort sortLe) = (pairGroups ps).map (·.map Prod.snd) := by
  have order : ∀ p ∈ ps, ∀ q ∈ ps, sortLe p.1 q.1 = sortLe p.2 q.2 := by
    intro p hp q hq
    unfold sortLe
    rw [(same p hp).runId, (same p hp).windowStart, (same q hq).runId, (same q hq).windowStart]
  obtain ⟨first, second⟩ := mergeSort_pairs order
  have alike : ∀ p ∈ ps.mergeSort (fun p q => sortLe p.1 q.1), p.1.runId = p.2.runId :=
    fun p mem => (same p (List.mem_mergeSort.mp mem)).runId
  have runs : ((ps.mergeSort fun p q => sortLe p.1 q.1).map Prod.snd).map (·.runId) =
      ((ps.mergeSort fun p q => sortLe p.1 q.1).map Prod.fst).map (·.runId) := by
    rw [List.map_map, List.map_map]
    exact List.map_congr_left fun p mem => (alike p mem).symm
  have kept (run : String) := filter_pairs (t := fun row : SignalRecord F τ L => row.runId = run)
    fun p mem => by rw [alike p mem]
  unfold groupByRun pairGroups
  rw [← first, ← second, runs]
  exact ⟨(List.map_congr_left fun run _ => (kept run).1.symm).trans List.map_map.symm,
    (List.map_congr_left fun run _ => (kept run).2.symm).trans List.map_map.symm⟩

omit [Field F] [LinearOrder F] in
/-- The windows of a run are in the order of time. -/
lemma pairGroups_sorted : ∀ g ∈ pairGroups ps,
    (∀ p ∈ g, p ∈ ps) ∧ g.Pairwise fun p q => p.1.windowStart ≤ q.1.windowStart := by
  intro g mem
  obtain ⟨run, -, rfl⟩ := List.mem_map.mp mem
  refine ⟨fun p there => List.mem_mergeSort.mp (List.mem_filter.mp there).1, ?_⟩
  have sorted : (ps.mergeSort fun p q => sortLe p.1 q.1).Pairwise fun p q =>
      sortLe p.1 q.1 = true :=
    List.pairwise_mergeSort (fun a b c => sortLe_trans a.1 b.1 c.1)
      (fun a b => sortLe_total a.1 b.1) ps
  refine (sorted.sublist List.filter_sublist).imp_of_mem fun {p q} hp hq before => ?_
  have first := (List.mem_filter.mp hp).2
  have second := (List.mem_filter.mp hq).2
  rw [decide_eq_true_eq] at first second
  simpa [sortLe, first, second] using before

/-- Two tables with the same windows have features that are the same up to that point. -/
lemma buildFeatures_pairs (same : ∀ p ∈ ps, SameUpTo cut p.1 p.2) :
    ∃ rows : List (FeatureRow F τ L × FeatureRow F τ L),
      buildFeatures sqrt cfg (ps.map Prod.fst) =
        (if pairGroups ps = [] then none else some (rows.map Prod.fst)) ∧
      buildFeatures sqrt cfg (ps.map Prod.snd) =
        (if pairGroups ps = [] then none else some (rows.map Prod.snd)) ∧
      ∀ r ∈ rows, r.1.windowStart = r.2.windowStart ∧ (r.1.windowStart ≤ cut → r.1 = r.2) := by
  obtain ⟨first, second⟩ := groupByRun_pairs same
  refine ⟨((pairGroups ps).map (scan (pairColumn (engineerRow sqrt cfg)) [])).flatten, ?_, ?_, ?_⟩
  · unfold buildFeatures
    simp only [first, List.map_map, List.map_eq_nil_iff, List.map_flatten]
    have each : (engineerGroup sqrt cfg ∘ List.map Prod.fst :
        List (SignalRecord F τ L × SignalRecord F τ L) → _) =
        List.map Prod.fst ∘ scan (pairColumn (engineerRow sqrt cfg)) [] :=
      funext fun g => (scan_pairs []).1.symm
    rw [each]
  · unfold buildFeatures
    simp only [second, List.map_map, List.map_eq_nil_iff, List.map_flatten]
    have each : (engineerGroup sqrt cfg ∘ List.map Prod.snd :
        List (SignalRecord F τ L × SignalRecord F τ L) → _) =
        List.map Prod.snd ∘ scan (pairColumn (engineerRow sqrt cfg)) [] :=
      funext fun g => (scan_pairs []).2.symm
    rw [each]
  · intro r mem
    obtain ⟨column, there, here⟩ := List.mem_flatten.mp mem
    obtain ⟨g, group, rfl⟩ := List.mem_map.mp there
    obtain ⟨inside, sorted⟩ := pairGroups_sorted g group
    obtain ⟨p, hp, ⟨before, rfl⟩, known⟩ := eq_of_mem_scan_pairs
      (fun p => p.1.windowStart ≤ cut) (fun p hp => (same p (inside p hp)).known)
      (sorted.imp fun le known => le.trans known) here
    exact ⟨(same p (inside p hp)).windowStart, known⟩

end Causality

section Splits

variable {α : Type} {argsort : Argsort τ} {key : α → τ} {rows : List (α × α)}

/-- Tables of the same times are sorted alike. -/
lemma sortValues_pairs (same : ∀ r ∈ rows, key r.1 = key r.2) :
    (sortValues argsort (fun r => key r.1) rows).map Prod.fst =
        sortValues argsort key (rows.map Prod.fst) ∧
      (sortValues argsort (fun r => key r.1) rows).map Prod.snd =
        sortValues argsort key (rows.map Prod.snd) := by
  unfold sortValues
  rw [map_select, map_select, List.map_map, List.map_map]
  refine ⟨rfl, ?_⟩
  have keys : rows.map (fun r => key r.1) = rows.map (key ∘ Prod.snd) := List.map_congr_left same
  rw [keys]

end Splits

/-- A share is never empty. -/
lemma share_pos {n : ℕ} {fraction : ℚ} : 0 < share n fraction := Nat.lt_of_lt_of_le Nat.one_pos (le_max_left _ _)

/-- Rows that are not later than a row of a part that is known are known. -/
lemma known_of_noOverlap {α : Type} {key : α → τ} {xs ys : List α} {cut : τ}
    (order : NoOverlap key xs ys) (some_row : ys ≠ []) (seen : ∀ y ∈ ys, key y ≤ cut) :
    ∀ x ∈ xs, key x ≤ cut := by
  obtain ⟨y, mem⟩ := List.exists_mem_of_ne_nil _ some_row
  exact fun x there => (order x there y mem).trans (seen y mem)

/-- A detector is fitted to the training and the validation rows only. -/
lemma fitDetector_congr {d : Detector F} {split split' : Split (FeatureRow F τ WindowLabels)}
    (train : split'.train = split.train) (val : split'.val = split.val) :
    fitDetector d split' = fitDetector d split := by
  unfold fitDetector
  rw [train, val]

/-- Two tables with the same windows are split alike, into rows that are the same up to that point. -/
lemma prepared_pairs {sqrt : F → F} {cfg : FeatureConfig} {argsort : Argsort τ} {v t : ℚ} {cut : τ}
    {ps : List (SignalRecord F τ WindowLabels × SignalRecord F τ WindowLabels)}
    (alike : ∀ p ∈ ps, SameUpTo cut p.1 p.2) {split : Split (FeatureRow F τ WindowLabels)}
    (divided : prepared sqrt cfg argsort v t (ps.map Prod.fst) = .ok split) :
    ∃ pairs : Split (FeatureRow F τ WindowLabels × FeatureRow F τ WindowLabels),
      split = pairs.map Prod.fst ∧
      prepared sqrt cfg argsort v t (ps.map Prod.snd) = .ok (pairs.map Prod.snd) ∧
      (∀ r ∈ pairs.train ++ pairs.val, r.1.windowStart ≤ cut → r.1 = r.2) ∧
      NoOverlap (fun r => r.1.windowStart) pairs.train pairs.val ∧ pairs.val ≠ [] := by
  obtain ⟨rows, first, second, agree⟩ :=
    @buildFeatures_pairs F τ _ _ _ WindowLabels sqrt cfg cut ps alike
  unfold prepared at divided
  rw [first] at divided
  split_ifs at divided with none
  · cases divided
  rw [Option.elim_some, Except.ok_bind, chronologicalSplit_eq_ok, List.length_map] at divided
  obtain ⟨divisible, rfl⟩ := divided
  obtain ⟨left, right⟩ := @sortValues_pairs τ _ (FeatureRow F τ WindowLabels) argsort
    (fun row => row.windowStart) rows fun r mem => (agree r mem).1
  have sorted : (sortValues argsort (fun r => r.1.windowStart) rows).Perm rows := sortValues_perm
  refine ⟨cutAt (sortValues argsort (fun r => r.1.windowStart) rows)
    (rows.length - share rows.length v - share rows.length t) (share rows.length v), ?_, ?_, ?_,
    (cutAt_noOverlap _ _).1, ?_⟩
  · rw [← left, cutAt_map]
  · unfold prepared
    rw [second, if_neg none, Option.elim_some, Except.ok_bind, chronologicalSplit_eq_ok,
      List.length_map, ← right, cutAt_map]
    exact ⟨divisible, rfl⟩
  · intro r mem
    refine (agree r (sorted.subset ?_)).2
    rw [cutAt, ← List.take_add] at mem
    exact List.mem_of_mem_take mem
  · have enough := divisible.2.2
    have one : 0 < share rows.length v := share_pos
    rw [cutAt, ← List.length_pos_iff, List.length_take, List.length_drop, sorted.length_eq]
    omega

/-- What is trained on a run does not depend on the windows that are tested on: two tables of the same
windows which differ only after the last window of the validation part train the same detector. -/
theorem train_ignores_test (d : Detector F) (sqrt : F → F) (cfg : FeatureConfig)
    (argsort : Argsort τ) (valFraction testFraction : ℚ) {cut : τ}
    {df df' : List (SignalRecord F τ WindowLabels)} (same : List.Forall₂ (SameUpTo cut) df df')
    {split : Split (FeatureRow F τ WindowLabels)}
    (divided : prepared sqrt cfg argsort valFraction testFraction df = .ok split)
    (seen : ∀ row ∈ split.val, row.windowStart ≤ cut) :
    train d sqrt cfg argsort valFraction testFraction df' =
      train d sqrt cfg argsort valFraction testFraction df := by
  obtain ⟨ps, rfl, rfl, alike⟩ := exists_pairs same
  obtain ⟨pairs, rfl, divided', agree, order, some_row⟩ := prepared_pairs alike divided
  have known_val : ∀ r ∈ pairs.val, r.1.windowStart ≤ cut :=
    fun r mem => seen r.1 (List.mem_map_of_mem mem)
  have known_train := known_of_noOverlap order some_row known_val
  unfold train
  rw [divided, divided', Except.ok_bind, Except.ok_bind]
  apply fitDetector_congr
  · exact List.map_congr_left fun r mem =>
      (agree r (List.mem_append_left _ mem) (known_train r mem)).symm
  · exact List.map_congr_left fun r mem =>
      (agree r (List.mem_append_right _ mem) (known_val r mem)).symm

/-- A window of a run that is calm but for its traffic. -/
def trainingWindow (start : ℕ) (rate : ℚ) : SignalRecord ℚ ℕ WindowLabels where
  runId := "run-1"
  windowStart := start
  windowEnd := start + 10
  windowSeconds := 10
  labels := ⟨"normal", 0, "steady"⟩
  requestRate := rate
  errorRate := 0
  successRate := 1
  latencyMeanMs := 110
  latencyP50Ms := 100
  latencyP90Ms := 150
  latencyP95Ms := 180
  publishRate := rate
  publishErrorRate := 0
  publishLatencyMeanMs := 4
  ordersCreatedRate := rate

/-- A run of four windows; the last is the one that is tested on. -/
def trainingRun (last : ℚ) : List (SignalRecord ℚ ℕ WindowLabels) :=
  [trainingWindow 0 4, trainingWindow 10 6, trainingWindow 20 3, trainingWindow 30 last]

/-- How it is split. -/
lemma prepared_trainingRun (last : ℚ) :
    prepared id {} Argsort.stable (1 / 4) (1 / 4) (trainingRun last) =
      .ok (cutAt (sortValues Argsort.stable (·.windowStart)
        (engineerGroup id {} (trainingRun last))) 2 1) := by
  have run : OneRun "run-1" (trainingRun last) := by
    constructor <;> simp [trainingRun, trainingWindow]
  rw [prepared, run.batch (by simp [trainingRun]), Option.elim_some, Except.ok_bind,
    chronologicalSplit_eq_ok]
  have four : (engineerGroup id {} (trainingRun last)).length = 4 := length_scan
  have one : share 4 (1 / 4) = 1 := by decide +kernel
  have half : PyFloat.rounded (1 / 4 + 1 / 4) < 1 := by decide +kernel
  rw [four, Divisible, one]
  exact ⟨⟨by norm_num, half, by decide⟩, rfl⟩

/-- A burst of traffic in the window that is tested on does not change what is trained. -/
theorem train_ignores_test_burst :
    train (RobustZScoreDetector.detector (1 / 1000000000) 23) id {} Argsort.stable (1 / 4) (1 / 4)
        (trainingRun 400) =
      train (RobustZScoreDetector.detector (1 / 1000000000) 23) id {} Argsort.stable (1 / 4) (1 / 4)
        (trainingRun 5) := by
  have same : List.Forall₂ (SameUpTo 20) (trainingRun 5) (trainingRun 400) := by
    refine .cons ⟨rfl, rfl, fun _ => rfl⟩ (.cons ⟨rfl, rfl, fun _ => rfl⟩
      (.cons ⟨rfl, rfl, fun _ => rfl⟩ (.cons ⟨rfl, rfl, fun early => ?_⟩ .nil)))
    exact absurd early (by decide)
  exact train_ignores_test _ _ _ _ _ _ same (prepared_trainingRun 5) (by decide)

end SentinelOps.Ml
