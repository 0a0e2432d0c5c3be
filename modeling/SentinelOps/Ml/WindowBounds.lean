import Mathlib.Algebra.Order.Field.Basic
import Mathlib.Order.Interval.Set.Basic
import Mathlib.Tactic.GCongr
import Mathlib.Tactic.Linarith
import SentinelOps.Ml.WindowSignals

/-!
# Bounds of window signals

In exact arithmetic the estimate of a quantile is monotone and stays within the finite bounds of the
buckets, and the signals of a window between two scrapes of one process are well defined, not
negative and, where they are ratios, at most one (`windowSignals_bounded`).
-/

namespace SentinelOps.Ml

open PyFloat

/-- A bound of a bucket: a non-negative number or infinity. -/
def BucketBound (le : Number) : Prop := le = .inf ∨ ∃ b : ℚ, 0 ≤ b ∧ le.val = .fin b

/-- The order of finite bounds. -/
lemma lt_of_finite {k le : Number} {a b : ℚ} (less : k < le) (fin_k : k.val = .fin a)
    (fin_le : le.val = .fin b) : a < b := by
  obtain ⟨_, _⟩ := k
  obtain ⟨_, _⟩ := le
  cases fin_k
  cases fin_le
  exact WithTop.coe_lt_coe.mp (WithBot.coe_lt_coe.mp less)

/-- Nothing is beyond infinity. -/
lemma not_inf_lt {le : Number} : ¬ Number.inf < le := by
  obtain ⟨x, num⟩ := le
  intro less
  cases x with
  | nan => exact num rfl
  | negInf => exact absurd (show ((⊤ : WithTop ℚ) : WithBot (WithTop ℚ)) < ⊥ from less) not_lt_bot
  | fin q => exact absurd (WithBot.coe_lt_coe.mp less) not_top_lt
  | posInf => exact lt_irrefl _ less

/-- Some bucket holds as much as the target. -/
def Reached (items : List (Number × PyFloat)) (t : ℚ) : Prop :=
  ∃ e ∈ items, (PyFloat.fin t).le e.2 = true

/-- The number read in a bucket of finite bound `b` and count `c` after the bound `pl` of count
`pc`. -/
def interpolated (pl pc b c t : ℚ) : ℚ :=
  if c - pc ≤ 0 then b else pl + (b - pl) * (t - pc) / (c - pc)

section
variable {pl pc b c t : ℚ}

/-- The number read lies between the two bounds. -/
lemma interpolated_mem (above : pl ≤ b) (low : pc ≤ t) (high : t ≤ c) :
    pl ≤ interpolated pl pc b c t ∧ interpolated pl pc b c t ≤ b := by
  unfold interpolated
  split
  · exact ⟨above, le_refl _⟩
  · rename_i wide
    have wide : 0 < c - pc := not_le.mp wide
    constructor
    · have share : 0 ≤ (b - pl) * (t - pc) / (c - pc) :=
        div_nonneg (mul_nonneg (sub_nonneg.mpr above) (sub_nonneg.mpr low)) wide.le
      linarith only [share]
    · have share : (b - pl) * (t - pc) / (c - pc) ≤ b - pl := by
        rw [div_le_iff₀ wide]
        exact mul_le_mul_of_nonneg_left (sub_le_sub_right high pc) (sub_nonneg.mpr above)
      linarith only [share]

/-- The number read grows with the target. -/
lemma interpolated_mono {t' : ℚ} (above : pl ≤ b) (more : t ≤ t') :
    interpolated pl pc b c t ≤ interpolated pl pc b c t' := by
  unfold interpolated
  split
  · exact le_refl _
  · rename_i wide
    have wide : 0 < c - pc := not_le.mp wide
    have rise : 0 ≤ b - pl := sub_nonneg.mpr above
    gcongr

/-- The loop reads that number in a bucket with a finite bound. -/
lemma interpolate_fin {le : Number} (fin_le : le.val = .fin b) :
    interpolate .fin (.fin t) (.fin pl, .fin pc) (le, .fin c) =
      .ok (.fin (interpolated pl pc b c t)) := by
  have bounded : le ≠ .inf := by
    rintro rfl
    cases fin_le
  unfold interpolate interpolated
  dsimp only
  rw [if_neg bounded, subBy_fin, le_fin, fin_le]
  split
  · rename_i narrow
    rw [if_pos (of_decide_eq_true narrow)]
  · rename_i wide
    have wide : ¬ c - pc ≤ 0 := fun narrow => wide (decide_eq_true narrow)
    rw [if_neg wide, subBy_fin, subBy_fin, mulBy_fin, divBy_fin fun zero => wide zero.le]
    rfl

end

/-- Reading buckets above a bound yields a number from that bound on, monotone in the target. -/
lemma exists_findBucket {items : List (Number × PyFloat)} {lastLe : PyFloat} {pl pc : ℚ}
    (sorted : items.Pairwise fun a b => a.1 < b.1)
    (bounds : ∀ e ∈ items, e.1 = .inf ∨ ∃ b : ℚ, pl ≤ b ∧ e.1.val = .fin b)
    (counts : ∀ e ∈ items, ∃ c : ℚ, e.2 = .fin c) :
    ∃ v : ℚ → ℚ,
      (∀ t, pc ≤ t → Reached items t →
        findBucket .fin (.fin t) lastLe (.fin pl, .fin pc) items = .ok (.fin (v t)) ∧ pl ≤ v t ∧
          ∀ m, pl ≤ m → (∀ e ∈ items, ∀ b : ℚ, e.1.val = .fin b → b ≤ m) → v t ≤ m) ∧
      ∀ t t', pc ≤ t → t ≤ t' → Reached items t' → v t ≤ v t' := by
  induction items generalizing pl pc with
  | nil =>
    refine ⟨fun _ => 0, ?_, ?_⟩
    · rintro t _ ⟨e, mem, _⟩
      cases mem
    · rintro t t' _ _ ⟨e, mem, _⟩
      cases mem
  | cons e rest ih =>
    obtain ⟨le, count⟩ := e
    obtain ⟨c, rfl⟩ : ∃ c : ℚ, count = .fin c := counts _ List.mem_cons_self
    obtain rfl | ⟨b, above, fin_le⟩ := bounds _ List.mem_cons_self
    · -- behind the infinite bucket there is none
      have alone : rest = [] := by
        cases rest with
        | nil => rfl
        | cons e' rest =>
          exact absurd ((List.pairwise_cons.mp sorted).1 e' List.mem_cons_self) not_inf_lt
      subst alone
      refine ⟨fun _ => pl, ?_, fun _ _ _ _ _ => le_refl _⟩
      intro t _ reached
      obtain ⟨e, mem, here⟩ := reached
      rw [List.mem_singleton.mp mem] at here
      refine ⟨?_, le_refl _, fun m le_m _ => le_m⟩
      rw [findBucket, if_pos here]
      rfl
    · have above_rest : ∀ e ∈ rest, e.1 = .inf ∨ ∃ b' : ℚ, b ≤ b' ∧ e.1.val = .fin b' := by
        intro e mem
        refine (bounds e (List.mem_cons_of_mem _ mem)).imp_right ?_
        rintro ⟨b', -, fin_e⟩
        exact ⟨b', (lt_of_finite ((List.pairwise_cons.mp sorted).1 e mem) fin_le fin_e).le, fin_e⟩
      obtain ⟨v, reads, mono⟩ := @ih b c (List.pairwise_cons.mp sorted).2 above_rest
        fun e mem => counts e (List.mem_cons_of_mem _ mem)
      have later {t : ℚ} (high : ¬ t ≤ c) (reached : Reached ((le, .fin c) :: rest) t) :
          Reached rest t := by
        obtain ⟨e, mem, here⟩ := reached
        obtain rfl | mem := List.mem_cons.mp mem
        · rw [le_fin] at here
          exact absurd (of_decide_eq_true here) high
        · exact ⟨e, mem, here⟩
      let inside := interpolated pl pc b c
      have inside_bounds {t : ℚ} (low : pc ≤ t) (high : t ≤ c) : pl ≤ inside t ∧ inside t ≤ b :=
        interpolated_mem above low high
      have inside_mono {t t' : ℚ} (more : t ≤ t') : inside t ≤ inside t' :=
        interpolated_mono above more
      -- targets up to the count of the bucket are read here, greater ones from the rest on
      refine ⟨fun t => if t ≤ c then inside t else v t, ?_, ?_⟩
      · intro t low reached
        dsimp only
        by_cases high : t ≤ c
        · rw [if_pos high]
          refine ⟨?_, (inside_bounds low high).1, fun m _ covers =>
            (inside_bounds low high).2.trans (covers _ List.mem_cons_self b fin_le)⟩
          rw [findBucket, if_pos (by rw [le_fin]; exact decide_eq_true high),
            interpolate_fin fin_le]
        · rw [if_neg high]
          obtain ⟨value, beyond, under⟩ := reads t (not_le.mp high).le (later high reached)
          refine ⟨?_, above.trans beyond, fun m le_m covers => under m ?_ ?_⟩
          · rw [findBucket, if_neg (by rw [le_fin]; simpa using high), fin_le]
            exact value
          · exact covers _ List.mem_cons_self b fin_le
          · exact fun e mem => covers e (List.mem_cons_of_mem _ mem)
      · intro t t' low more reached
        dsimp only
        by_cases high' : t' ≤ c
        · rw [if_pos high', if_pos (more.trans high')]
          exact inside_mono more
        · rw [if_neg high']
          by_cases high : t ≤ c
          · rw [if_pos high]
            exact (inside_bounds low high).2.trans
              (reads t' (not_le.mp high').le (later high' reached)).2.1
          · rw [if_neg high]
            exact mono t t' (not_le.mp high).le more (later high' reached)

/-- The finite value of a bound. -/
def finiteBound (le : Number) : Option ℚ :=
  match le.val with
  | .fin b => some b
  | _ => none

/-- The largest finite bound of non-negative ones, zero if there is none. -/
def largestFiniteBound (bounds : List Number) : ℚ :=
  (bounds.filterMap finiteBound).foldr Max.max 0

/-- Every finite bound is at most the largest one. -/
lemma le_largestFiniteBound {bounds : List Number} {le : Number} {b : ℚ} (mem : le ∈ bounds)
    (fin_le : le.val = .fin b) : b ≤ largestFiniteBound bounds := by
  unfold largestFiniteBound
  induction bounds with
  | nil => cases mem
  | cons le' bounds ih =>
    obtain rfl | mem := List.mem_cons.mp mem
    · have finite : finiteBound le = some b := by
        unfold finiteBound
        rw [fin_le]
      rw [List.filterMap_cons_some finite]
      exact le_max_left _ _
    · cases finite : finiteBound le' with
      | none => rw [List.filterMap_cons_none finite]; exact ih mem
      | some b' => rw [List.filterMap_cons_some finite]; exact (ih mem).trans (le_max_right _ _)

/-- The largest finite bound is not negative. -/
lemma largestFiniteBound_nonneg {bounds : List Number} : 0 ≤ largestFiniteBound bounds := by
  unfold largestFiniteBound
  induction bounds.filterMap finiteBound with
  | nil => exact le_refl _
  | cons b bs ih => exact ih.trans (le_max_right _ _)

/-- Buckets with non-negative or infinite bounds and counts that are not negative. -/
def WellCounted (deltas : Dict Number PyFloat) : Prop :=
  ∀ le count, deltas.get? le = some count → BucketBound le ∧ ∃ c : ℚ, 0 ≤ c ∧ count = .fin c

/-- The estimate is a number between zero and the largest finite bound that grows with the
quantile. -/
lemma exists_estimate {deltas : Dict Number PyFloat} {le : Number} {total : ℚ}
    (counted : WellCounted deltas) (last : Greatest deltas le (.fin total)) (positive : 0 < total) :
    ∃ value : ℚ → ℚ,
      (∀ q ∈ Set.Icc (0 : ℚ) 1, estimateQuantile .fin deltas (.fin q) = .ok (.fin (value q)) ∧
        0 ≤ value q ∧ value q ≤ largestFiniteBound deltas.keys) ∧
      MonotoneOn value (Set.Icc 0 1) := by
  have item {e} (mem : e ∈ ordered deltas) : deltas.get? e.1 = some e.2 := mem_ordered.mp mem
  obtain ⟨v, reads, mono⟩ := @exists_findBucket (ordered deltas) le.val 0 0 pairwise_ordered
    (fun e mem => (counted e.1 e.2 (item mem)).1)
    (fun e mem => by
      obtain ⟨-, c, -, count⟩ := counted e.1 e.2 (item mem)
      exact ⟨c, count⟩)
  have reached {q : ℚ} (mem : q ∈ Set.Icc (0 : ℚ) 1) : Reached (ordered deltas) (q * total) := by
    refine ⟨_, mem_ordered.mpr last.1, ?_⟩
    rw [le_fin]
    exact decide_eq_true (mul_le_of_le_one_left positive.le mem.2)
  refine ⟨fun q => v (q * total), ?_, ?_⟩
  · intro q mem
    obtain ⟨value, low, high⟩ := reads (q * total) (mul_nonneg mem.1 positive.le) (reached mem)
    refine ⟨?_, low, high _ largestFiniteBound_nonneg fun e mem b fin_e =>
      le_largestFiniteBound (Dict.mem_keys_iff.mpr ⟨_, item mem⟩) fin_e⟩
    unfold estimateQuantile
    rw [getLast?_ordered.mpr last]
    dsimp only
    rw [if_neg (by rw [le_fin]; simpa using positive)]
    exact value
  · intro q mem q' mem' more
    exact mono _ _ (mul_nonneg mem.1 positive.le) (by gcongr) (reached mem')

/-- The estimates of a window: zero where nothing was counted. -/
lemma exists_safeQ {deltas : Dict Number PyFloat} (counted : WellCounted deltas) :
    ∃ value : ℚ → ℚ,
      (∀ q ∈ Set.Icc (0 : ℚ) 1, safeQ .fin deltas (.fin q) = .ok (.fin (value q)) ∧ 0 ≤ value q) ∧
      MonotoneOn value (Set.Icc 0 1) := by
  have silent (nothing : ∀ q, estimateQuantile .fin deltas q = .ok .nan) :
      ∃ value : ℚ → ℚ, (∀ q ∈ Set.Icc (0 : ℚ) 1, safeQ .fin deltas (.fin q) =
        .ok (.fin (value q)) ∧ 0 ≤ value q) ∧ MonotoneOn value (Set.Icc 0 1) := by
    refine ⟨fun _ => 0, fun q _ => ⟨?_, le_refl _⟩, monotoneOn_const⟩
    unfold safeQ
    rw [nothing]
    rfl
  cases last : (ordered deltas).getLast? with
  | none =>
    refine silent fun q => ?_
    unfold estimateQuantile
    rw [last]
  | some e =>
    obtain ⟨le, total⟩ := e
    have greatest := getLast?_ordered.mp last
    obtain ⟨-, total, -, rfl⟩ := counted _ _ greatest.1
    by_cases positive : 0 < total
    · obtain ⟨value, estimates, mono⟩ := exists_estimate counted greatest positive
      refine ⟨value, fun q mem => ⟨?_, (estimates q mem).2.1⟩, mono⟩
      unfold safeQ
      rw [(estimates q mem).1]
      rfl
    · refine silent fun q => estimateQuantile_of_no_growth greatest ?_
      rw [le_fin]
      exact decide_eq_true (not_lt.mp positive)

/-- Reading buckets never divides by zero. -/
lemma findBucket_total {round} {target lastLe : PyFloat} {below : PyFloat × PyFloat}
    {items : List (Number × PyFloat)} :
    ∃ value, findBucket round target lastLe below items = .ok value := by
  induction items generalizing below with
  | nil => exact ⟨_, rfl⟩
  | cons e rest ih =>
    obtain ⟨le, count⟩ := e
    obtain ⟨prevLe, prevCount⟩ := below
    rw [findBucket]
    split
    · unfold interpolate
      dsimp only
      split
      · exact ⟨_, rfl⟩
      · split
        · exact ⟨_, rfl⟩
        · rename_i wide
          obtain ⟨share, divided⟩ := @exists_divBy round
            (mulBy round (subBy round le.val prevLe) (subBy round target prevCount))
            (subBy round count prevCount) (fun zero => wide (by rw [zero]; rfl))
          rw [divided]
          exact ⟨_, rfl⟩
    · exact ih

/-- The estimates of a window are defined. -/
lemma safeQ_total {round} {deltas : Dict Number PyFloat} {q : PyFloat} :
    ∃ value, safeQ round deltas q = .ok value := by
  obtain ⟨value, estimate⟩ : ∃ value, estimateQuantile round deltas q = .ok value := by
    unfold estimateQuantile
    cases (ordered deltas).getLast? with
    | none => exact ⟨_, rfl⟩
    | some e =>
      dsimp only
      split
      · exact ⟨_, rfl⟩
      · exact findBucket_total
  refine ⟨if value = .nan then .fin 0 else value, ?_⟩
  unfold safeQ
  rw [estimate]
  rfl

/-- Counters of one process: those of a `MetricSnapshot`, the answers to POST requests by status
class. -/
structure Counters where
  post2xx : ℚ
  post4xx : ℚ
  post5xx : ℚ
  postOther : ℚ
  latencySumMs : ℚ
  latencyCount : ℚ
  latencyBuckets : Dict Number ℚ
  ordersCreated : ℚ
  publishSuccess : ℚ
  publishFailure : ℚ
  publishLatencySumS : ℚ
  publishLatencyCount : ℚ
  debugRequestFailedSimulated : ℚ
  debugRequestFailedPublish : ℚ
  debugFailureInjection : ℚ

namespace Counters

/-- The answers to POST requests, the sum of their status classes. -/
def postTotal (c : Counters) : ℚ := c.post2xx + c.post4xx + c.post5xx + c.postOther

/-- The scrape of a process with these counters. -/
def snapshot (c : Counters) : MetricSnapshot where
  httpPostCountTotal := .fin c.postTotal
  httpPostCount2xx := .fin c.post2xx
  httpPostCount4xx := .fin c.post4xx
  httpPostCount5xx := .fin c.post5xx
  httpPostLatencySumMs := .fin c.latencySumMs
  httpPostLatencyCount := .fin c.latencyCount
  httpPostLatencyBuckets := c.latencyBuckets.mapValues .fin
  ordersCreatedTotal := .fin c.ordersCreated
  publishSuccessTotal := .fin c.publishSuccess
  publishFailureTotal := .fin c.publishFailure
  publishLatencySumS := .fin c.publishLatencySumS
  publishLatencyCount := .fin c.publishLatencyCount
  debugRequestFailedSimulated := .fin c.debugRequestFailedSimulated
  debugRequestFailedPublish := .fin c.debugRequestFailedPublish
  debugFailureInjectionTotal := .fin c.debugFailureInjection

/-- No counter that a window reads decreases. -/
structure Grows (prev cur : Counters) : Prop where
  post2xx : prev.post2xx ≤ cur.post2xx
  post4xx : prev.post4xx ≤ cur.post4xx
  post5xx : prev.post5xx ≤ cur.post5xx
  postOther : prev.postOther ≤ cur.postOther
  latencySumMs : prev.latencySumMs ≤ cur.latencySumMs
  ordersCreated : prev.ordersCreated ≤ cur.ordersCreated
  publishSuccess : prev.publishSuccess ≤ cur.publishSuccess
  publishFailure : prev.publishFailure ≤ cur.publishFailure
  publishLatencySumS : prev.publishLatencySumS ≤ cur.publishLatencySumS
  publishLatencyCount : prev.publishLatencyCount ≤ cur.publishLatencyCount

/-- The buckets have non-negative or infinite bounds. -/
def Bounded (c : Counters) : Prop := ∀ le ∈ c.latencyBuckets.keys, BucketBound le

end Counters

/-- A number that is not negative. -/
def Nonneg (x : PyFloat) : Prop := ∃ a : ℚ, 0 ≤ a ∧ x = .fin a

/-- A number from zero to one. -/
def Ratio (x : PyFloat) : Prop := ∃ a : ℚ, 0 ≤ a ∧ a ≤ 1 ∧ x = .fin a

/-- The rates and means of a window are not negative and its ratios at most one. -/
structure RatesBounded (s : Signals PyFloat) : Prop where
  requestRate : Nonneg s.requestRate
  errorRate : Ratio s.errorRate
  successRate : Ratio s.successRate
  answered : Ratio (addBy .fin s.errorRate s.successRate)
  latencyMeanMs : Nonneg s.latencyMeanMs
  publishRate : Nonneg s.publishRate
  publishErrorRate : Ratio s.publishErrorRate
  publishLatencyMeanMs : Nonneg s.publishLatencyMeanMs
  ordersCreatedRate : Nonneg s.ordersCreatedRate

/-- The percentiles of a window are not negative and in order. -/
structure QuantilesOrdered (s : Signals PyFloat) : Prop where
  nonneg : Nonneg s.latencyP50Ms
  p50_le_p90 : s.latencyP50Ms.le s.latencyP90Ms = true
  p90_le_p95 : s.latencyP90Ms.le s.latencyP95Ms = true

/-- The window after a reset or without time is none. -/
lemma windowSignals_none {prev cur : MetricSnapshot} {dt : PyFloat}
    (invalid : invalidWindow .fin prev cur dt = true) :
    windowSignals .fin prev cur dt = .ok none := by
  unfold windowSignals
  rw [if_pos invalid]

/-- The growth of a counter. -/
lemma growth_fin {p c : ℚ} (grows : p ≤ c) :
    PyFloat.max (subBy .fin (.fin c) (.fin p)) (.fin 0) = .fin (c - p) := by
  rw [subBy_fin, max_fin, max_eq_left (sub_nonneg.mpr grows)]

/-- What a share of a number is taken of: the number, or one where that is zero. -/
def base (a : ℚ) : ℚ := if 0 < a then a else 1

lemma base_fin {a : ℚ} : (if (PyFloat.fin 0).lt (.fin a) = true then PyFloat.fin a else .fin 1) =
    .fin (base a) := by
  unfold base
  rw [lt_fin]
  simp only [decide_eq_true_eq]
  split <;> rfl

lemma base_pos {a : ℚ} : 0 < base a := by
  unfold base
  split
  · assumption
  · exact one_pos

/-- A part of a number is at most what its share is taken of. -/
lemma share_le_one {part a : ℚ} (le : part ≤ a) : part / base a ≤ 1 := by
  rw [div_le_one base_pos]
  unfold base
  split
  · exact le
  · rename_i none
    linarith only [le, not_lt.mp none]

/-- The signals of a valid window in terms of the growth of its counters. -/
lemma windowSignals_of_growth {prev cur : MetricSnapshot}
    {dt req fails oks latency attempts failures published publishing created : ℚ}
    {p50 p90 p95 : PyFloat}
    (valid : invalidWindow .fin prev cur (.fin dt) = false) (positive : 0 < dt)
    (eq_req : PyFloat.max (subBy .fin cur.httpPostCountTotal prev.httpPostCountTotal) (.fin 0) =
      .fin req)
    (eq_fails : PyFloat.max (subBy .fin cur.httpPostCount5xx prev.httpPostCount5xx) (.fin 0) =
      .fin fails)
    (eq_oks : PyFloat.max (subBy .fin cur.httpPostCount2xx prev.httpPostCount2xx) (.fin 0) =
      .fin oks)
    (eq_latency : subBy .fin cur.httpPostLatencySumMs prev.httpPostLatencySumMs = .fin latency)
    (eq_attempts : PyFloat.max (addBy .fin
      (subBy .fin cur.publishSuccessTotal prev.publishSuccessTotal)
      (subBy .fin cur.publishFailureTotal prev.publishFailureTotal)) (.fin 0) = .fin attempts)
    (eq_failures : PyFloat.max (subBy .fin cur.publishFailureTotal prev.publishFailureTotal)
      (.fin 0) = .fin failures)
    (eq_published : PyFloat.max (subBy .fin cur.publishLatencyCount prev.publishLatencyCount)
      (.fin 0) = .fin published)
    (eq_publishing : subBy .fin cur.publishLatencySumS prev.publishLatencySumS = .fin publishing)
    (eq_created : PyFloat.max (subBy .fin cur.ordersCreatedTotal prev.ordersCreatedTotal)
      (.fin 0) = .fin created)
    (read50 : safeQ .fin (bucketDeltas .fin prev.httpPostLatencyBuckets
      cur.httpPostLatencyBuckets) (.fin (1 / 2)) = .ok p50)
    (read90 : safeQ .fin (bucketDeltas .fin prev.httpPostLatencyBuckets
      cur.httpPostLatencyBuckets) (.fin (9 / 10)) = .ok p90)
    (read95 : safeQ .fin (bucketDeltas .fin prev.httpPostLatencyBuckets
      cur.httpPostLatencyBuckets) (.fin (19 / 20)) = .ok p95) :
    windowSignals .fin prev cur (.fin dt) = .ok (some
      { requestRate := .fin (req / dt)
        errorRate := .fin (fails / base req)
        successRate := .fin (oks / base req)
        latencyMeanMs := .fin (if 0 < req then latency / base req else 0)
        latencyP50Ms := p50
        latencyP90Ms := p90
        latencyP95Ms := p95
        publishRate := .fin (attempts / dt)
        publishErrorRate := .fin (failures / base attempts)
        publishLatencyMeanMs := .fin (if 0 < published then 1000 * publishing / published else 0)
        ordersCreatedRate := .fin (created / dt) }) := by
  unfold windowSignals
  rw [if_neg (by rw [valid]; exact Bool.false_ne_true)]
  dsimp only
  rw [eq_req, eq_fails, eq_oks, eq_latency, eq_attempts, eq_failures, eq_published, eq_publishing,
    eq_created, read50, read90, read95, base_fin, base_fin, divBy_fin positive.ne',
    divBy_fin base_pos.ne', divBy_fin base_pos.ne', divBy_fin base_pos.ne',
    divBy_fin positive.ne', divBy_fin base_pos.ne', divBy_fin positive.ne', mulBy_fin]
  have more {a : ℚ} (pos : 0 < a) : (PyFloat.fin 0).lt (.fin a) = true := decide_eq_true pos
  have none {a : ℚ} (stands : ¬ 0 < a) : (PyFloat.fin 0).lt (.fin a) = false :=
    decide_eq_false stands
  -- the two means are zero where nothing was counted
  by_cases asked : 0 < req <;> by_cases counted : 0 < published
  · simp only [more asked, more counted, asked, counted, if_true, divBy_fin counted.ne']
    rfl
  · simp only [more asked, none counted, asked, counted, if_true, if_false, Bool.false_eq_true]
    rfl
  · simp only [none asked, more counted, asked, counted, if_true, if_false, Bool.false_eq_true,
      divBy_fin counted.ne']
    rfl
  · simp only [none asked, none counted, asked, counted, if_false, Bool.false_eq_true]
    rfl

section
variable {prev cur : Counters} {dt : ℚ}

/-- The total grows with the status classes. -/
lemma Counters.Grows.postTotal (grows : prev.Grows cur) : prev.postTotal ≤ cur.postTotal := by
  unfold Counters.postTotal
  linarith only [grows.post2xx, grows.post4xx, grows.post5xx, grows.postOther]

/-- Growing counters and some time make a valid window. -/
lemma Counters.Grows.valid (grows : prev.Grows cur) (positive : 0 < dt) :
    invalidWindow .fin prev.snapshot cur.snapshot (.fin dt) = false := by
  have kept {p c : ℚ} (le : p ≤ c) :
      (subBy .fin (.fin c) (.fin p)).lt (.fin (-1 / 1000000)) = false := by
    rw [subBy_fin, lt_fin]
    exact decide_eq_false (by linarith only [le])
  have time : (PyFloat.fin dt).le (.fin 0) = false := by
    rw [le_fin]
    exact decide_eq_false (not_le.mpr positive)
  unfold invalidWindow cumulativeFields
  rw [time, Bool.false_or]
  simp only [List.any_cons, List.any_nil, Bool.or_false, Counters.snapshot,
    kept grows.postTotal, kept grows.post2xx, kept grows.post4xx, kept grows.post5xx,
    kept grows.latencySumMs, kept grows.ordersCreated, kept grows.publishSuccess,
    kept grows.publishFailure, kept grows.publishLatencySumS, kept grows.publishLatencyCount]

/-- The growth of the buckets in a window. -/
def Counters.deltas (prev cur : Counters) : Dict Number PyFloat :=
  bucketDeltas .fin (prev.latencyBuckets.mapValues .fin) (cur.latencyBuckets.mapValues .fin)

/-- The buckets of a window have counts that are not negative. -/
lemma count_of_deltas {le : Number} {count : PyFloat}
    (found : (prev.deltas cur).get? le = some count) :
    (le ∈ prev.latencyBuckets.keys ∨ le ∈ cur.latencyBuckets.keys) ∧
      ∃ c : ℚ, 0 ≤ c ∧ count = .fin c := by
  have finite (b : Counters) : ∃ c : ℚ, bucketCount (b.latencyBuckets.mapValues .fin) le =
      .fin c := by
    unfold bucketCount
    rw [Dict.get?_mapValues]
    cases b.latencyBuckets.get? le with
    | none => exact ⟨0, rfl⟩
    | some c => exact ⟨c, rfl⟩
  obtain ⟨mem, rfl⟩ := get?_bucketDeltas.mp found
  rw [Dict.keys_mapValues, Dict.keys_mapValues] at mem
  obtain ⟨p, count_prev⟩ := finite prev
  obtain ⟨c, count_cur⟩ := finite cur
  refine ⟨mem, max (c - p) 0, le_max_right _ _, ?_⟩
  unfold bucketDelta
  rw [count_prev, count_cur, subBy_fin, max_fin]

/-- The signals of a window between growing counters. -/
lemma windowSignals_of_grows (grows : prev.Grows cur) (positive : 0 < dt) {p50 p90 p95 : PyFloat}
    (read50 : safeQ .fin (prev.deltas cur) (.fin (1 / 2)) = .ok p50)
    (read90 : safeQ .fin (prev.deltas cur) (.fin (9 / 10)) = .ok p90)
    (read95 : safeQ .fin (prev.deltas cur) (.fin (19 / 20)) = .ok p95) :
    windowSignals .fin prev.snapshot cur.snapshot (.fin dt) = .ok (some
      { requestRate := .fin ((cur.postTotal - prev.postTotal) / dt)
        errorRate := .fin ((cur.post5xx - prev.post5xx) / base (cur.postTotal - prev.postTotal))
        successRate := .fin ((cur.post2xx - prev.post2xx) / base (cur.postTotal - prev.postTotal))
        latencyMeanMs := .fin (if 0 < cur.postTotal - prev.postTotal then
          (cur.latencySumMs - prev.latencySumMs) / base (cur.postTotal - prev.postTotal) else 0)
        latencyP50Ms := p50
        latencyP90Ms := p90
        latencyP95Ms := p95
        publishRate := .fin ((cur.publishSuccess - prev.publishSuccess +
          (cur.publishFailure - prev.publishFailure)) / dt)
        publishErrorRate := .fin ((cur.publishFailure - prev.publishFailure) /
          base (cur.publishSuccess - prev.publishSuccess +
            (cur.publishFailure - prev.publishFailure)))
        publishLatencyMeanMs := .fin (if 0 < cur.publishLatencyCount - prev.publishLatencyCount then
          1000 * (cur.publishLatencySumS - prev.publishLatencySumS) /
            (cur.publishLatencyCount - prev.publishLatencyCount) else 0)
        ordersCreatedRate := .fin ((cur.ordersCreated - prev.ordersCreated) / dt) }) := by
  have attempts : 0 ≤ cur.publishSuccess - prev.publishSuccess +
      (cur.publishFailure - prev.publishFailure) :=
    add_nonneg (sub_nonneg.mpr grows.publishSuccess) (sub_nonneg.mpr grows.publishFailure)
  exact windowSignals_of_growth (grows.valid positive) positive (growth_fin grows.postTotal)
    (growth_fin grows.post5xx) (growth_fin grows.post2xx) subBy_fin
    (by
      unfold Counters.snapshot
      rw [subBy_fin, subBy_fin, addBy_fin, max_fin, max_eq_left attempts])
    (growth_fin grows.publishFailure) (growth_fin grows.publishLatencyCount) subBy_fin
    (growth_fin grows.ordersCreated) read50 read90 read95

/-- The rates and means of a window between growing counters are bounded, and so are its percentiles
where the buckets have non-negative or infinite bounds. -/
lemma exists_signals (grows : prev.Grows cur) (positive : 0 < dt) :
    ∃ s, windowSignals .fin prev.snapshot cur.snapshot (.fin dt) = .ok (some s) ∧
      RatesBounded s ∧ (prev.Bounded → cur.Bounded → QuantilesOrdered s) := by
  obtain ⟨p50, read50⟩ := @safeQ_total .fin (prev.deltas cur) (.fin (1 / 2))
  obtain ⟨p90, read90⟩ := @safeQ_total .fin (prev.deltas cur) (.fin (9 / 10))
  obtain ⟨p95, read95⟩ := @safeQ_total .fin (prev.deltas cur) (.fin (19 / 20))
  refine ⟨_, windowSignals_of_grows grows positive read50 read90 read95, ?_, ?_⟩
  · have total := sub_nonneg.mpr grows.postTotal
    have failed := sub_nonneg.mpr grows.post5xx
    have served := sub_nonneg.mpr grows.post2xx
    have latency := sub_nonneg.mpr grows.latencySumMs
    have published := sub_nonneg.mpr grows.publishSuccess
    have lost := sub_nonneg.mpr grows.publishFailure
    have publishing := sub_nonneg.mpr grows.publishLatencySumS
    have answered : cur.post5xx - prev.post5xx + (cur.post2xx - prev.post2xx) ≤
        cur.postTotal - prev.postTotal := by
      unfold Counters.postTotal
      linarith only [grows.post4xx, grows.postOther]
    constructor
    · exact ⟨_, div_nonneg total positive.le, rfl⟩
    · exact ⟨_, div_nonneg failed base_pos.le,
        share_le_one (by linarith only [answered, served]), rfl⟩
    · exact ⟨_, div_nonneg served base_pos.le,
        share_le_one (by linarith only [answered, failed]), rfl⟩
    · refine ⟨_, ?_, ?_, by rw [addBy_fin, ← add_div]⟩
      · exact div_nonneg (add_nonneg failed served) base_pos.le
      · exact share_le_one answered
    · refine ⟨_, ?_, rfl⟩
      split
      · exact div_nonneg latency base_pos.le
      · exact le_refl _
    · exact ⟨_, div_nonneg (add_nonneg published lost) positive.le, rfl⟩
    · exact ⟨_, div_nonneg lost base_pos.le,
        share_le_one (le_add_of_nonneg_left published), rfl⟩
    · refine ⟨_, ?_, rfl⟩
      split
      · rename_i counted
        exact div_nonneg (mul_nonneg (by norm_num) publishing) counted.le
      · exact le_refl _
    · exact ⟨_, div_nonneg (sub_nonneg.mpr grows.ordersCreated) positive.le, rfl⟩
  · intro bounded_prev bounded_cur
    obtain ⟨value, reads, mono⟩ := @exists_safeQ (prev.deltas cur) fun le count found =>
      ⟨(count_of_deltas found).1.elim (bounded_prev le) (bounded_cur le),
        (count_of_deltas found).2⟩
    have in50 : (1 / 2 : ℚ) ∈ Set.Icc (0 : ℚ) 1 := by norm_num
    have in90 : (9 / 10 : ℚ) ∈ Set.Icc (0 : ℚ) 1 := by norm_num
    have in95 : (19 / 20 : ℚ) ∈ Set.Icc (0 : ℚ) 1 := by norm_num
    rw [(reads _ in50).1] at read50
    rw [(reads _ in90).1] at read90
    rw [(reads _ in95).1] at read95
    cases read50
    cases read90
    cases read95
    constructor
    · exact ⟨_, (reads _ in50).2, rfl⟩
    · rw [le_fin]
      exact decide_eq_true (mono in50 in90 (by norm_num))
    · rw [le_fin]
      exact decide_eq_true (mono in90 in95 (by norm_num))

/-- A window without time or across a reset is none; the signals between growing counters are defined
and bounded; the estimate of a quantile grows with it, from zero to the largest finite bound. -/
theorem windowSignals_bounded :
    (∀ prev cur dt, dt.le (.fin 0) = true ∨ (∃ f ∈ cumulativeFields, ∃ a b : ℚ,
        f prev = .fin a ∧ f cur = .fin b ∧ b - a < -1 / 1000000) →
      windowSignals .fin prev cur dt = .ok none) ∧
    (∀ (prev cur : Counters) (dt : ℚ), prev.Grows cur → 0 < dt →
      ∃ s, windowSignals .fin prev.snapshot cur.snapshot (.fin dt) = .ok (some s) ∧
        RatesBounded s ∧ (prev.Bounded → cur.Bounded → QuantilesOrdered s)) ∧
    ∀ (counts : Dict Number ℚ) (last : Number) (total : ℚ),
      (∀ le count, counts.get? le = some count → BucketBound le ∧ 0 ≤ count ∧ le ≤ last) →
      counts.get? last = some total → 0 < total →
      ∃ value : ℚ → ℚ,
        (∀ q ∈ Set.Icc (0 : ℚ) 1,
          estimateQuantile .fin (counts.mapValues .fin) (.fin q) = .ok (.fin (value q)) ∧
            0 ≤ value q ∧ value q ≤ largestFiniteBound counts.keys) ∧
        MonotoneOn value (Set.Icc 0 1) := by
  refine ⟨?_, fun prev cur dt => exists_signals, ?_⟩
  · intro prev cur dt reset
    apply windowSignals_none
    unfold invalidWindow
    obtain time | ⟨f, mem, a, b, before, after, fell⟩ := reset
    · rw [time, Bool.true_or]
    · rw [Bool.or_eq_true, List.any_eq_true]
      refine .inr ⟨f, mem, ?_⟩
      rw [before, after, subBy_fin, lt_fin]
      exact decide_eq_true fell
  · intro counts last total counted found positive
    have item {le count} (h : (counts.mapValues PyFloat.fin).get? le = some count) :
        ∃ c : ℚ, counts.get? le = some c ∧ count = .fin c := by
      rw [Dict.get?_mapValues, Option.map_eq_some_iff] at h
      exact h.imp fun c h => ⟨h.1, h.2.symm⟩
    have keys : (counts.mapValues PyFloat.fin).keys = counts.keys := Dict.keys_mapValues
    rw [← keys]
    refine @exists_estimate _ last total ?_ ⟨?_, ?_⟩ positive
    · intro le count h
      obtain ⟨c, here, rfl⟩ := item h
      exact ⟨(counted le c here).1, c, (counted le c here).2.1, rfl⟩
    · rw [Dict.get?_mapValues, found]
      rfl
    · intro le count h
      obtain ⟨c, here, rfl⟩ := item h
      exact (counted le c here).2.2

/-- The counters of a process that was just started. -/
def started : Counters := ⟨0, 0, 0, 0, 0, 0, .empty, 0, 0, 0, 0, 0, 0, 0, 0⟩

/-- Three of four requests within 10 ms. -/
def fourBuckets : Dict Number ℚ := .ofList [(⟨.fin 10, nofun⟩, 3), (.inf, 4)]

/-- The counters after four requests, of which one failed. -/
def afterFour : Counters := ⟨3, 0, 1, 0, 40, 4, fourBuckets, 3, 3, 1, 1, 4, 0, 0, 0⟩

lemma fourBuckets_eq {le : Number} {count : ℚ} (found : fourBuckets.get? le = some count) :
    le = ⟨.fin 10, nofun⟩ ∧ count = 3 ∨ le = .inf ∧ count = 4 := by
  have entries : fourBuckets.entries = [(⟨.fin 10, nofun⟩, 3), (.inf, 4)] := by decide
  rw [Dict.get?_eq_some_iff, entries] at found
  simpa using found

lemma bucketBound_four {le : Number} {count : ℚ} (found : fourBuckets.get? le = some count) :
    BucketBound le := by
  obtain ⟨rfl, -⟩ | ⟨rfl, -⟩ := fourBuckets_eq found
  · exact .inr ⟨10, by norm_num, rfl⟩
  · exact .inl rfl

/-- No time, four requests in 15 s, and the percentiles of those. -/
theorem windowSignals_bounded_four :
    windowSignals .fin started.snapshot afterFour.snapshot (.fin 0) = .ok none ∧
    (∃ s, windowSignals .fin started.snapshot afterFour.snapshot (.fin 15) = .ok (some s) ∧
      RatesBounded s ∧ QuantilesOrdered s) ∧
    ∃ value : ℚ → ℚ,
      (∀ q ∈ Set.Icc (0 : ℚ) 1,
        estimateQuantile .fin (fourBuckets.mapValues .fin) (.fin q) = .ok (.fin (value q)) ∧
          0 ≤ value q ∧ value q ≤ largestFiniteBound fourBuckets.keys) ∧
      MonotoneOn value (Set.Icc 0 1) := by
  obtain ⟨none, signals, estimates⟩ := windowSignals_bounded
  refine ⟨none _ _ _ (.inl rfl), ?_, estimates fourBuckets .inf 4 ?_ ?_ (by norm_num)⟩
  · obtain ⟨s, read, rates, quantiles⟩ := signals started afterFour 15
      (by constructor <;> decide) (by norm_num)
    refine ⟨s, read, rates, quantiles (fun _ mem => by cases mem) fun le mem => ?_⟩
    obtain ⟨count, found⟩ := Dict.mem_keys_iff.mp mem
    exact bucketBound_four found
  · intro le count found
    refine ⟨bucketBound_four found, ?_⟩
    obtain ⟨rfl, rfl⟩ | ⟨rfl, rfl⟩ := fourBuckets_eq found
    · exact ⟨by norm_num, not_lt.mp not_inf_lt⟩
    · exact ⟨by norm_num, le_refl _⟩
  · decide

end

end SentinelOps.Ml
