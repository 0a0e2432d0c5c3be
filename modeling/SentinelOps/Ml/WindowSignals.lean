import SentinelOps.Lib.Dict
import SentinelOps.Lib.PyArith
import SentinelOps.Ml.Features

/-!
# Signals of a window

`windowSignals` turns two scrapes of cumulative counters into the signals of the window between
them, and `estimateQuantile` reads a percentile out of histogram buckets. How results are rounded is
an argument. `windowSignals_congr`: besides the counters only the three estimates matter.
-/

namespace SentinelOps.Ml

open PyFloat

/-- `MetricSnapshot`. -/
structure MetricSnapshot where
  httpPostCountTotal : PyFloat := .fin 0
  httpPostCount2xx : PyFloat := .fin 0
  httpPostCount4xx : PyFloat := .fin 0
  httpPostCount5xx : PyFloat := .fin 0
  httpPostLatencySumMs : PyFloat := .fin 0
  httpPostLatencyCount : PyFloat := .fin 0
  httpPostLatencyBuckets : Dict Number PyFloat := .empty
  ordersCreatedTotal : PyFloat := .fin 0
  publishSuccessTotal : PyFloat := .fin 0
  publishFailureTotal : PyFloat := .fin 0
  publishLatencySumS : PyFloat := .fin 0
  publishLatencyCount : PyFloat := .fin 0
  debugRequestFailedSimulated : PyFloat := .fin 0
  debugRequestFailedPublish : PyFloat := .fin 0
  debugFailureInjectionTotal : PyFloat := .fin 0

section
variable (round : ℚ → PyFloat)

/-- What the loop of `estimate_quantile_from_bucket_deltas` returns at the bucket that holds the
target, after the bucket below it. -/
def interpolate (target : PyFloat) (below : PyFloat × PyFloat) (bucket : Number × PyFloat) :
    Except String PyFloat :=
  let (le, cum) := bucket
  let (prevLe, prevCount) := below
  if le = .inf then .ok prevLe
  else
    let span := subBy round cum prevCount
    if span.le (.fin 0) = true then .ok le.val
    else do
      let share ← divBy round
        (mulBy round (subBy round le.val prevLe) (subBy round target prevCount)) span
      .ok (addBy round prevLe share)

/-- The loop of `estimate_quantile_from_bucket_deltas`. -/
def findBucket (target lastLe : PyFloat) (below : PyFloat × PyFloat) :
    List (Number × PyFloat) → Except String PyFloat
  | [] => .ok lastLe
  | (le, cum) :: rest =>
    if target.le cum = true then interpolate round target below (le, cum)
    else findBucket target lastLe (le.val, cum) rest

/-- `sorted(bucket_deltas.items(), key=lambda kv: kv[0])`. -/
def ordered (bucketDeltas : Dict Number PyFloat) : List (Number × PyFloat) :=
  bucketDeltas.entries.insertionSort fun a b => a.1 ≤ b.1

/-- `estimate_quantile_from_bucket_deltas`. -/
def estimateQuantile (bucketDeltas : Dict Number PyFloat) (quantile : PyFloat) :
    Except String PyFloat :=
  match (ordered bucketDeltas).getLast? with
  | none => .ok .nan
  | some (lastLe, total) =>
    if total.le (.fin 0) = true then .ok .nan
    else findBucket round (mulBy round quantile total) lastLe.val (.fin 0, .fin 0)
      (ordered bucketDeltas)

/-- `_safe_q`. -/
def safeQ (bucketDeltas : Dict Number PyFloat) (q : PyFloat) : Except String PyFloat := do
  let val ← estimateQuantile round bucketDeltas q
  return if val = .nan then .fin 0 else val

/-- The count of a bucket, zero where there is none. -/
def bucketCount (buckets : Dict Number PyFloat) (le : Number) : PyFloat :=
  (buckets.get? le).getD (.fin 0)

/-- The growth of a bucket in a window. -/
def bucketDelta (prev cur : Dict Number PyFloat) (le : Number) : PyFloat :=
  PyFloat.max (subBy round (bucketCount cur le) (bucketCount prev le)) (.fin 0)

/-- `bucket_deltas`. -/
def bucketDeltas (prev cur : Dict Number PyFloat) : Dict Number PyFloat :=
  .ofList ((prev.keys ++ cur.keys).dedup.map fun le => (le, bucketDelta round prev cur le))

/-- `_CUMULATIVE_FIELDS`. -/
def cumulativeFields : List (MetricSnapshot → PyFloat) :=
  [(·.httpPostCountTotal), (·.httpPostCount2xx), (·.httpPostCount4xx), (·.httpPostCount5xx),
    (·.httpPostLatencySumMs), (·.ordersCreatedTotal), (·.publishSuccessTotal),
    (·.publishFailureTotal), (·.publishLatencySumS), (·.publishLatencyCount)]

/-- The window is invalid: no time elapsed, or a counter was reset. -/
def invalidWindow (prev cur : MetricSnapshot) (dt : PyFloat) : Bool :=
  dt.le (.fin 0) ||
    cumulativeFields.any fun f => (subBy round (f cur) (f prev)).lt (round (-1 / 1000000))

/-- The percentiles of a window. -/
def quantiles : List PyFloat := [round (1 / 2), round (9 / 10), round (19 / 20)]

/-- `window_signals`. -/
def windowSignals (prev cur : MetricSnapshot) (dt : PyFloat) :
    Except String (Option (Signals PyFloat)) :=
  if invalidWindow round prev cur dt = true then .ok none
  else do
    let zero : PyFloat := .fin 0
    let one : PyFloat := .fin 1
    let req := PyFloat.max (subBy round cur.httpPostCountTotal prev.httpPostCountTotal) zero
    let denom := if zero.lt req then req else one
    let d5xx := PyFloat.max (subBy round cur.httpPostCount5xx prev.httpPostCount5xx) zero
    let d2xx := PyFloat.max (subBy round cur.httpPostCount2xx prev.httpPostCount2xx) zero
    let dLatSum := subBy round cur.httpPostLatencySumMs prev.httpPostLatencySumMs
    let deltas := bucketDeltas round prev.httpPostLatencyBuckets cur.httpPostLatencyBuckets
    let pubOk := subBy round cur.publishSuccessTotal prev.publishSuccessTotal
    let pubFail := subBy round cur.publishFailureTotal prev.publishFailureTotal
    let pubAttempts := PyFloat.max (addBy round pubOk pubFail) zero
    let pubDenom := if zero.lt pubAttempts then pubAttempts else one
    let dPubLatCount := PyFloat.max (subBy round cur.publishLatencyCount prev.publishLatencyCount) zero
    let dPubLatSum := subBy round cur.publishLatencySumS prev.publishLatencySumS
    let dCreated := PyFloat.max (subBy round cur.ordersCreatedTotal prev.ordersCreatedTotal) zero
    let requestRate ← divBy round req dt
    let errorRate ← divBy round d5xx denom
    let successRate ← divBy round d2xx denom
    let latencyMeanMs ← if zero.lt req then divBy round dLatSum denom else .ok zero
    let latencyP50Ms ← safeQ round deltas (round (1 / 2))
    let latencyP90Ms ← safeQ round deltas (round (9 / 10))
    let latencyP95Ms ← safeQ round deltas (round (19 / 20))
    let publishRate ← divBy round pubAttempts dt
    let publishErrorRate ← divBy round (PyFloat.max pubFail zero) pubDenom
    let publishLatencyMeanMs ← if zero.lt dPubLatCount then
        divBy round (mulBy round (.fin 1000) dPubLatSum) dPubLatCount
      else .ok zero
    let ordersCreatedRate ← divBy round dCreated dt
    return some ⟨requestRate, errorRate, successRate, latencyMeanMs, latencyP50Ms, latencyP90Ms,
      latencyP95Ms, publishRate, publishErrorRate, publishLatencyMeanMs, ordersCreatedRate⟩

variable {round} {deltas : Dict Number PyFloat}

/-- The sorted items are those of the dictionary. -/
lemma mem_ordered {le cum} : (le, cum) ∈ ordered deltas ↔ deltas.get? le = some cum := by
  unfold ordered
  rw [List.mem_insertionSort, Dict.get?_eq_some_iff]

/-- The bounds of the sorted items increase. -/
lemma pairwise_ordered : (ordered deltas).Pairwise fun a b => a.1 < b.1 := by
  have total : Std.Total fun a b : Number × PyFloat => a.1 ≤ b.1 := ⟨fun a b => le_total a.1 b.1⟩
  have transitive : IsTrans (Number × PyFloat) fun a b => a.1 ≤ b.1 := ⟨fun _ _ _ => le_trans⟩
  have sorted : (ordered deltas).Pairwise fun a b => a.1 ≤ b.1 := List.pairwise_insertionSort _ _
  have distinct : (ordered deltas).Pairwise fun a b => a.1 ≠ b.1 := by
    have bounds := ((List.perm_insertionSort (fun a b => a.1 ≤ b.1) deltas.entries).map
      Prod.fst).nodup_iff.mpr deltas.nodup
    exact List.pairwise_map.mp bounds
  exact (sorted.and distinct).imp fun h => lt_of_le_of_ne h.1 h.2

/-- No bound exceeds the last one of items with increasing bounds. -/
lemma le_getLast {items : List (Number × PyFloat)} (sorted : items.Pairwise fun a b => a.1 < b.1)
    {last} (h : items.getLast? = some last) {e} (mem : e ∈ items) : e.1 ≤ last.1 := by
  obtain ⟨es, rfl⟩ := List.getLast?_eq_some_iff.mp h
  obtain mem | mem := List.mem_append.mp mem
  · exact le_of_lt ((List.pairwise_append.mp sorted).2.2 _ mem _ (List.mem_singleton.mpr rfl))
  · rw [List.mem_singleton.mp mem]

/-- A bucket with the greatest bound. -/
def Greatest (deltas : Dict Number PyFloat) (le : Number) (total : PyFloat) : Prop :=
  deltas.get? le = some total ∧ ∀ k c, deltas.get? k = some c → k ≤ le

/-- The last of the sorted items has the greatest bound. -/
lemma getLast?_ordered {le total} :
    (ordered deltas).getLast? = some (le, total) ↔ Greatest deltas le total := by
  constructor
  · intro last
    exact ⟨mem_ordered.mp (List.mem_of_getLast? last), fun k c found =>
      le_getLast pairwise_ordered last (mem_ordered.mpr found)⟩
  · rintro ⟨found, above⟩
    cases last : (ordered deltas).getLast? with
    | none =>
      rw [List.getLast?_eq_none_iff] at last
      have mem := mem_ordered.mpr found
      rw [last] at mem
      cases mem
    | some e =>
      obtain ⟨le', total'⟩ := e
      have found' := mem_ordered.mp (List.mem_of_getLast? last)
      obtain rfl := le_antisymm (above _ _ found')
        (le_getLast pairwise_ordered last (mem_ordered.mpr found))
      rw [found] at found'
      cases found'
      rfl

/-- The loop passes the buckets that do not reach the target. -/
lemma findBucket_append {target lastLe below pre} {bucket : Number × PyFloat} {post}
    (skipped : ∀ e ∈ pre, target.le e.2 = false) (reached : target.le bucket.2 = true) :
    findBucket round target lastLe below (pre ++ bucket :: post) =
      interpolate round target ((pre.getLast?.map fun e => (e.1.val, e.2)).getD below) bucket := by
  induction pre generalizing below with
  | nil =>
    rw [List.nil_append, findBucket, if_pos reached]
    rfl
  | cons e pre ih =>
    rw [List.cons_append, findBucket,
      if_neg (by rw [skipped e (List.mem_cons_self ..)]; exact Bool.false_ne_true),
      ih fun e' mem => skipped e' (List.mem_cons_of_mem _ mem)]
    cases pre with
    | nil => rfl
    | cons e' pre =>
      rw [List.getLast?_cons_cons, List.getLast?_cons]
      rfl

/-- The loop stops at a bucket, after the one below it. -/
structure StopsAt (deltas : Dict Number PyFloat) (target : PyFloat)
    (below : Option (Number × PyFloat)) (bucket : Number × PyFloat) : Prop where
  found : deltas.get? bucket.1 = some bucket.2
  reached : target.le bucket.2 = true
  first : ∀ le cum, deltas.get? le = some cum → le < bucket.1 → target.le cum = false
  previous : ∀ b, below = some b → deltas.get? b.1 = some b.2 ∧ b.1 < bucket.1
  nearest : ∀ le cum, deltas.get? le = some cum → le < bucket.1 → ∃ b, below = some b ∧ le ≤ b.1

/-- The estimate reads the greatest bucket, the one where it stops and the one below that. -/
lemma estimateQuantile_of_stopsAt {quantile lastLe total below bucket}
    (last : Greatest deltas lastLe total)
    (positive : total.le (.fin 0) = false)
    (stops : StopsAt deltas (mulBy round quantile total) below bucket) :
    estimateQuantile round deltas quantile = interpolate round (mulBy round quantile total)
      ((below.map fun e => (e.1.val, e.2)).getD (.fin 0, .fin 0)) bucket := by
  obtain ⟨pre, post, split⟩ := List.append_of_mem (mem_ordered.mpr stops.found)
  have sorted := @pairwise_ordered deltas
  rw [split] at sorted
  obtain ⟨sorted_pre, sorted_post, apart⟩ := List.pairwise_append.mp sorted
  have lower {e} (mem : e ∈ pre) : deltas.get? e.1 = some e.2 ∧ e.1 < bucket.1 := by
    refine ⟨mem_ordered.mp ?_, apart e mem _ (List.mem_cons_self ..)⟩
    rw [split]
    exact List.mem_append_left _ mem
  have previous : pre.getLast? = below := by
    cases below with
    | none =>
      rw [List.getLast?_eq_none_iff, List.eq_nil_iff_forall_not_mem]
      intro e mem
      obtain ⟨b, none_below, -⟩ := stops.nearest _ _ (lower mem).1 (lower mem).2
      cases none_below
    | some b =>
      obtain ⟨found, under⟩ := stops.previous b rfl
      have mem : b ∈ pre := by
        have mem := mem_ordered.mpr found
        rw [split] at mem
        obtain mem | mem := List.mem_append.mp mem
        · exact mem
        · obtain same | mem := List.mem_cons.mp mem
          · exact absurd (congrArg Prod.fst same) (ne_of_lt under)
          · exact absurd under (lt_asymm (List.rel_of_pairwise_cons sorted_post mem))
      cases last_pre : pre.getLast? with
      | none =>
        rw [List.getLast?_eq_none_iff.mp last_pre] at mem
        cases mem
      | some e =>
        obtain ⟨found_e, under_e⟩ := lower (List.mem_of_getLast? last_pre)
        obtain ⟨b', same, le⟩ := stops.nearest _ _ found_e under_e
        cases same
        have bound := le_antisymm le (le_getLast sorted_pre last_pre mem)
        rw [bound, found] at found_e
        rw [Prod.ext bound (Option.some_inj.mp found_e).symm]
  unfold estimateQuantile
  rw [getLast?_ordered.mpr last]
  dsimp only
  rw [if_neg (by rw [positive]; exact Bool.false_ne_true), split, findBucket_append
    (fun e mem => stops.first _ _ (lower mem).1 (lower mem).2) stops.reached, previous]

/-- Below a bucket where the loop stops there is a greatest one, or none. -/
lemma exists_stopsAt {target} {bucket : Number × PyFloat}
    (found : deltas.get? bucket.1 = some bucket.2) (reached : target.le bucket.2 = true)
    (first : ∀ le cum, deltas.get? le = some cum → le < bucket.1 → target.le cum = false) :
    ∃ below, StopsAt deltas target below bucket := by
  have sorted := (@pairwise_ordered deltas).filter (fun e => decide (e.1 < bucket.1))
  have mem (e) : e ∈ (ordered deltas).filter (fun e => decide (e.1 < bucket.1)) ↔
      deltas.get? e.1 = some e.2 ∧ e.1 < bucket.1 := by
    rw [List.mem_filter, decide_eq_true_iff, ← mem_ordered]
  refine ⟨((ordered deltas).filter fun e => decide (e.1 < bucket.1)).getLast?, found, reached, first,
    fun b last => (mem b).mp (List.mem_of_getLast? last), ?_⟩
  intro le cum found_le under
  cases last : ((ordered deltas).filter fun e => decide (e.1 < bucket.1)).getLast? with
  | none =>
    have there := (mem (le, cum)).mpr ⟨found_le, under⟩
    rw [List.getLast?_eq_none_iff.mp last] at there
    cases there
  | some b => exact ⟨b, rfl, le_getLast sorted last ((mem (le, cum)).mpr ⟨found_le, under⟩)⟩

/-- Without buckets there is no estimate. -/
lemma estimateQuantile_of_empty {quantile} (empty : ∀ le, deltas.get? le = none) :
    estimateQuantile round deltas quantile = .ok .nan := by
  have none_ordered : (ordered deltas).getLast? = none := by
    rw [List.getLast?_eq_none_iff, List.eq_nil_iff_forall_not_mem]
    rintro ⟨le, cum⟩ mem
    rw [mem_ordered, empty] at mem
    cases mem
  unfold estimateQuantile
  rw [none_ordered]

/-- Where the greatest bucket did not grow, there is no estimate. -/
lemma estimateQuantile_of_no_growth {quantile lastLe total}
    (last : Greatest deltas lastLe total)
    (stands : total.le (.fin 0) = true) : estimateQuantile round deltas quantile = .ok .nan := by
  unfold estimateQuantile
  rw [getLast?_ordered.mpr last]
  dsimp only
  rw [if_pos stands]

/-- Where no bucket reaches the target, the estimate is the greatest bound. -/
lemma estimateQuantile_of_unreached {quantile lastLe total}
    (last : Greatest deltas lastLe total)
    (positive : total.le (.fin 0) = false)
    (unreached : ∀ le cum, deltas.get? le = some cum →
      (mulBy round quantile total).le cum = false) :
    estimateQuantile round deltas quantile = .ok lastLe.val := by
  have passes {target below} {items : List (Number × PyFloat)}
      (skipped : ∀ e ∈ items, target.le e.2 = false) :
      findBucket round target lastLe.val below items = .ok lastLe.val := by
    induction items generalizing below with
    | nil => rfl
    | cons e items ih =>
      rw [findBucket, if_neg (by rw [skipped e (List.mem_cons_self ..)]; exact Bool.false_ne_true)]
      exact ih fun e' mem => skipped e' (List.mem_cons_of_mem _ mem)
  unfold estimateQuantile
  rw [getLast?_ordered.mpr last]
  dsimp only
  rw [if_neg (by rw [positive]; exact Bool.false_ne_true),
    passes fun e mem => unreached e.1 e.2 (mem_ordered.mp mem)]

/-- The growth of the buckets that a scrape has. -/
lemma get?_bucketDeltas {prev cur : Dict Number PyFloat} {le cum} :
    (bucketDeltas round prev cur).get? le = some cum ↔
      (le ∈ prev.keys ∨ le ∈ cur.keys) ∧ cum = bucketDelta round prev cur le := by
  unfold bucketDeltas
  rw [Dict.get?_ofList, List.mem_map]
  · simp only [List.mem_dedup, List.mem_append, Prod.mk.injEq]
    constructor
    · rintro ⟨k, mem, rfl, rfl⟩
      exact ⟨mem, rfl⟩
    · rintro ⟨mem, rfl⟩
      exact ⟨le, mem, rfl, rfl⟩
  · rw [List.map_map]
    exact (List.map_id _).symm ▸ List.nodup_dedup _

/-- The signals depend on the buckets through the estimates of the percentiles only. -/
lemma windowSignals_congr {prev cur : MetricSnapshot} {prevBuckets curBuckets dt}
    (same : invalidWindow round prev cur dt = false → ∀ q ∈ quantiles round,
      safeQ round (bucketDeltas round prevBuckets curBuckets) q =
        safeQ round (bucketDeltas round prev.httpPostLatencyBuckets cur.httpPostLatencyBuckets) q) :
    windowSignals round { prev with
        httpPostLatencyBuckets := prevBuckets, debugRequestFailedSimulated := .fin 0
        debugRequestFailedPublish := .fin 0, debugFailureInjectionTotal := .fin 0 }
      { cur with
        httpPostLatencyBuckets := curBuckets, debugRequestFailedSimulated := .fin 0
        debugRequestFailedPublish := .fin 0, debugFailureInjectionTotal := .fin 0 } dt =
      windowSignals round prev cur dt := by
  have counters : invalidWindow round { prev with
        httpPostLatencyBuckets := prevBuckets, debugRequestFailedSimulated := .fin 0
        debugRequestFailedPublish := .fin 0, debugFailureInjectionTotal := .fin 0 }
      { cur with
        httpPostLatencyBuckets := curBuckets, debugRequestFailedSimulated := .fin 0
        debugRequestFailedPublish := .fin 0, debugFailureInjectionTotal := .fin 0 } dt =
      invalidWindow round prev cur dt := rfl
  unfold windowSignals
  rw [counters]
  split
  · rfl
  · rename_i valid
    rw [Bool.not_eq_true] at valid
    have same := same valid
    dsimp only
    rw [same (round (1 / 2)) (by simp [quantiles]), same (round (9 / 10)) (by simp [quantiles]),
      same (round (19 / 20)) (by simp [quantiles])]

end

end SentinelOps.Ml
