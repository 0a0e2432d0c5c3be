import SentinelOps.Lib.Fallible
import SentinelOps.Lib.PySet
import SentinelOps.Ml.WindowSignals

/-!
# Collected windows

The collector flattens every scrape of a run into a row, a column for each bucket that some scrape of
the run has, and `prepareWindow` rebuilds snapshots from two rows of the file. A bucket that a scrape
lacks is an empty cell, which is read back as a NaN, while a live window takes it for zero.
`prepareWindow_eq_live`: where the estimates read no such cell, both give the same signals.
-/

namespace SentinelOps

/-- What follows `p` in a text that starts with it. -/
def Py.removePrefix? (p s : String) : Option String :=
  if p.toList.isPrefixOf s.toList = true then some (String.ofList (s.toList.drop p.toList.length))
  else none

/-- What follows a text is what was written after it. -/
lemma Py.removePrefix?_eq_some {p s t : String} : removePrefix? p s = some t ↔ s = p ++ t := by
  unfold removePrefix?
  rw [Option.ite_none_right_eq_some, List.isPrefixOf_iff_prefix, Option.some.injEq]
  constructor
  · rintro ⟨⟨rest, start⟩, rfl⟩
    rw [← start, List.drop_left]
    rw [← String.toList_inj, String.toList_append, String.toList_ofList, start]
  · rintro rfl
    rw [String.toList_append, List.drop_left, String.ofList_toList]
    exact ⟨List.prefix_append _ _, rfl⟩

/-- `str` of a finite number has a point. -/
lemma Py.floatStr_ne_inf {q : ℚ} : floatStr q ≠ "inf" := by
  have some_decimals : decimals q ≠ 0 := by
    unfold decimals
    cases (List.range 17).find? fun d => (q * 10 ^ (d + 1)).den == 1 <;> simp
  have point : '.' ∈ (floatStr q).toList := by
    unfold floatStr fixed
    dsimp only
    rw [if_neg some_decimals]
    simp
  intro same
  rw [same] at point
  revert point
  decide

namespace Ml

open PyFloat

/-- A cell of a table. -/
inductive Cell where
  | text (s : String)
  | number (x : PyFloat)
  deriving DecidableEq

/-- A row, by column. -/
abbrev Row := Dict String Cell

/-- The labels of `NORMAL_LABELS` and `ANOMALY_LABELS`. -/
inductive Label where
  | normal
  | recovery
  | latencyAnomaly
  | errorAnomaly
  | publishFailure
  | trafficSurge
  deriving DecidableEq

/-- The text of a label. -/
def Label.text : Label → String
  | .normal => "normal"
  | .recovery => "recovery"
  | .latencyAnomaly => "latency_anomaly"
  | .errorAnomaly => "error_anomaly"
  | .publishFailure => "publish_failure"
  | .trafficSurge => "traffic_surge"

/-- `label_to_binary`. -/
def Label.toBinary : Label → ℚ
  | .normal | .recovery => 0
  | .latencyAnomaly | .errorAnomaly | .publishFailure | .trafficSurge => 1

/-- What the collector records of a `Scenario`. -/
structure Scenario where
  name : String
  label : Label

/-- One scrape of a run. -/
structure Scrape where
  scrapeTs : PyFloat
  scenario : Scenario
  snapshot : MetricSnapshot

/-- The prefix of the column of a bucket. -/
def bucketPrefix : String := "http_post_bucket_"

/-- `tag`, of a bucket. -/
def bucketTag (le : Number) : String := if le = .inf then "inf" else le.val.text

section
variable (isoformat : PyFloat → String) (runId : String)

/-- The columns that are no buckets. -/
def scalarColumns (scrape : Scrape) : List (String × Cell) :=
  let snap := scrape.snapshot
  [("run_id", .text runId), ("scrape_ts", .number scrape.scrapeTs),
    ("scrape_iso", .text (isoformat scrape.scrapeTs)), ("scenario", .text scrape.scenario.name),
    ("label", .text scrape.scenario.label.text),
    ("is_anomaly", .number (.fin scrape.scenario.label.toBinary)),
    ("http_post_count_total", .number snap.httpPostCountTotal),
    ("http_post_count_2xx", .number snap.httpPostCount2xx),
    ("http_post_count_4xx", .number snap.httpPostCount4xx),
    ("http_post_count_5xx", .number snap.httpPostCount5xx),
    ("http_post_latency_sum_ms", .number snap.httpPostLatencySumMs),
    ("http_post_latency_count", .number snap.httpPostLatencyCount),
    ("orders_created_total", .number snap.ordersCreatedTotal),
    ("publish_success_total", .number snap.publishSuccessTotal),
    ("publish_failure_total", .number snap.publishFailureTotal),
    ("publish_latency_sum_s", .number snap.publishLatencySumS),
    ("publish_latency_count", .number snap.publishLatencyCount),
    ("debug_request_failed_simulated", .number snap.debugRequestFailedSimulated),
    ("debug_request_failed_publish", .number snap.debugRequestFailedPublish),
    ("debug_failure_injection_total", .number snap.debugFailureInjectionTotal)]

/-- The columns of the buckets. -/
def bucketColumns (buckets : Dict Number PyFloat) : List (String × Cell) :=
  buckets.entries.map fun e => (bucketPrefix ++ bucketTag e.1, .number e.2)

/-- `_snapshot_row`. -/
def snapshotRow (scrape : Scrape) : Row :=
  .ofList (scalarColumns isoformat runId scrape ++
    bucketColumns scrape.snapshot.httpPostLatencyBuckets)

/-- `fieldnames`. -/
def fieldnames (rows : List Row) : List String := Py.sortedSet (rows.flatMap (·.keys))

/-- A row of the file as it is read back: an empty cell is a NaN. -/
def fileRow (columns : List String) (row : Row) : Row :=
  .ofList (columns.map fun k => (k, (row.get? k).getD (.number .nan)))

/-- The row of a scrape of a run in the file of the run. -/
def collectedRow (run : List Scrape) (scrape : Scrape) : Row :=
  fileRow (fieldnames (run.map (snapshotRow isoformat runId))) (snapshotRow isoformat runId scrape)

end

section
variable (round : ℚ → PyFloat) (float : String → Option PyFloat)

/-- `_as_float`. -/
def asFloat : Cell → PyFloat
  | .number x => x
  | .text s => (float s).getD (.fin 0)

/-- `f(key)`. -/
def field (row : Row) (key : String) : PyFloat :=
  asFloat float ((row.get? key).getD (.number (.fin 0)))

/-- The bound of a bucket, from its tag. -/
def bucketBound (tag : String) : Except String Number :=
  if tag = "inf" then .ok .inf
  else match float tag with
    | none => .error ("could not convert string to float: " ++ Py.repr tag)
    | some x => if num : x ≠ .nan then .ok ⟨x, num⟩ else .error "a NaN bounds no bucket"

/-- The buckets of a row. -/
def rowBuckets (row : Row) : Except String (Dict Number PyFloat) := do
  let cells := row.entries.filterMap fun e =>
    (Py.removePrefix? bucketPrefix e.1).map fun tag => (tag, e.2)
  let buckets ← cells.mapM fun e => do
    let le ← bucketBound float e.1
    .ok (le, asFloat float e.2)
  .ok (.ofList buckets)

/-- `_snapshot_from_row`. -/
def snapshotFromRow (row : Row) : Except String MetricSnapshot := do
  let f := field float row
  let buckets ← rowBuckets float row
  .ok {
    httpPostCountTotal := f "http_post_count_total"
    httpPostCount2xx := f "http_post_count_2xx"
    httpPostCount4xx := f "http_post_count_4xx"
    httpPostCount5xx := f "http_post_count_5xx"
    httpPostLatencySumMs := f "http_post_latency_sum_ms"
    httpPostLatencyCount := f "http_post_latency_count"
    httpPostLatencyBuckets := buckets
    ordersCreatedTotal := f "orders_created_total"
    publishSuccessTotal := f "publish_success_total"
    publishFailureTotal := f "publish_failure_total"
    publishLatencySumS := f "publish_latency_sum_s"
    publishLatencyCount := f "publish_latency_count" }

/-- The signals that `prepare_run` computes from two consecutive rows, none at the boundary of a
segment or for an invalid window. -/
def prepareWindow (prevRow curRow : Row) : Except String (Option (Signals PyFloat)) :=
  if prevRow.get? "scenario" ≠ curRow.get? "scenario" then .ok none
  else do
    let dt := subBy round (field float curRow "scrape_ts") (field float prevRow "scrape_ts")
    let prev ← snapshotFromRow float prevRow
    let cur ← snapshotFromRow float curRow
    windowSignals round prev cur dt

variable {round} {float}

/-- The text of a bound is read back as that bound. -/
def RoundTrips (float : String → Option PyFloat) (le : Number) : Prop :=
  le ≠ .inf → float le.val.text = some le.val

/-- The tag of a bound is read back as that bound. -/
lemma bucketBound_bucketTag {le} (back : RoundTrips float le) :
    bucketBound float (bucketTag le) = .ok le := by
  unfold bucketTag
  split
  · rename_i infinite
    rw [infinite]
    rfl
  · rename_i finite
    have tag : le.val.text ≠ "inf" := by
      obtain ⟨x, num⟩ := le
      cases x with
      | nan => exact absurd rfl num
      | negInf => exact ne_of_beq_false rfl
      | fin q => exact Py.floatStr_ne_inf
      | posInf => exact absurd rfl finite
    unfold bucketBound
    rw [if_neg tag, back finite]
    dsimp only
    rw [dif_pos le.num]

/-- The column of a bucket. -/
lemma removePrefix?_bucket {tag} : Py.removePrefix? bucketPrefix (bucketPrefix ++ tag) = some tag :=
  Py.removePrefix?_eq_some.mpr rfl

/-- No other column is taken for one of a bucket. -/
lemma removePrefix?_scalar {isoformat runId scrape key cell}
    (mem : (key, cell) ∈ scalarColumns isoformat runId scrape) :
    Py.removePrefix? bucketPrefix key = none := by
  have keys : ∀ k ∈ (scalarColumns isoformat runId scrape).map Prod.fst,
      Py.removePrefix? bucketPrefix k = none := by
    unfold scalarColumns
    simp only [List.map_cons, List.map_nil]
    decide
  exact keys _ (List.mem_map.mpr ⟨_, mem, rfl⟩)

/-- The columns of a row are distinct. -/
lemma nodup_columns {isoformat runId} {scrape : Scrape}
    (back : ∀ le ∈ scrape.snapshot.httpPostLatencyBuckets.keys, RoundTrips float le) :
    ((scalarColumns isoformat runId scrape ++
      bucketColumns scrape.snapshot.httpPostLatencyBuckets).map Prod.fst).Nodup := by
  rw [List.map_append, List.nodup_append]
  refine ⟨?_, ?_, ?_⟩
  · unfold scalarColumns
    simp only [List.map_cons, List.map_nil]
    decide
  · unfold bucketColumns
    rw [List.map_map]
    have keys := scrape.snapshot.httpPostLatencyBuckets.nodup
    have tags := keys.map_on (f := fun le => bucketPrefix ++ bucketTag le) (by
      intro a mem_a b mem_b same
      rw [String.append_right_inj] at same
      have bound := bucketBound_bucketTag (back a mem_a)
      rw [same, bucketBound_bucketTag (back b mem_b)] at bound
      exact (Except.ok.inj bound).symm)
    rwa [List.map_map] at tags
  · intro key scalar column bucket same
    obtain ⟨⟨k, cell⟩, mem, rfl⟩ := List.mem_map.mp scalar
    unfold bucketColumns at bucket
    rw [List.map_map] at bucket
    obtain ⟨e, -, rfl⟩ := List.mem_map.mp bucket
    have none_of := removePrefix?_scalar mem
    dsimp only at same
    rw [same] at none_of
    dsimp only [Function.comp_apply] at none_of
    rw [removePrefix?_bucket] at none_of
    cases none_of

/-- The cells of a row. -/
lemma get?_snapshotRow {isoformat runId key cell} {scrape : Scrape}
    (back : ∀ le ∈ scrape.snapshot.httpPostLatencyBuckets.keys, RoundTrips float le) :
    (snapshotRow isoformat runId scrape).get? key = some cell ↔
      (key, cell) ∈ scalarColumns isoformat runId scrape ∨
        (key, cell) ∈ bucketColumns scrape.snapshot.httpPostLatencyBuckets := by
  unfold snapshotRow
  rw [Dict.get?_ofList (nodup_columns back), List.mem_append]

section
variable {isoformat : PyFloat → String} {runId : String} {run : List Scrape}

/-- A column of the file is one of some row. -/
lemma mem_fieldnames {rows : List Row} {key} :
    key ∈ fieldnames rows ↔ ∃ row ∈ rows, ∃ cell, row.get? key = some cell := by
  unfold fieldnames
  rw [Py.mem_sortedSet, List.mem_flatMap]
  simp only [Dict.mem_keys_iff]

/-- The columns of the file are distinct. -/
lemma nodup_fieldnames {rows : List Row} : (fieldnames rows).Nodup := Py.nodup_sortedSet

/-- A cell that is read back. -/
lemma get?_fileRow {columns : List String} (nodup : columns.Nodup) {row : Row} {key cell} :
    (fileRow columns row).get? key = some cell ↔
      key ∈ columns ∧ cell = (row.get? key).getD (.number .nan) := by
  unfold fileRow
  rw [Dict.get?_ofList, List.mem_map]
  · constructor
    · rintro ⟨k, mem, same⟩
      cases same
      exact ⟨mem, rfl⟩
    · rintro ⟨mem, rfl⟩
      exact ⟨key, mem, rfl⟩
  · rw [List.map_map]
    exact (List.map_id _).symm ▸ nodup

/-- The other columns of a scrape are read back as they were written. -/
lemma scalar_collectedRow {scrape key cell} (mem : scrape ∈ run)
    (back : ∀ le ∈ scrape.snapshot.httpPostLatencyBuckets.keys, RoundTrips float le)
    (column : (key, cell) ∈ scalarColumns isoformat runId scrape) :
    (collectedRow isoformat runId run scrape).get? key = some cell := by
  have written := (get?_snapshotRow back).mpr (.inl column)
  unfold collectedRow
  rw [get?_fileRow nodup_fieldnames, written]
  exact ⟨mem_fieldnames.mpr ⟨_, List.mem_map.mpr ⟨scrape, mem, rfl⟩, cell, written⟩, rfl⟩

/-- A bucket of some scrape of the run. -/
def Column (run : List Scrape) (le : Number) : Prop :=
  ∃ scrape ∈ run, le ∈ scrape.snapshot.httpPostLatencyBuckets.keys

/-- A bucket has a column of its own. -/
lemma bucketTag_injective {a b} (back_a : RoundTrips float a) (back_b : RoundTrips float b)
    (same : bucketTag a = bucketTag b) : a = b := by
  have bound := bucketBound_bucketTag back_a
  rw [same, bucketBound_bucketTag back_b] at bound
  exact (Except.ok.inj bound).symm

/-- The cell of a bucket. -/
lemma bucket_snapshotRow {scrape : Scrape} {le}
    (back : ∀ k ∈ scrape.snapshot.httpPostLatencyBuckets.keys, RoundTrips float k)
    (back_le : RoundTrips float le) :
    (snapshotRow isoformat runId scrape).get? (bucketPrefix ++ bucketTag le) =
      (scrape.snapshot.httpPostLatencyBuckets.get? le).map .number := by
  apply Option.ext
  intro cell
  rw [get?_snapshotRow back, Option.map_eq_some_iff]
  constructor
  · rintro (scalar | bucket)
    · have none_of := removePrefix?_scalar scalar
      rw [removePrefix?_bucket] at none_of
      cases none_of
    · obtain ⟨⟨k, v⟩, entry, same⟩ := List.mem_map.mp bucket
      simp only [Prod.mk.injEq, String.append_right_inj] at same
      have found := Dict.get?_eq_some_iff.mpr entry
      have key := Dict.mem_keys_iff.mpr ⟨v, found⟩
      rw [← bucketTag_injective (back k key) back_le same.1]
      exact ⟨v, found, same.2⟩
  · rintro ⟨v, found, rfl⟩
    exact .inr (List.mem_map.mpr ⟨(le, v), Dict.get?_eq_some_iff.mp found, rfl⟩)

/-- The columns of the buckets are read back, with a NaN for a bucket that the scrape lacks. -/
lemma bucket_collectedRow {scrape tag cell} (mem : scrape ∈ run)
    (back : ∀ le, Column run le → RoundTrips float le) :
    (collectedRow isoformat runId run scrape).get? (bucketPrefix ++ tag) = some cell ↔
      ∃ le, Column run le ∧ tag = bucketTag le ∧
        cell = .number ((scrape.snapshot.httpPostLatencyBuckets.get? le).getD .nan) := by
  have own {s : Scrape} (h : s ∈ run) : ∀ le ∈ s.snapshot.httpPostLatencyBuckets.keys,
      RoundTrips float le := fun le key => back le ⟨s, h, key⟩
  have cell_of {le} (column : Column run le) :
      ((snapshotRow isoformat runId scrape).get? (bucketPrefix ++ bucketTag le)).getD
          (.number .nan) =
        .number ((scrape.snapshot.httpPostLatencyBuckets.get? le).getD .nan) := by
    rw [bucket_snapshotRow (own mem) (back le column)]
    cases scrape.snapshot.httpPostLatencyBuckets.get? le <;> rfl
  unfold collectedRow
  rw [get?_fileRow nodup_fieldnames, mem_fieldnames]
  constructor
  · rintro ⟨⟨row, row_mem, c, found⟩, rfl⟩
    obtain ⟨s, s_mem, rfl⟩ := List.mem_map.mp row_mem
    obtain scalar | bucket := (get?_snapshotRow (own s_mem)).mp found
    · have none_of := removePrefix?_scalar scalar
      rw [removePrefix?_bucket] at none_of
      cases none_of
    · obtain ⟨⟨le, v⟩, entry, same⟩ := List.mem_map.mp bucket
      simp only [Prod.mk.injEq, String.append_right_inj] at same
      obtain ⟨rfl, -⟩ := same
      have column : Column run le :=
        ⟨s, s_mem, Dict.mem_keys_iff.mpr ⟨v, Dict.get?_eq_some_iff.mpr entry⟩⟩
      exact ⟨le, column, rfl, cell_of column⟩
  · rintro ⟨le, column, rfl, rfl⟩
    refine ⟨?_, (cell_of column).symm⟩
    obtain ⟨s, s_mem, key⟩ := column
    obtain ⟨v, found⟩ := Dict.mem_keys_iff.mp key
    refine ⟨_, List.mem_map.mpr ⟨s, s_mem, rfl⟩, .number v, ?_⟩
    rw [bucket_snapshotRow (own s_mem) (own s_mem le key), found]
    rfl

/-- The cells of a row under its bucket columns, by tag. -/
lemma nodup_tags {es : List (String × Cell)} (nodup : (es.map Prod.fst).Nodup) :
    ((es.filterMap fun e => (Py.removePrefix? bucketPrefix e.1).map fun tag =>
      (tag, e.2)).map Prod.fst).Nodup := by
  suffices sub : ((es.filterMap fun e => (Py.removePrefix? bucketPrefix e.1).map fun tag =>
      (tag, e.2)).map fun e => bucketPrefix ++ e.1).Sublist (es.map Prod.fst) by
    have prefixed := nodup.sublist sub
    rw [← Function.comp_def, ← List.map_map] at prefixed
    exact prefixed.of_map _
  clear nodup
  induction es with
  | nil => exact .slnil
  | cons e es ih =>
    cases start : Py.removePrefix? bucketPrefix e.1 with
    | none =>
      rw [List.filterMap_cons_none (by rw [start]; rfl)]
      exact ih.cons _
    | some tag =>
      rw [List.filterMap_cons_some (by rw [start]; rfl), List.map_cons, List.map_cons,
        Py.removePrefix?_eq_some.mp start]
      exact ih.cons_cons _

variable (isoformat runId) in
/-- The buckets that are rebuilt from a row of the file: those of all columns. -/
lemma rowBuckets_collectedRow {scrape} (mem : scrape ∈ run)
    (back : ∀ le, Column run le → RoundTrips float le) :
    ∃ buckets, rowBuckets float (collectedRow isoformat runId run scrape) = .ok buckets ∧
      ∀ le v, buckets.get? le = some v ↔ Column run le ∧
        v = (scrape.snapshot.httpPostLatencyBuckets.get? le).getD .nan := by
  have cells (tag cell) : (tag, cell) ∈ (collectedRow isoformat runId run scrape).entries.filterMap
      (fun e => (Py.removePrefix? bucketPrefix e.1).map fun tag => (tag, e.2)) ↔
      ∃ le, Column run le ∧ tag = bucketTag le ∧
        cell = .number ((scrape.snapshot.httpPostLatencyBuckets.get? le).getD .nan) := by
    rw [List.mem_filterMap, ← bucket_collectedRow mem back, Dict.get?_eq_some_iff]
    constructor
    · rintro ⟨⟨key, c⟩, entry, found⟩
      obtain ⟨t, start, same⟩ := Option.map_eq_some_iff.mp found
      cases same
      rw [← Py.removePrefix?_eq_some.mp start]
      exact entry
    · intro entry
      refine ⟨_, entry, ?_⟩
      dsimp only
      rw [removePrefix?_bucket]
      rfl
  have tags := nodup_tags (collectedRow isoformat runId run scrape).nodup
  unfold rowBuckets
  dsimp only
  generalize (collectedRow isoformat runId run scrape).entries.filterMap
    (fun e => (Py.removePrefix? bucketPrefix e.1).map fun tag => (tag, e.2)) = cs at cells tags
  let boundOf (tag : String) : Number := (bucketBound float tag).toOption.getD .inf
  have bound {le} (column : Column run le) : boundOf (bucketTag le) = le := by
    dsimp only [boundOf]
    rw [bucketBound_bucketTag (back le column)]
    rfl
  have read : cs.mapM (fun e => do
      let le ← bucketBound float e.1
      .ok (le, asFloat float e.2)) = .ok (cs.map fun e => (boundOf e.1, asFloat float e.2)) := by
    apply mapM_eq_map
    rintro ⟨tag, cell⟩ entry
    obtain ⟨le, column, rfl, -⟩ := (cells tag cell).mp entry
    dsimp only
    rw [bucketBound_bucketTag (back le column), bound column]
    rfl
  rw [read]
  refine ⟨_, rfl, fun le v => ?_⟩
  rw [Dict.get?_ofList, List.mem_map]
  · constructor
    · rintro ⟨⟨tag, cell⟩, entry, same⟩
      obtain ⟨k, column, rfl, rfl⟩ := (cells tag cell).mp entry
      cases same
      rw [bound column]
      exact ⟨column, rfl⟩
    · rintro ⟨column, rfl⟩
      refine ⟨_, (cells _ _).mpr ⟨le, column, rfl, rfl⟩, ?_⟩
      dsimp only
      rw [bound column]
      rfl
  · rw [List.map_map]
    have bounds := tags.map_on (f := boundOf) (by
      intro a mem_a b mem_b same
      obtain ⟨⟨_, cell_a⟩, entry_a, rfl⟩ := List.mem_map.mp mem_a
      obtain ⟨⟨_, cell_b⟩, entry_b, rfl⟩ := List.mem_map.mp mem_b
      obtain ⟨le_a, column_a, rfl, -⟩ := (cells _ _).mp entry_a
      obtain ⟨le_b, column_b, rfl, -⟩ := (cells _ _).mp entry_b
      rw [bound column_a, bound column_b] at same
      rw [same])
    rwa [List.map_map] at bounds

end

/-- Both scrapes have the bucket. -/
def Shared (prev cur : MetricSnapshot) (le : Number) : Prop :=
  le ∈ prev.httpPostLatencyBuckets.keys ∧ le ∈ cur.httpPostLatencyBuckets.keys

instance {prev cur le} : Decidable (Shared prev cur le) := inferInstanceAs (Decidable (_ ∧ _))

/-- One of the scrapes has the bucket. -/
def Present (prev cur : MetricSnapshot) (le : Number) : Prop :=
  le ∈ prev.httpPostLatencyBuckets.keys ∨ le ∈ cur.httpPostLatencyBuckets.keys

/-- The growth of a bucket between two snapshots. -/
abbrev growth (round : ℚ → PyFloat) (prev cur : MetricSnapshot) (le : Number) : PyFloat :=
  bucketDelta round prev.httpPostLatencyBuckets cur.httpPostLatencyBuckets le

/-- The loop stops at a bucket that both scrapes have, and the column below it is one that both have,
if there is one. -/
structure StopsShared (round : ℚ → PyFloat) (run : List Scrape) (prev cur : MetricSnapshot)
    (target : PyFloat) (le : Number) : Prop where
  shared : Shared prev cur le
  reached : target.le (growth round prev cur le) = true
  first : ∀ k, Present prev cur k → k < le → target.le (growth round prev cur k) = false
  below : ∀ k, Column run k → k < le → ¬ Shared prev cur k →
    ∃ b, Shared prev cur b ∧ k < b ∧ b < le

/-- The estimate of a percentile reads no bucket that one of the scrapes lacks: the greatest column
of the run is a bucket of both, and so are those around the place where the loop stops. -/
def ReadsShared (round : ℚ → PyFloat) (run : List Scrape) (prev cur : MetricSnapshot)
    (q : PyFloat) : Prop :=
  ∃ last, Shared prev cur last ∧ (∀ k, Column run k → k ≤ last) ∧
    ((growth round prev cur last).le (.fin 0) = true ∨
      (∀ k, Present prev cur k → (mulBy round q (growth round prev cur last)).le
        (growth round prev cur k) = false) ∨
      ∃ le, StopsShared round run prev cur (mulBy round q (growth round prev cur last)) le)

section
variable {run : List Scrape} {prev cur : MetricSnapshot} {prevFile curFile : Dict Number PyFloat}

/-- The growth that the file shows. -/
lemma get?_fileDeltas {le cum}
    (prev_file : ∀ le v, prevFile.get? le = some v ↔ Column run le ∧
      v = (prev.httpPostLatencyBuckets.get? le).getD .nan)
    (cur_file : ∀ le v, curFile.get? le = some v ↔ Column run le ∧
      v = (cur.httpPostLatencyBuckets.get? le).getD .nan) :
    (bucketDeltas round prevFile curFile).get? le = some cum ↔ Column run le ∧
      (Shared prev cur le → cum = growth round prev cur le) ∧
        (¬ Shared prev cur le → cum = .nan) := by
  have keys : le ∈ prevFile.keys ∨ le ∈ curFile.keys ↔ Column run le := by
    rw [Dict.mem_keys_iff, Dict.mem_keys_iff]
    constructor
    · rintro (⟨v, found⟩ | ⟨v, found⟩)
      · exact ((prev_file le v).mp found).1
      · exact ((cur_file le v).mp found).1
    · exact fun column => .inl ⟨_, (prev_file le _).mpr ⟨column, rfl⟩⟩
  rw [get?_bucketDeltas, keys]
  apply and_congr_right
  intro column
  have delta : bucketDelta round prevFile curFile le =
      PyFloat.max (subBy round ((cur.httpPostLatencyBuckets.get? le).getD .nan)
        ((prev.httpPostLatencyBuckets.get? le).getD .nan)) (.fin 0) := by
    unfold bucketDelta bucketCount
    rw [(prev_file le _).mpr ⟨column, rfl⟩, (cur_file le _).mpr ⟨column, rfl⟩]
    rfl
  rw [delta]
  unfold Shared growth bucketDelta bucketCount
  rw [Dict.mem_keys_iff, Dict.mem_keys_iff]
  cases prev.httpPostLatencyBuckets.get? le <;> cases cur.httpPostLatencyBuckets.get? le <;> simp

/-- The file shows the same estimate where no bucket is read that one of the scrapes lacks. -/
lemma estimateQuantile_file {q}
    (prev_file : ∀ le v, prevFile.get? le = some v ↔ Column run le ∧
      v = (prev.httpPostLatencyBuckets.get? le).getD .nan)
    (cur_file : ∀ le v, curFile.get? le = some v ↔ Column run le ∧
      v = (cur.httpPostLatencyBuckets.get? le).getD .nan)
    (columns : ∀ le, Present prev cur le → Column run le)
    (reads : ReadsShared round run prev cur q) :
    estimateQuantile round (bucketDeltas round prevFile curFile) q =
      estimateQuantile round
        (bucketDeltas round prev.httpPostLatencyBuckets cur.httpPostLatencyBuckets) q := by
  have file {le cum} : (bucketDeltas round prevFile curFile).get? le = some cum ↔ Column run le ∧
      (Shared prev cur le → cum = growth round prev cur le) ∧ (¬ Shared prev cur le → cum = .nan) :=
    get?_fileDeltas prev_file cur_file
  have live {le cum} : (bucketDeltas round prev.httpPostLatencyBuckets
      cur.httpPostLatencyBuckets).get? le = some cum ↔
      Present prev cur le ∧ cum = growth round prev cur le := get?_bucketDeltas
  have in_both {le} (shared : Shared prev cur le) :
      (bucketDeltas round prevFile curFile).get? le = some (growth round prev cur le) ∧
        (bucketDeltas round prev.httpPostLatencyBuckets cur.httpPostLatencyBuckets).get? le =
          some (growth round prev cur le) :=
    ⟨file.mpr ⟨columns le (.inl shared.1), fun _ => rfl, fun other => absurd shared other⟩,
      live.mpr ⟨.inl shared.1, rfl⟩⟩
  have file_missed {target : PyFloat} {le cum}
      (found : (bucketDeltas round prevFile curFile).get? le = some cum)
      (missed : Present prev cur le → target.le (growth round prev cur le) = false) :
      target.le cum = false := by
    obtain ⟨-, of_shared, of_not⟩ := file.mp found
    by_cases shared : Shared prev cur le
    · rw [of_shared shared, missed (.inl shared.1)]
    · rw [of_not shared, le_nan]
  obtain ⟨last, shared, greatest, reads⟩ := reads
  have file_last : Greatest (bucketDeltas round prevFile curFile) last (growth round prev cur last) :=
    ⟨(in_both shared).1, fun k c found => greatest k (file.mp found).1⟩
  have live_last : Greatest (bucketDeltas round prev.httpPostLatencyBuckets
      cur.httpPostLatencyBuckets) last (growth round prev cur last) :=
    ⟨(in_both shared).2, fun k c found => greatest k (columns k (live.mp found).1)⟩
  by_cases stands : (growth round prev cur last).le (.fin 0) = true
  · rw [estimateQuantile_of_no_growth file_last stands,
      estimateQuantile_of_no_growth live_last stands]
  · rw [Bool.not_eq_true] at stands
    obtain none_grew | unreached | ⟨le, stops⟩ := reads
    · rw [none_grew] at stands
      cases stands
    · rw [estimateQuantile_of_unreached file_last stands fun k c found =>
          file_missed found (unreached k),
        estimateQuantile_of_unreached live_last stands fun k c found => ?_]
      obtain ⟨present, rfl⟩ := live.mp found
      exact unreached k present
    -- the row shows a bucket that one of the scrapes lacks as `NaN`, which no target reaches
    · obtain ⟨below, file_stops⟩ := @exists_stopsAt (bucketDeltas round prevFile curFile)
        (mulBy round q (growth round prev cur last)) (le, growth round prev cur le)
        (in_both stops.shared).1 stops.reached fun k c found under =>
          file_missed found fun present => stops.first k present under
      have live_stops : StopsAt (bucketDeltas round prev.httpPostLatencyBuckets
          cur.httpPostLatencyBuckets) (mulBy round q (growth round prev cur last)) below
          (le, growth round prev cur le) := by
        refine ⟨(in_both stops.shared).2, stops.reached, ?_, ?_, ?_⟩
        · intro k c found under
          obtain ⟨present, rfl⟩ := live.mp found
          exact stops.first k present under
        · intro b is_below
          obtain ⟨found, under⟩ := file_stops.previous b is_below
          obtain ⟨column, of_shared, -⟩ := file.mp found
          refine ⟨?_, under⟩
          by_cases shared : Shared prev cur b.1
          · rw [of_shared shared]
            exact (in_both shared).2
          · obtain ⟨b', shared', above, under'⟩ := stops.below b.1 column under shared
            obtain ⟨b'', same, le⟩ := file_stops.nearest _ _ (in_both shared').1 under'
            cases is_below.symm.trans same
            exact absurd above (not_lt_of_ge le)
        · intro k c found under
          have column := columns k (live.mp found).1
          obtain ⟨cum, in_file⟩ : ∃ cum, (bucketDeltas round prevFile curFile).get? k = some cum := by
            by_cases shared : Shared prev cur k
            · exact ⟨_, (in_both shared).1⟩
            · exact ⟨.nan, file.mpr ⟨column, fun h => absurd h shared, fun _ => rfl⟩⟩
          exact file_stops.nearest k cum in_file under
      rw [estimateQuantile_of_stopsAt file_last stands file_stops,
        estimateQuantile_of_stopsAt live_last stands live_stops]

end

/-- The snapshot that is rebuilt from a row of the file: the counters of the scrape, and its buckets
as `rowBuckets_collectedRow` describes them. -/
lemma snapshotFromRow_collectedRow (isoformat runId) {run : List Scrape} {scrape}
    (mem : scrape ∈ run) (back : ∀ le, Column run le → RoundTrips float le) :
    ∃ buckets, snapshotFromRow float (collectedRow isoformat runId run scrape) =
        .ok { scrape.snapshot with
          httpPostLatencyBuckets := buckets, debugRequestFailedSimulated := .fin 0
          debugRequestFailedPublish := .fin 0, debugFailureInjectionTotal := .fin 0 } ∧
      ∀ le v, buckets.get? le = some v ↔ Column run le ∧
        v = (scrape.snapshot.httpPostLatencyBuckets.get? le).getD .nan := by
  obtain ⟨buckets, read, known⟩ := rowBuckets_collectedRow isoformat runId mem back
  have f (key x) (column : (key, .number x) ∈ scalarColumns isoformat runId scrape) :
      field float (collectedRow isoformat runId run scrape) key = x := by
    unfold field
    rw [scalar_collectedRow mem (fun le key => back le ⟨scrape, mem, key⟩) column]
    rfl
  refine ⟨buckets, ?_, known⟩
  unfold snapshotFromRow
  rw [read, Except.ok_bind]
  dsimp only
  rw [f "http_post_count_total" scrape.snapshot.httpPostCountTotal (by simp [scalarColumns]),
    f "http_post_count_2xx" scrape.snapshot.httpPostCount2xx (by simp [scalarColumns]),
    f "http_post_count_4xx" scrape.snapshot.httpPostCount4xx (by simp [scalarColumns]),
    f "http_post_count_5xx" scrape.snapshot.httpPostCount5xx (by simp [scalarColumns]),
    f "http_post_latency_sum_ms" scrape.snapshot.httpPostLatencySumMs (by simp [scalarColumns]),
    f "http_post_latency_count" scrape.snapshot.httpPostLatencyCount (by simp [scalarColumns]),
    f "orders_created_total" scrape.snapshot.ordersCreatedTotal (by simp [scalarColumns]),
    f "publish_success_total" scrape.snapshot.publishSuccessTotal (by simp [scalarColumns]),
    f "publish_failure_total" scrape.snapshot.publishFailureTotal (by simp [scalarColumns]),
    f "publish_latency_sum_s" scrape.snapshot.publishLatencySumS (by simp [scalarColumns]),
    f "publish_latency_count" scrape.snapshot.publishLatencyCount (by simp [scalarColumns])]

/-- The file and the scrapes give the same signals where the window is invalid, where the run has no
buckets, and where no estimate reads a bucket that one of the two scrapes lacks. -/
theorem prepareWindow_eq_live {isoformat runId} {run : List Scrape} {prev cur}
    (prev_mem : prev ∈ run) (cur_mem : cur ∈ run)
    (same_scenario : prev.scenario.name = cur.scenario.name)
    (back : ∀ le, Column run le → RoundTrips float le)
    (reads : invalidWindow round prev.snapshot cur.snapshot
        (subBy round cur.scrapeTs prev.scrapeTs) = true ∨ (∀ le, ¬ Column run le) ∨
      ∀ q ∈ quantiles round, ReadsShared round run prev.snapshot cur.snapshot q) :
    prepareWindow round float (collectedRow isoformat runId run prev)
        (collectedRow isoformat runId run cur) =
      windowSignals round prev.snapshot cur.snapshot (subBy round cur.scrapeTs prev.scrapeTs) := by
  have own {s : Scrape} (h : s ∈ run) : ∀ le ∈ s.snapshot.httpPostLatencyBuckets.keys,
      RoundTrips float le := fun le key => back le ⟨s, h, key⟩
  have scenario {s : Scrape} (h : s ∈ run) :
      (collectedRow isoformat runId run s).get? "scenario" = some (.text s.scenario.name) :=
    scalar_collectedRow h (own h) (by simp [scalarColumns])
  have time {s : Scrape} (h : s ∈ run) :
      field float (collectedRow isoformat runId run s) "scrape_ts" = s.scrapeTs := by
    unfold field
    rw [scalar_collectedRow h (own h) (show ("scrape_ts", .number s.scrapeTs) ∈ _ by
      simp [scalarColumns])]
    rfl
  obtain ⟨prevFile, prev_row, prev_file⟩ :=
    snapshotFromRow_collectedRow isoformat runId prev_mem back
  obtain ⟨curFile, cur_row, cur_file⟩ :=
    snapshotFromRow_collectedRow isoformat runId cur_mem back
  unfold prepareWindow
  rw [scenario prev_mem, scenario cur_mem, same_scenario, if_neg (not_not.mpr rfl), time prev_mem,
    time cur_mem, prev_row, Except.ok_bind, cur_row, Except.ok_bind]
  apply windowSignals_congr
  intro valid q mem
  unfold safeQ
  obtain invalid | empty | reads := reads
  · rw [valid] at invalid
    cases invalid
  · have no_file (le) : (bucketDeltas round prevFile curFile).get? le = none := by
      cases found : (bucketDeltas round prevFile curFile).get? le with
      | none => rfl
      | some cum => exact absurd ((get?_fileDeltas prev_file cur_file).mp found).1 (empty le)
    have no_live (le) : (bucketDeltas round prev.snapshot.httpPostLatencyBuckets
        cur.snapshot.httpPostLatencyBuckets).get? le = none := by
      cases found : (bucketDeltas round prev.snapshot.httpPostLatencyBuckets
        cur.snapshot.httpPostLatencyBuckets).get? le with
      | none => rfl
      | some cum =>
        obtain key | key := (get?_bucketDeltas.mp found).1
        · exact absurd ⟨prev, prev_mem, key⟩ (empty le)
        · exact absurd ⟨cur, cur_mem, key⟩ (empty le)
    rw [estimateQuantile_of_empty no_file, estimateQuantile_of_empty no_live]
  · rw [estimateQuantile_file prev_file cur_file ?_ (reads q mem)]
    rintro le (key | key)
    · exact ⟨prev, prev_mem, key⟩
    · exact ⟨cur, cur_mem, key⟩

end

/-- A scrape after some orders, each answered within 5 ms. -/
def scrapeAfterOrders (time orders : ℚ) : Scrape :=
  ⟨.fin time, ⟨"normal", .normal⟩, {
    httpPostCountTotal := .fin orders, httpPostCount2xx := .fin orders
    httpPostLatencySumMs := .fin (4 * orders), httpPostLatencyCount := .fin orders
    httpPostLatencyBuckets := .ofList [(⟨.fin 5, nofun⟩, .fin orders), (.inf, .fin orders)]
    ordersCreatedTotal := .fin orders }⟩

/-- `float`, of the tag that these scrapes have. -/
def floatOfTag (tag : String) : Option PyFloat := if tag = "5.0" then some (.fin 5) else none

/-- In a window after the first orders the file shows what the scrapes show. -/
theorem prepareWindow_eq_live_later :
    let run := [scrapeAfterOrders 0 4, scrapeAfterOrders 10 9]
    let row := collectedRow (fun _ => "1970-01-01T00:00:00+00:00") "run_a" run
    prepareWindow .nearest floatOfTag (row (scrapeAfterOrders 0 4)) (row (scrapeAfterOrders 10 9)) =
      windowSignals .nearest (scrapeAfterOrders 0 4).snapshot (scrapeAfterOrders 10 9).snapshot
        (subBy .nearest (.fin 10) (.fin 0)) := by
  intro run row
  have keys (time orders) : (scrapeAfterOrders time orders).snapshot.httpPostLatencyBuckets.keys =
      [⟨.fin 5, nofun⟩, .inf] := by rfl
  have columns {k} (column : Column run k) : k = ⟨.fin 5, nofun⟩ ∨ k = .inf := by
    obtain ⟨s, mem, key⟩ := column
    obtain rfl | rfl : s = scrapeAfterOrders 0 4 ∨ s = scrapeAfterOrders 10 9 := by
      simpa [run] using mem
    · rw [keys] at key
      simpa using key
    · rw [keys] at key
      simpa using key
  have none_under {k} (column : Column run k) : ¬ k < ⟨.fin 5, nofun⟩ := by
    obtain rfl | rfl := columns column
    · decide +kernel
    · decide +kernel
  have present {k} (h : Present (scrapeAfterOrders 0 4).snapshot (scrapeAfterOrders 10 9).snapshot k) :
      Column run k := by
    obtain key | key := h
    · exact ⟨_, List.mem_cons_self .., key⟩
    · exact ⟨_, List.mem_cons_of_mem _ (List.mem_cons_self ..), key⟩
  refine prepareWindow_eq_live (List.mem_cons_self ..)
    (List.mem_cons_of_mem _ (List.mem_cons_self ..)) rfl ?_ (.inr (.inr ?_))
  · intro le column finite
    obtain rfl | rfl := columns column
    · decide +kernel
    · exact absurd rfl finite
  · intro q mem
    refine ⟨.inf, by decide +kernel, ?_, .inr (.inr ⟨⟨.fin 5, nofun⟩, by decide +kernel, ?_, ?_, ?_⟩)⟩
    · intro k column
      obtain rfl | rfl := columns column
      · decide +kernel
      · exact le_refl _
    · revert q
      decide +kernel
    · exact fun k there under => absurd under (none_under (present there))
    · exact fun k column under => absurd under (none_under column)

/-- A scrape of an idle service before its first order: there is no series for the orders yet. -/
def scrapeBeforeOrders : Scrape := ⟨.fin 0, ⟨"normal", .normal⟩, {}⟩

/-- The median of a window is finite, where there is one. -/
def medianFinite : Except String (Option (Signals PyFloat)) → Bool
  | .ok (some signals) => signals.latencyP50Ms.lt .posInf
  | _ => true

/-- In the window of the first orders the file shows percentiles that are infinite. -/
theorem prepareWindow_ne_live :
    let run := [scrapeBeforeOrders, scrapeAfterOrders 10 4]
    let row := collectedRow (fun _ => "1970-01-01T00:00:00+00:00") "run_a" run
    prepareWindow .nearest floatOfTag (row scrapeBeforeOrders) (row (scrapeAfterOrders 10 4)) ≠
      windowSignals .nearest scrapeBeforeOrders.snapshot (scrapeAfterOrders 10 4).snapshot
        (.fin 10) := by
  intro run row same
  have p50 := congrArg medianFinite same
  revert p50
  decide +kernel

end Ml

end SentinelOps
