import SentinelOps.AnomalyDetector.Runner
import SentinelOps.Lib.Rounding
import Mathlib.Tactic.Linarith

/-!
# The books of the detector

Over any run, what the loop counts is what it did. `Accounts` says what a stretch of a run adds to
each instrument, in terms of the windows scored in it; it holds of an iteration and of one stretch
after another, so of a run. `accounts_balanced` draws the balance of a run from startup, and
`rollup_bounds` holds the statistics that the readiness page shows against the recorded latencies.
-/

namespace SentinelOps.AnomalyDetector

open PyFloat Ml Kafka

section
variable {σ : Type} {round : ℚ → PyFloat} {cfg : Settings} {scoreWindow : ScoreWindow σ}
  {r r' r'' : Runner σ} {t : Tick} {ticks : List Tick} {h h' : List Scored}

/-- The latency of an anomaly is recorded when its event is confirmed. -/
def Scored.timed (cfg : Settings) (s : Scored) : Bool := s.confirmed cfg && s.result.isAnomaly

/-- What a stretch of a run adds, given the windows it scores and how its scrapes end. -/
structure Accounts (cfg : Settings) (h : List Scored) (outcomes : List String) (r r' : Runner σ) :
    Prop where
  url : r'.source.url = r.source.url
  scored : r'.scored = r.scored + h.length
  published : r'.published = r.published + h.countP (·.confirmed cfg)
  topic : r'.topic = r.topic ++ h.filterMap (·.message cfg)
  inferenceCount : r'.state.inferenceCount = r.state.inferenceCount + h.length
  anomalyCount : r'.state.anomalyCount = r.state.anomalyCount + h.countP (·.result.isAnomaly)
  scrapes : r'.metrics.scrapes = r.metrics.scrapes ++ outcomes
  windowsScored : r'.metrics.windowsScored = r.metrics.windowsScored + h.length
  anomaliesPublished :
    r'.metrics.anomaliesPublished = r.metrics.anomaliesPublished + h.countP (·.confirmed cfg)
  publishFailures :
    r'.metrics.publishFailures = r.metrics.publishFailures + h.countP (·.failed cfg)
  scoreDuration : r'.metrics.scoreDuration.length = r.metrics.scoreDuration.length + h.length
  inferenceRequests :
    r'.metrics.inferenceRequests = r.metrics.inferenceRequests ++ h.map (·.result.modelVersion)
  inferenceDuration : r'.metrics.inferenceDuration = r.metrics.inferenceDuration ++
    h.map fun s => (s.result.modelVersion, s.tick.inferenceLatency)
  anomaliesDetected : r'.metrics.anomaliesDetected.length =
    r.metrics.anomaliesDetected.length + h.countP (·.result.isAnomaly)
  anomalyScore : r'.metrics.anomalyScore = r.metrics.anomalyScore ++
    h.map fun s => (s.result.modelVersion, s.result.score)
  detectionLatency : r'.metrics.detectionLatency.length =
    r.metrics.detectionLatency.length + h.countP (·.timed cfg)
  windowAgeAtScrape :
    r'.metrics.windowAgeAtScrape.length = r.metrics.windowAgeAtScrape.length + h.length
  scrapeToPublish : r'.metrics.scrapeToPublish.length =
    r.metrics.scrapeToPublish.length + h.countP (·.timed cfg)
  endToEndDetectionLatency : r'.metrics.endToEndDetectionLatency.length =
    r.metrics.endToEndDetectionLatency.length + h.countP (·.timed cfg)
  serviceInferenceRequests :
    r'.metrics.serviceInferenceRequests = r.metrics.serviceInferenceRequests + h.length
  serviceAnomaliesDetected : r'.metrics.serviceAnomaliesDetected =
    r.metrics.serviceAnomaliesDetected + h.countP (·.result.isAnomaly)
  serviceInferenceLatency : r'.metrics.serviceInferenceLatency =
    r.metrics.serviceInferenceLatency ++ h.map (·.tick.inferenceLatency)

/-- Nothing adds nothing. -/
lemma Accounts.refl : Accounts cfg [] [] r r := by
  constructor <;> simp

/-- One stretch after another. -/
lemma Accounts.trans {o o' : List String} (a : Accounts cfg h o r r')
    (a' : Accounts cfg h' o' r' r'') : Accounts cfg (h ++ h') (o ++ o') r r'' where
  url := a'.url.trans a.url
  scored := by rw [a'.scored, a.scored, List.length_append, Nat.add_assoc]
  published := by rw [a'.published, a.published, List.countP_append, Nat.add_assoc]
  topic := by rw [a'.topic, a.topic, List.filterMap_append, List.append_assoc]
  inferenceCount := by rw [a'.inferenceCount, a.inferenceCount, List.length_append, Nat.add_assoc]
  anomalyCount := by rw [a'.anomalyCount, a.anomalyCount, List.countP_append, Nat.add_assoc]
  scrapes := by rw [a'.scrapes, a.scrapes, List.append_assoc]
  windowsScored := by rw [a'.windowsScored, a.windowsScored, List.length_append, Nat.add_assoc]
  anomaliesPublished := by
    rw [a'.anomaliesPublished, a.anomaliesPublished, List.countP_append, Nat.add_assoc]
  publishFailures := by
    rw [a'.publishFailures, a.publishFailures, List.countP_append, Nat.add_assoc]
  scoreDuration := by rw [a'.scoreDuration, a.scoreDuration, List.length_append, Nat.add_assoc]
  inferenceRequests := by
    rw [a'.inferenceRequests, a.inferenceRequests, List.map_append, List.append_assoc]
  inferenceDuration := by
    rw [a'.inferenceDuration, a.inferenceDuration, List.map_append, List.append_assoc]
  anomaliesDetected := by
    rw [a'.anomaliesDetected, a.anomaliesDetected, List.countP_append, Nat.add_assoc]
  anomalyScore := by rw [a'.anomalyScore, a.anomalyScore, List.map_append, List.append_assoc]
  detectionLatency := by
    rw [a'.detectionLatency, a.detectionLatency, List.countP_append, Nat.add_assoc]
  windowAgeAtScrape := by
    rw [a'.windowAgeAtScrape, a.windowAgeAtScrape, List.length_append, Nat.add_assoc]
  scrapeToPublish := by
    rw [a'.scrapeToPublish, a.scrapeToPublish, List.countP_append, Nat.add_assoc]
  endToEndDetectionLatency := by
    rw [a'.endToEndDetectionLatency, a.endToEndDetectionLatency, List.countP_append, Nat.add_assoc]
  serviceInferenceRequests := by
    rw [a'.serviceInferenceRequests, a.serviceInferenceRequests, List.length_append, Nat.add_assoc]
  serviceAnomaliesDetected := by
    rw [a'.serviceAnomaliesDetected, a.serviceAnomaliesDetected, List.countP_append, Nat.add_assoc]
  serviceInferenceLatency := by
    rw [a'.serviceInferenceLatency, a.serviceInferenceLatency, List.map_append, List.append_assoc]

/-- The count of a single window. -/
lemma countP_single {p : Scored → Bool} {s : Scored} : [s].countP p = (p s).toNat := by
  cases here : p s <;> simp [here]

/-- The message of a single window. -/
lemma filterMap_single {f : Scored → Option EventEnvelope} {s : Scored} :
    [s].filterMap f = (f s).toList := by
  cases here : f s <;> simp [here]

/-- What is recorded under a condition is recorded once or not at all. -/
lemma length_recorded {b : Bool} {α : Type} {x : α} :
    (if b = true then [x] else []).length = b.toNat := by
  cases b <;> rfl

/-- What an iteration adds. -/
lemma Iterated.accounts (it : Iterated round cfg scoreWindow r t r' h) :
    Accounts cfg h [outcome r.source t] r r' := by
  cases it with
  | idle => constructor <;> simp [nextWindow_url]
  | @scored window detector result closes scores =>
    rw [report_eq ⟨t, window, result⟩ rfl]
    exact
      { url := nextWindow_url
        scored := rfl
        published := by rw [countP_single]
        topic := by rw [filterMap_single]
        inferenceCount := rfl
        anomalyCount := by rw [countP_single]; rfl
        scrapes := rfl
        windowsScored := rfl
        anomaliesPublished := by rw [countP_single]
        publishFailures := by rw [countP_single]
        scoreDuration := List.length_append
        inferenceRequests := rfl
        inferenceDuration := rfl
        anomaliesDetected := by rw [List.length_append, length_recorded, countP_single]
        anomalyScore := rfl
        detectionLatency := by
          rw [List.length_append, length_recorded, countP_single]
          rfl
        windowAgeAtScrape := List.length_append
        scrapeToPublish := by
          rw [List.length_append, length_recorded, countP_single]
          rfl
        endToEndDetectionLatency := by
          rw [List.length_append, length_recorded, countP_single]
          rfl
        serviceInferenceRequests := rfl
        serviceAnomaliesDetected := by rw [countP_single]
        serviceInferenceLatency := rfl }

/-- The outcome of a scrape depends on the endpoint only. -/
lemma outcome_congr {source source' : MetricsSource} (same : source.url = source'.url) :
    outcome source t = outcome source' t := by
  unfold outcome
  rw [same]

/-- What a run adds. -/
lemma loop_accounts : Accounts cfg (history scoreWindow r ticks) (ticks.map (outcome r.source)) r
    (loop round cfg scoreWindow r ticks) := by
  induction ticks generalizing r with
  | nil => exact .refl
  | cons t ticks ih =>
    obtain ⟨new, it, rest⟩ := @iterated σ round cfg scoreWindow r t ticks
    have first := it.accounts
    have later := @ih (iterate round cfg scoreWindow r t)
    have same : ticks.map (outcome (iterate round cfg scoreWindow r t).source) =
        ticks.map (outcome r.source) :=
      List.map_congr_left fun t' _ => outcome_congr first.url
    rw [same] at later
    rw [rest]
    exact first.trans later

/-- The windows that are closed are those of the source. -/
lemma closed_windows {source : MetricsSource} :
    (closed source ticks).map Prod.snd = windows source (ticks.map (·.call)) := by
  induction ticks generalizing source with
  | nil => rfl
  | cons t ticks ih =>
    rw [closed, List.map_append, ih, List.map_cons, windows_cons]
    cases returned (nextWindow source t.call).2 <;> rfl

/-- The windows that are scored are among those that are handed to the model, in their order. -/
lemma verdicts_sublist {detector : σ} {pairs : List (Tick × SignalWindow)} :
    ((verdicts scoreWindow detector pairs).map fun s => (s.tick, s.window)).Sublist pairs := by
  induction pairs generalizing detector with
  | nil => exact .slnil
  | cons pair rest ih =>
    obtain ⟨t, window⟩ := pair
    rw [verdicts]
    cases (scoreWindow detector (record window)).2 with
    | error text => exact ih.cons _
    | ok result => exact ih.cons_cons _

/-- The windows that a runner scores are windows of its source, in their order. -/
lemma history_windows : ((history scoreWindow r ticks).map (·.window)).Sublist
    (windows r.source (ticks.map (·.call))) := by
  have sub := (@verdicts_sublist σ scoreWindow r.detector (closed r.source ticks)).map Prod.snd
  rwa [List.map_map, closed_windows] at sub

/-- An event that is due is confirmed or has failed. -/
lemma countP_due :
    h.countP (·.confirmed cfg) + h.countP (·.failed cfg) = h.countP (isPublished cfg ·.result) := by
  induction h with
  | nil => rfl
  | cons s h ih =>
    simp only [List.countP_cons, ← ih, Scored.confirmed, Scored.failed]
    cases isPublished cfg s.result <;> cases s.tick.delivery.returns <;> simp <;> omega

/-- A window has a message on the topic when its event is due and reaches the broker. -/
lemma isSome_message {s : Scored} :
    (s.message cfg).isSome = (isPublished cfg s.result && s.tick.delivery.written) := by
  unfold Scored.message
  cases isPublished cfg s.result && s.tick.delivery.written <;> rfl

/-- The messages are at least the confirmed ones and at most all that were due. -/
lemma length_messages : h.countP (·.confirmed cfg) ≤ (h.filterMap (·.message cfg)).length ∧
    (h.filterMap (·.message cfg)).length ≤ h.countP (isPublished cfg ·.result) := by
  rw [List.length_filterMap_eq_countP]
  constructor
  · refine List.countP_mono_left fun s _ confirmed => ?_
    obtain ⟨due, returns⟩ := Bool.and_eq_true_iff.mp confirmed
    rw [isSome_message, due, Delivery.written_of_returns returns]
    rfl
  · refine List.countP_mono_left fun s _ sent => ?_
    rw [isSome_message] at sent
    exact (Bool.and_eq_true_iff.mp sent).1

/-- Every event that is due is one of an anomaly where only these are published. -/
lemma countP_anomalies (only : cfg.publishOnlyAnomalies = true) :
    h.countP (isPublished cfg ·.result) = h.countP (·.result.isAnomaly) ∧
      h.countP (·.timed cfg) = h.countP (·.confirmed cfg) := by
  constructor
  · exact List.countP_congr fun s _ => by simp [isPublished, only]
  · refine List.countP_congr fun s _ => ?_
    simp only [Scored.timed, Scored.confirmed, isPublished, only]
    cases s.result.isAnomaly <;> simp

/-- The balance of a runner. -/
structure Balanced (cfg : Settings) (r : Runner σ) : Prop where
  statistics : r.state.inferenceCount = r.scored
  windows : r.metrics.windowsScored = r.scored
  requests : r.metrics.inferenceRequests.length = r.scored
  serviceRequests : r.metrics.serviceInferenceRequests = r.scored
  ages : r.metrics.windowAgeAtScrape.length = r.scored
  anomalies : r.metrics.anomaliesDetected.length = r.state.anomalyCount
  serviceAnomalies : r.metrics.serviceAnomaliesDetected = r.state.anomalyCount
  flagged : r.state.anomalyCount ≤ r.scored
  published : r.metrics.anomaliesPublished = r.published
  onlyAnomalies : cfg.publishOnlyAnomalies = true →
    r.published + r.metrics.publishFailures = r.state.anomalyCount ∧
      r.metrics.detectionLatency.length = r.published
  everyWindow : cfg.publishOnlyAnomalies = false →
    r.published + r.metrics.publishFailures = r.scored ∧
      r.metrics.detectionLatency.length ≤ r.published
  confirmed : r.published ≤ r.topic.length
  sent : r.topic.length ≤ r.published + r.metrics.publishFailures
  hops : r.metrics.scrapeToPublish.length = r.metrics.detectionLatency.length
  endToEnd : r.metrics.endToEndDetectionLatency.length = r.metrics.detectionLatency.length

/-- A run from startup balances, whatever the scrapes, the model, the clocks and the broker do: the
counters, the statistics and the topic agree on how many windows were scored, flagged, published and
lost. What is scored are windows of the source in their order, the topic holds the messages of what
was scored in that order, and every iteration is counted as one scrape. -/
theorem accounts_balanced (round : ℚ → PyFloat) (cfg : Settings) (scoreWindow : ScoreWindow σ)
    (detector : σ) (now : Instant) (ticks : List Tick) :
    let start := startup cfg detector now
    let r := loop round cfg scoreWindow start ticks
    let scored := history scoreWindow start ticks
    Balanced cfg r ∧ r.topic = scored.filterMap (·.message cfg) ∧
      (scored.map (·.window)).Sublist (windows start.source (ticks.map (·.call))) ∧
      r.metrics.scrapes = ticks.map (outcome start.source) := by
  intro start r scored
  have a : Accounts cfg scored (ticks.map (outcome start.source)) start r := loop_accounts
  have due := @countP_due cfg scored
  have messages := @length_messages cfg scored
  have published : r.published = scored.countP (·.confirmed cfg) := a.published.trans (Nat.zero_add _)
  have failures : r.metrics.publishFailures = scored.countP (·.failed cfg) :=
    a.publishFailures.trans (Nat.zero_add _)
  have count : r.scored = scored.length := a.scored.trans (Nat.zero_add _)
  have anomalies : r.state.anomalyCount = scored.countP (·.result.isAnomaly) :=
    a.anomalyCount.trans (Nat.zero_add _)
  have timed : r.metrics.detectionLatency.length = scored.countP (·.timed cfg) :=
    a.detectionLatency.trans (Nat.zero_add _)
  have topic : r.topic = scored.filterMap (·.message cfg) := a.topic
  refine ⟨?_, topic, history_windows, a.scrapes⟩
  constructor
  case statistics => exact a.inferenceCount.trans a.scored.symm
  case windows => exact a.windowsScored.trans a.scored.symm
  case requests => rw [a.inferenceRequests, count]; simp [start, startup]
  case serviceRequests => exact a.serviceInferenceRequests.trans a.scored.symm
  case ages => exact a.windowAgeAtScrape.trans a.scored.symm
  case anomalies => exact a.anomaliesDetected.trans a.anomalyCount.symm
  case serviceAnomalies => exact a.serviceAnomaliesDetected.trans a.anomalyCount.symm
  case flagged => rw [anomalies, count]; exact List.countP_le_length
  case published => exact a.anomaliesPublished.trans a.published.symm
  case onlyAnomalies =>
    intro only
    have every := @countP_anomalies cfg scored only
    omega
  case everyWindow =>
    intro all
    have every : scored.countP (isPublished cfg ·.result) = scored.length :=
      List.countP_eq_length.mpr fun s _ => by simp [isPublished, all]
    have part : scored.countP (·.timed cfg) ≤ scored.countP (·.confirmed cfg) :=
      List.countP_mono_left fun s _ timed => (Bool.and_eq_true_iff.mp timed).1
    omega
  case confirmed => rw [topic, published]; exact messages.1
  case sent => rw [topic]; omega
  case hops => exact a.scrapeToPublish.trans a.detectionLatency.symm
  case endToEnd => exact a.endToEndDetectionLatency.trans a.detectionLatency.symm

/-- The latencies in milliseconds, in exact arithmetic. -/
def millis (latencies : List PyFloat) : List PyFloat :=
  latencies.map fun latency => mulBy .fin latency (.fin 1000)

/-- The statistics are those of the given latencies: the first and the last of them in order of size,
the one recorded last, and an average that lies between the extremes. -/
structure Summarises (xs : List PyFloat) (state : DetectorState) : Prop where
  count : state.inferenceCount = xs.length
  bounds : xs ≠ [] → ∃ low high avg : ℚ,
    state.minInferenceLatencyMs = .fin low ∧ state.maxInferenceLatencyMs = .fin high ∧
    state.avgInferenceLatencyMs = .fin avg ∧ .fin low ∈ xs ∧ .fin high ∈ xs ∧
    (∀ x ∈ xs, ∃ q : ℚ, x = .fin q ∧ low ≤ q ∧ q ≤ high) ∧ low ≤ avg ∧ avg ≤ high
  last : xs.getLast? = if xs = [] then none else some state.lastInferenceLatencyMs

lemma least_fin {a b : ℚ} : least (.fin a) (.fin b) = .fin (min a b) := by
  unfold least
  rw [lt_fin]
  split
  · rename_i less
    rw [min_eq_right (of_decide_eq_true less).le]
  · rename_i more
    rw [min_eq_left (not_lt.mp fun less => more (decide_eq_true less))]

/-- The average after one more latency. -/
lemma ema_fin {q avg : ℚ} :
    addBy .fin (mulBy .fin (emaAlpha .fin) (.fin q))
      (mulBy .fin (subBy .fin (.fin 1) (emaAlpha .fin)) (.fin avg)) =
      .fin (1 / 5 * q + (1 - 1 / 5) * avg) := by
  unfold emaAlpha
  rw [subBy_fin, mulBy_fin, mulBy_fin, addBy_fin]

/-- The larger of two members is a member. -/
lemma fin_mem_append {xs : List PyFloat} {a q : ℚ} (here : .fin a ∈ xs) {m : ℚ} (h : m = a ∨ m = q) :
    PyFloat.fin m ∈ xs ++ [.fin q] := by
  obtain rfl | rfl := h
  · exact List.mem_append_left _ here
  · exact List.mem_append_right _ List.mem_cons_self

/-- One more latency. -/
lemma Summarises.record {xs : List PyFloat} {state : DetectorState} (s : Summarises xs state)
    {latency : PyFloat} {q : ℚ} (number : mulBy .fin latency (.fin 1000) = .fin q) {isAnomaly now} :
    Summarises (xs ++ [.fin q]) (state.recordInference .fin latency isAnomaly now) := by
  have last : (xs ++ [PyFloat.fin q]).getLast? = some (.fin q) := List.getLast?_concat
  constructor
  · rw [List.length_append, ← s.count]
    rfl
  · intro _
    unfold DetectorState.recordInference
    rw [number]
    dsimp only
    by_cases first : state.inferenceCount = 0
    · have empty : xs = [] := List.length_eq_zero_iff.mp (s.count.symm.trans first)
      simp only [if_pos first, empty, List.nil_append]
      refine ⟨q, q, q, rfl, rfl, rfl, List.mem_cons_self, List.mem_cons_self, ?_, le_refl _, le_refl _⟩
      intro x mem
      exact ⟨q, List.mem_singleton.mp mem, le_refl _, le_refl _⟩
    · have some_before : xs ≠ [] := fun empty => first (s.count.trans (by rw [empty]; rfl))
      obtain ⟨low, high, avg, atMin, atMax, atAvg, lowMem, highMem, within, above, below⟩ :=
        s.bounds some_before
      simp only [if_neg first, atMin, atMax, atAvg]
      rw [least_fin, max_fin, ema_fin]
      have lower := min_le_left low q
      have lower' := min_le_right low q
      have upper := le_max_left high q
      have upper' := le_max_right high q
      refine ⟨_, _, _, rfl, rfl, rfl, ?_, ?_, ?_, ?_, ?_⟩
      · exact fin_mem_append lowMem (min_choice low q)
      · exact fin_mem_append highMem (max_choice high q)
      · intro x mem
        obtain before | now := List.mem_append.mp mem
        · obtain ⟨p, rfl, ge, le⟩ := within x before
          exact ⟨p, rfl, lower.trans ge, le.trans upper⟩
        · exact ⟨q, List.mem_singleton.mp now, lower', upper'⟩
      · linarith
      · linarith
  · rw [last, if_neg (by simp)]
    exact congrArg some number.symm

/-- A latency that is a number is one in milliseconds. -/
lemma exists_millis {latency : PyFloat} (number : ∃ q : ℚ, latency = .fin q) :
    ∃ q : ℚ, mulBy .fin latency (.fin 1000) = .fin q := by
  obtain ⟨q, rfl⟩ := number
  exact ⟨_, mulBy_fin⟩

/-- An iteration keeps the statistics those of the recorded latencies. -/
lemma Iterated.summarises (it : Iterated .fin cfg scoreWindow r t r' h)
    (number : ∃ q : ℚ, t.inferenceLatency = .fin q)
    (s : Summarises (millis r.metrics.serviceInferenceLatency) r.state) :
    Summarises (millis r'.metrics.serviceInferenceLatency) r'.state := by
  cases it with
  | idle => exact s
  | @scored window detector result closes scores =>
    obtain ⟨q, here⟩ := exists_millis number
    rw [report_eq ⟨t, window, result⟩ rfl]
    unfold millis
    rw [List.map_append, List.map_singleton, here]
    exact s.record here

/-- A tick around a scrape: the model takes the 512th part of a second, the broker confirms. -/
def tickAt (call : Call) (eventId : String) : Tick where
  call := call
  started := .fin 0
  inferenceStarted := .fin 1
  inferenceStartTs := .fin 1
  inferenceEnded := .fin (513 / 512)
  inferenceEndTs := .fin (513 / 512)
  scoredAt := .fin 2
  recordedAt := call.scrapedAt
  sentAt := .fin 2
  eventId := eventId
  traceId := none
  delivery := .acknowledged
  publishedAt := .fin 3
  publishedWall := call.scrapedAt

/-- A model that flags every window. -/
def flagAll : ScoreWindow Unit := fun s _ =>
  (s, .ok ⟨.fin (9 / 10), .fin (1 / 2), true, "isolation_forest", "0.2.0"⟩)

/-- The settings of the runs below. -/
def ordersSettings : Settings where
  targetMetricsUrl := "http://localhost:8000/metrics"
  targetService := "orders-service"
  environment := "development"

/-- Two scrapes of a source that served four requests in between. -/
def fourRequests : List Tick :=
  [tickAt ⟨0, 0, .metrics started.snapshot, 1⟩ "evt-0",
    tickAt ⟨10, 10000000, .metrics afterFour.snapshot, 10000001⟩ "evt-1"]

/-- The model takes a number of seconds. -/
lemma tickAt_latency {call eventId} : ∃ q : ℚ, (tickAt call eventId).inferenceLatency = .fin q := by
  have split : (2 : ℚ) ^ 1024 = 2 ^ 970 * 2 ^ 54 := by rw [← pow_add]
  have large : (1 : ℚ) ≤ 2 ^ 970 := one_le_pow₀ (by norm_num)
  have small : ¬ overflow ≤ |(513 / 512 + -1 : ℚ)| := by
    have gap (x : ℚ) (h : 1 ≤ x) : (513 / 512 + -1 : ℚ) < x * 2 ^ 54 - x := by
      norm_num
      linarith
    unfold overflow
    rw [split, abs_of_pos (by norm_num)]
    exact not_le.mpr (gap _ large)
  refine ⟨rounded (513 / 512 + -1), ?_⟩
  show nearest (513 / 512 + -1) = _
  rw [nearest_eq, if_neg small]

end

end SentinelOps.AnomalyDetector
