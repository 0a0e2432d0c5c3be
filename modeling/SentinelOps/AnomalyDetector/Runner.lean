import SentinelOps.AnomalyDetector.Events
import SentinelOps.Kafka.Producer

/-!
# The loop of the detector

`DetectorRunner` scrapes, scores and publishes. `cycle` is one `tick` of it, `iterate` one iteration
of `_run`, which survives whatever a tick raises, and `loop` a run of it. The loaded model is a state
with a scoring function that may raise; the clocks, the ids and the broker are part of a tick. An
instrument holds what was added to it or recorded with it, in order.
-/

namespace SentinelOps.AnomalyDetector

open PyFloat Ml Kafka

/-- What the loop hands to the model: the signals of a window and the times of its ends. -/
structure WindowRecord where
  signals : Signals PyFloat
  windowStart : String
  windowEnd : String

/-- `DetectorService.score_window`: the state after it, and the result or what it raises. -/
abbrev ScoreWindow (σ : Type) := σ → WindowRecord → σ × Except String AnomalyResult

/-- The settings that the loop reads. -/
structure Settings where
  targetMetricsUrl : String
  targetService : String
  environment : String
  publishOnlyAnomalies : Bool := true

/-- `DetectorState`. -/
structure DetectorState where
  startupTime : Instant
  inferenceCount : Nat := 0
  anomalyCount : Nat := 0
  lastInferenceLatencyMs : PyFloat := .fin 0
  avgInferenceLatencyMs : PyFloat := .fin 0
  minInferenceLatencyMs : PyFloat := .fin 0
  maxInferenceLatencyMs : PyFloat := .fin 0
  lastInferenceTime : Option Instant := none

/-- `_EMA_ALPHA`. -/
def emaAlpha (round : ℚ → PyFloat) : PyFloat := round (1 / 5)

/-- `min(a, b)`. -/
def least (a b : PyFloat) : PyFloat := if b.lt a then b else a

/-- `record_inference` of a `DetectorState`. -/
def DetectorState.recordInference (round : ℚ → PyFloat) (state : DetectorState)
    (latencySeconds : PyFloat) (isAnomaly : Bool) (now : Instant) : DetectorState :=
  let latencyMs := mulBy round latencySeconds (.fin 1000)
  let first := state.inferenceCount = 0
  let ema := addBy round (mulBy round (emaAlpha round) latencyMs)
    (mulBy round (subBy round (.fin 1) (emaAlpha round)) state.avgInferenceLatencyMs)
  { state with
    inferenceCount := state.inferenceCount + 1
    anomalyCount := state.anomalyCount + isAnomaly.toNat
    lastInferenceLatencyMs := latencyMs
    avgInferenceLatencyMs := if first then latencyMs else ema
    minInferenceLatencyMs := if first then latencyMs else least state.minInferenceLatencyMs latencyMs
    maxInferenceLatencyMs :=
      if first then latencyMs else PyFloat.max state.maxInferenceLatencyMs latencyMs
    lastInferenceTime := some now }

/-- The instruments of `DetectorMetrics` that the loop writes to: counters with what labels each
addition, histograms with what they recorded. -/
structure DetectorMetrics where
  scrapes : List String := []
  windowsScored : Nat := 0
  anomaliesPublished : Nat := 0
  publishFailures : Nat := 0
  scoreDuration : List PyFloat := []
  inferenceRequests : List String := []
  inferenceDuration : List (String × PyFloat) := []
  anomaliesDetected : List String := []
  anomalyScore : List (String × PyFloat) := []
  detectionLatency : List PyFloat := []
  windowAgeAtScrape : List PyFloat := []
  scrapeToPublish : List PyFloat := []
  endToEndDetectionLatency : List PyFloat := []
  serviceInferenceRequests : Nat := 0
  serviceAnomaliesDetected : Nat := 0
  serviceInferenceLatency : List PyFloat := []

/-- `record_inference` of the metrics. -/
def DetectorMetrics.recordInference (metrics : DetectorMetrics) (modelVersion : String)
    (latencySeconds : PyFloat) (isAnomaly : Bool) (score : PyFloat) : DetectorMetrics :=
  { metrics with
    inferenceRequests := metrics.inferenceRequests ++ [modelVersion]
    inferenceDuration := metrics.inferenceDuration ++ [(modelVersion, latencySeconds)]
    anomalyScore := metrics.anomalyScore ++ [(modelVersion, score)]
    anomaliesDetected := metrics.anomaliesDetected ++ if isAnomaly then [modelVersion] else [] }

/-- `record_service_inference`. -/
def DetectorMetrics.recordServiceInference (metrics : DetectorMetrics) (latencySeconds : PyFloat)
    (isAnomaly : Bool) : DetectorMetrics :=
  { metrics with
    serviceInferenceRequests := metrics.serviceInferenceRequests + 1
    serviceInferenceLatency := metrics.serviceInferenceLatency ++ [latencySeconds]
    serviceAnomaliesDetected := metrics.serviceAnomaliesDetected + isAnomaly.toNat }

/-- `record_detection_timeline`. -/
def recordDetectionTimeline (timeline : DetectionTimeline) (metrics : DetectorMetrics) :
    DetectorMetrics :=
  let latencies := calculateLatencies timeline
  { metrics with
    windowAgeAtScrape := metrics.windowAgeAtScrape ++ [latencies.windowAgeAtScrape]
    scrapeToPublish := metrics.scrapeToPublish ++ latencies.scrapeToPublish.toList
    endToEndDetectionLatency :=
      metrics.endToEndDetectionLatency ++ latencies.totalDetectionLatency.toList }

/-- A `DetectorRunner` with its source, the state of its model, its statistics and its instruments,
and the topic it publishes to. -/
structure Runner (σ : Type) where
  source : MetricsSource
  detector : σ
  state : DetectorState
  metrics : DetectorMetrics := {}
  scored : Nat := 0
  published : Nat := 0
  topic : List EventEnvelope := []

/-- What one tick meets: the scrape, what the clocks read on the way, the id and the trace of its
event, and what becomes of the message. -/
structure Tick where
  call : Call
  started : PyFloat
  inferenceStarted : PyFloat
  inferenceStartTs : PyFloat
  inferenceEnded : PyFloat
  inferenceEndTs : PyFloat
  scoredAt : PyFloat
  recordedAt : Instant
  sentAt : PyFloat
  eventId : String
  traceId : Option String
  delivery : Delivery
  publishedAt : PyFloat
  publishedWall : Instant

/-- What a tick raises, as `_run` tells it apart. -/
inductive TickError where
  | scrapeError (text : String)
  | unexpected (text : String)

section
variable {σ : Type} (round : ℚ → PyFloat) (cfg : Settings) (scoreWindow : ScoreWindow σ)

/-- The record of a window. -/
def record (window : SignalWindow) : WindowRecord :=
  ⟨window.signals, Py.isoformat window.windowStart, Py.isoformat window.windowEnd⟩

/-- How long the model took. -/
def Tick.inferenceLatency (t : Tick) : PyFloat := t.inferenceEnded.sub t.inferenceStarted

/-- The timeline of a scored window before it is published. -/
def timeline (t : Tick) (window : SignalWindow) (result : AnomalyResult) : DetectionTimeline :=
  { scrapeTime := totalSeconds window.scrapeTime
    windowCloseTime := totalSeconds window.windowEnd
    inferenceStartTime := t.inferenceStartTs
    inferenceEndTime := t.inferenceEndTs
    service := cfg.targetService
    isAnomaly := result.isAnomaly }

/-- The event of a scored window, with the time it is sent at if it is an anomaly. -/
def outbound (t : Tick) (window : SignalWindow) (result : AnomalyResult) : EventEnvelope :=
  anomalyEvent t.eventId t.traceId window result cfg.targetService cfg.environment
    (if result.isAnomaly then { timeline cfg t window result with publishTime := some t.sentAt }
      else timeline cfg t window result)

/-- `_publish`, and whether it returns true. -/
def publish (r : Runner σ) (t : Tick) (window : SignalWindow) (result : AnomalyResult) :
    Runner σ × Bool :=
  let sent := if t.delivery.written then [outbound cfg t window result] else []
  let r := { r with topic := r.topic ++ sent }
  if t.delivery.returns then
    ({ r with
        published := r.published + 1
        metrics := { r.metrics with anomaliesPublished := r.metrics.anomaliesPublished + 1 } }, true)
  else
    ({ r with
        metrics := { r.metrics with publishFailures := r.metrics.publishFailures + 1 } }, false)

/-- A window is published when it is an anomaly, or every window is. -/
def isPublished (result : AnomalyResult) : Bool := result.isAnomaly || !cfg.publishOnlyAnomalies

/-- What a tick records of a result. -/
def account (r : Runner σ) (t : Tick) (result : AnomalyResult) : Runner σ :=
  let metrics :=
    { r.metrics with
      windowsScored := r.metrics.windowsScored + 1
      scoreDuration := r.metrics.scoreDuration ++ [t.scoredAt.sub t.started] }
  { r with
    scored := r.scored + 1
    metrics := (metrics.recordInference result.modelVersion t.inferenceLatency result.isAnomaly
      result.score).recordServiceInference t.inferenceLatency result.isAnomaly
    state := r.state.recordInference round t.inferenceLatency result.isAnomaly t.recordedAt }

/-- The latencies of a tick whose message was published, or was not. -/
def measure (r : Runner σ) (t : Tick) (window : SignalWindow) (result : AnomalyResult)
    (published : Bool) : Runner σ :=
  let line := timeline cfg t window result
  if published && result.isAnomaly then
    { r with
      metrics := recordDetectionTimeline { line with publishTime := some t.publishedAt }
        { r.metrics with
          detectionLatency := r.metrics.detectionLatency ++
            [totalSeconds (t.publishedWall - window.windowEnd)] } }
  else { r with metrics := recordDetectionTimeline line r.metrics }

/-- A tick after the model has returned. -/
def report (r : Runner σ) (t : Tick) (window : SignalWindow) (result : AnomalyResult) : Runner σ :=
  let r := account round r t result
  if isPublished cfg result then
    let (r, published) := publish cfg r t window result
    measure cfg r t window result published
  else measure cfg r t window result false

/-- `tick`. -/
def cycle (r : Runner σ) (t : Tick) : Runner σ × Except TickError Unit :=
  let (source, next) := nextWindow r.source t.call
  match next with
  | .error text =>
    ({ r with source },
      .error (match scrape r.source.url t.call.response with
        | .error _ => .scrapeError text
        | .ok _ => .unexpected text))
  | .ok window? =>
    let r := { r with
      source := source
      metrics := { r.metrics with scrapes := r.metrics.scrapes ++ ["ok"] } }
    match window? with
    | none => (r, .ok ())
    | some window =>
      let (detector, scored) := scoreWindow r.detector (record window)
      let r := { r with detector }
      match scored with
      | .error text => (r, .error (.unexpected text))
      | .ok result => (report round cfg r t window result, .ok ())

/-- An iteration of `_run`. -/
def iterate (r : Runner σ) (t : Tick) : Runner σ :=
  match cycle round cfg scoreWindow r t with
  | (r, .ok ()) => r
  | (r, .error (.scrapeError _)) =>
    { r with metrics := { r.metrics with scrapes := r.metrics.scrapes ++ ["error"] } }
  | (r, .error (.unexpected _)) => r

/-- A run of the loop. -/
def loop (r : Runner σ) (ticks : List Tick) : Runner σ :=
  ticks.foldl (iterate round cfg scoreWindow) r

/-- The runner at startup. -/
def startup (detector : σ) (now : Instant) : Runner σ where
  source := { url := cfg.targetMetricsUrl }
  detector := detector
  state := { startupTime := now }

/-- A window with the tick that it was scored in and its result. -/
structure Scored where
  tick : Tick
  window : SignalWindow
  result : AnomalyResult

/-- The windows that the scrapes close, each with its tick. -/
def closed (source : MetricsSource) : List Tick → List (Tick × SignalWindow)
  | [] => []
  | t :: ticks =>
    ((returned (nextWindow source t.call).2).map (t, ·)).toList ++
      closed (nextWindow source t.call).1 ticks

/-- What the model makes of one window after the other. -/
def verdicts (detector : σ) : List (Tick × SignalWindow) → List Scored
  | [] => []
  | (t, window) :: rest =>
    ((scoreWindow detector (record window)).2.toOption.map (⟨t, window, ·⟩)).toList ++
      verdicts (scoreWindow detector (record window)).1 rest

/-- The windows that a runner scores. -/
def history (r : Runner σ) (ticks : List Tick) : List Scored :=
  verdicts scoreWindow r.detector (closed r.source ticks)

/-- The message of a scored window. -/
def Scored.message (cfg : Settings) (s : Scored) : Option EventEnvelope :=
  if isPublished cfg s.result && s.tick.delivery.written then
    some (outbound cfg s.tick s.window s.result)
  else none

/-- The event of a scored window is confirmed by the broker. -/
def Scored.confirmed (cfg : Settings) (s : Scored) : Bool :=
  isPublished cfg s.result && s.tick.delivery.returns

/-- The event of a scored window is not confirmed. -/
def Scored.failed (cfg : Settings) (s : Scored) : Bool :=
  isPublished cfg s.result && !s.tick.delivery.returns

end

section
variable {σ : Type} {round : ℚ → PyFloat} {cfg : Settings} {scoreWindow : ScoreWindow σ}
  {r : Runner σ} {t : Tick} {ticks : List Tick}

/-- What a tick adds after the model has returned. -/
lemma report_eq {window result} (s : Scored) (eq : s = ⟨t, window, result⟩) :
    report round cfg r t window result =
    { r with
      scored := r.scored + 1
      published := r.published + (s.confirmed cfg).toNat
      state := r.state.recordInference round t.inferenceLatency result.isAnomaly t.recordedAt
      topic := r.topic ++ (s.message cfg).toList
      metrics :=
        { r.metrics with
          windowsScored := r.metrics.windowsScored + 1
          anomaliesPublished := r.metrics.anomaliesPublished + (s.confirmed cfg).toNat
          publishFailures := r.metrics.publishFailures + (s.failed cfg).toNat
          scoreDuration := r.metrics.scoreDuration ++ [t.scoredAt.sub t.started]
          inferenceRequests := r.metrics.inferenceRequests ++ [result.modelVersion]
          inferenceDuration :=
            r.metrics.inferenceDuration ++ [(result.modelVersion, t.inferenceLatency)]
          anomaliesDetected :=
            r.metrics.anomaliesDetected ++ if result.isAnomaly then [result.modelVersion] else []
          anomalyScore := r.metrics.anomalyScore ++ [(result.modelVersion, result.score)]
          detectionLatency := r.metrics.detectionLatency ++
            if s.confirmed cfg && result.isAnomaly then
              [totalSeconds (t.publishedWall - window.windowEnd)]
            else []
          windowAgeAtScrape := r.metrics.windowAgeAtScrape ++
            [(totalSeconds window.scrapeTime).sub (totalSeconds window.windowEnd)]
          scrapeToPublish := r.metrics.scrapeToPublish ++
            if s.confirmed cfg && result.isAnomaly then
              [t.publishedAt.sub (totalSeconds window.scrapeTime)]
            else []
          endToEndDetectionLatency := r.metrics.endToEndDetectionLatency ++
            if s.confirmed cfg && result.isAnomaly then
              [t.publishedAt.sub (totalSeconds window.windowEnd)]
            else []
          serviceInferenceRequests := r.metrics.serviceInferenceRequests + 1
          serviceAnomaliesDetected := r.metrics.serviceAnomaliesDetected + result.isAnomaly.toNat
          serviceInferenceLatency :=
            r.metrics.serviceInferenceLatency ++ [t.inferenceLatency] } } := by
  subst eq
  unfold report measure publish Scored.confirmed Scored.failed Scored.message account
  cases isPublished cfg result <;> cases t.delivery <;> cases anomaly : result.isAnomaly <;>
    simp [Delivery.returns, Delivery.written, recordDetectionTimeline, calculateLatencies, timeline, anomaly,
      DetectorMetrics.recordInference, DetectorMetrics.recordServiceInference]

lemma report_source {window result} :
    (report round cfg r t window result).source = r.source ∧
      (report round cfg r t window result).detector = r.detector := by
  rw [report_eq _ rfl]
  exact ⟨rfl, rfl⟩

/-- A computation goes through when each of its parts does. -/
lemma exists_bind {ε α β : Type} {x : Except ε α} {f : α → Except ε β}
    (first : ∃ a, x = .ok a) (rest : ∀ a, ∃ b, f a = .ok b) : ∃ b, x >>= f = .ok b := by
  obtain ⟨a, rfl⟩ := first
  exact rest a

/-- A denominator that is replaced unless it is positive is not zero. -/
lemma denominator_ne_zero {a : PyFloat} :
    (if (PyFloat.fin 0).lt a then a else .fin 1) ≠ .fin 0 := by
  split
  · rintro rfl
    rename_i positive
    rw [lt_self] at positive
    cases positive
  · simp

/-- A computation goes on after a quotient that is only taken of a positive count. -/
lemma exists_mean {round} {sum count divisor : PyFloat} {β : Type} {f : PyFloat → Except String β}
    (nonzero : (PyFloat.fin 0).lt count = true → divisor ≠ .fin 0)
    (rest : ∀ mean, ∃ b, f mean = .ok b) :
    ∃ b, (if (PyFloat.fin 0).lt count then do f (← divBy round sum divisor)
      else do f (← .ok (.fin 0))) = .ok b := by
  split
  · exact exists_bind (exists_divBy (nonzero ‹_›)) rest
  · exact rest _

/-- The signals of a window are defined, or the window is invalid. -/
lemma windowSignals_total {round} {prev cur : MetricSnapshot} {dt : PyFloat} :
    ∃ signals, windowSignals round prev cur dt = .ok signals := by
  unfold windowSignals
  split
  · exact ⟨none, rfl⟩
  · rename_i valid
    have elapsed : dt ≠ .fin 0 := by
      rintro rfl
      exact valid (by simp [invalidWindow])
    refine exists_bind (exists_divBy elapsed) fun _ => ?_
    refine exists_bind (exists_divBy denominator_ne_zero) fun _ => ?_
    refine exists_bind (exists_divBy denominator_ne_zero) fun _ => ?_
    refine exists_mean (fun _ => denominator_ne_zero) fun _ => ?_
    refine exists_bind safeQ_total fun _ => ?_
    refine exists_bind safeQ_total fun _ => ?_
    refine exists_bind safeQ_total fun _ => ?_
    refine exists_bind (exists_divBy elapsed) fun _ => ?_
    refine exists_bind (exists_divBy denominator_ne_zero) fun _ => ?_
    refine exists_mean (fun positive => ?_) fun _ => ?_
    · rintro zero
      rw [zero, lt_self] at positive
      cases positive
    · exact exists_bind (exists_divBy elapsed) fun _ => ⟨_, rfl⟩

/-- How a scrape ends, as the loop counts it. -/
def outcome (source : MetricsSource) (t : Tick) : String :=
  match scrape source.url t.call.response with
  | .error _ => "error"
  | .ok _ => "ok"

/-- A call of the source raises only when its scrape does. -/
lemma scrape_of_nextWindow {source text} (h : (nextWindow source t.call).2 = .error text) :
    scrape source.url t.call.response = .error text := by
  cases scraped : scrape source.url t.call.response with
  | error e =>
    rw [nextWindow_of_error scraped] at h
    cases h
    rfl
  | ok snapshot =>
    unfold nextWindow at h
    rw [scraped] at h
    dsimp only at h
    split at h
    · rename_i prev prevAt prevWall _ _ _
      obtain ⟨signals, defined⟩ :=
        @windowSignals_total .fin prev snapshot (.fin (t.call.now - prevAt))
      rw [defined] at h
      cases signals <;> cases h
    · cases h

/-- A call of the source that returns has scraped. -/
lemma scrape_of_ok {source window?} (h : (nextWindow source t.call).2 = .ok window?) :
    outcome source t = "ok" := by
  unfold outcome
  cases scraped : scrape source.url t.call.response with
  | error e =>
    rw [nextWindow_of_error scraped] at h
    cases h
  | ok snapshot => rfl

/-- What an iteration does: it scores no window, or it reports one. -/
inductive Iterated (round : ℚ → PyFloat) (cfg : Settings) (scoreWindow : ScoreWindow σ)
    (r : Runner σ) (t : Tick) : Runner σ → List Scored → Prop where
  | idle {detector} :
    Iterated round cfg scoreWindow r t
      { r with
        source := (nextWindow r.source t.call).1
        detector
        metrics := { r.metrics with scrapes := r.metrics.scrapes ++ [outcome r.source t] } } []
  | scored {window detector result} :
    returned (nextWindow r.source t.call).2 = some window →
    scoreWindow r.detector (record window) = (detector, .ok result) →
    Iterated round cfg scoreWindow r t
      (report round cfg { r with
        source := (nextWindow r.source t.call).1
        detector
        metrics := { r.metrics with scrapes := r.metrics.scrapes ++ [outcome r.source t] } }
        t window result)
      [⟨t, window, result⟩]

/-- An iteration and the history that it starts. -/
lemma iterated : ∃ new, Iterated round cfg scoreWindow r t (iterate round cfg scoreWindow r t) new ∧
    history scoreWindow r (t :: ticks) =
      new ++ history scoreWindow (iterate round cfg scoreWindow r t) ticks := by
  unfold history
  rw [closed]
  unfold iterate cycle
  have idle (detector : σ) := @Iterated.idle σ round cfg scoreWindow r t detector
  have scored (window detector result) :=
    @Iterated.scored σ round cfg scoreWindow r t window detector result
  rcases call : nextWindow r.source t.call with ⟨source, result⟩
  rw [call] at idle scored
  cases result with
  | error text =>
    have failed : scrape r.source.url t.call.response = .error text :=
      scrape_of_nextWindow (by rw [call])
    have here : outcome r.source t = "error" := by unfold outcome; rw [failed]
    rw [here] at idle
    dsimp only
    rw [failed]
    exact ⟨[], idle r.detector, rfl⟩
  | ok window? =>
    have here : outcome r.source t = "ok" := scrape_of_ok (by rw [call])
    rw [here] at idle scored
    cases window? with
    | none => exact ⟨[], idle r.detector, rfl⟩
    | some window =>
      dsimp only [returned]
      rw [Option.map_some, Option.toList_some, List.singleton_append, verdicts]
      rcases scores : scoreWindow r.detector (record window) with ⟨detector, result⟩
      cases result with
      | error text => exact ⟨[], idle detector, rfl⟩
      | ok result =>
        refine ⟨[⟨t, window, result⟩], scored window detector result rfl scores, ?_⟩
        dsimp only
        rw [report_source.1, report_source.2]
        rfl

end

end SentinelOps.AnomalyDetector
