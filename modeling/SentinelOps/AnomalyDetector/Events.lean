import SentinelOps.AnomalyDetector.MetricsSource

/-!
# Outbound events

A scored window becomes an `anomaly.detected` envelope: the window, the verdict of the model, the
signals outside their bands (`abnormalSignals`) and the latencies of the cycle so far
(`calculateLatencies`).
-/

namespace SentinelOps.AnomalyDetector

open PyFloat Ml

/-- `AnomalyResult`, as far as the loop reads it. -/
structure AnomalyResult where
  score : PyFloat
  threshold : PyFloat
  isAnomaly : Bool
  modelType : String
  modelVersion : String
  deriving DecidableEq

/-- `DetectionTimeline`. -/
structure DetectionTimeline where
  scrapeTime : PyFloat
  windowCloseTime : PyFloat
  inferenceStartTime : PyFloat
  inferenceEndTime : PyFloat
  service : String
  isAnomaly : Bool
  publishTime : Option PyFloat := none

/-- What `calculate_latencies` returns; the last three keys may be missing. -/
structure Latencies where
  windowAgeAtScrape : PyFloat
  inferenceDuration : PyFloat
  scrapeToPublish : Option PyFloat := none
  windowToPublish : Option PyFloat := none
  totalDetectionLatency : Option PyFloat := none

/-- `calculate_latencies`. -/
def calculateLatencies (timeline : DetectionTimeline) : Latencies :=
  let age := timeline.scrapeTime.sub timeline.windowCloseTime
  let duration := timeline.inferenceEndTime.sub timeline.inferenceStartTime
  match timeline.isAnomaly, timeline.publishTime with
  | true, some publishTime =>
    { windowAgeAtScrape := age
      inferenceDuration := duration
      scrapeToPublish := some (publishTime.sub timeline.scrapeTime)
      windowToPublish := some (publishTime.sub timeline.windowCloseTime)
      totalDetectionLatency := some (publishTime.sub timeline.windowCloseTime) }
  | _, _ => { windowAgeAtScrape := age, inferenceDuration := duration }

/-- `window.signals.items()`. -/
def items (signals : Signals PyFloat) : List (String × PyFloat) :=
  [("request_rate", signals.requestRate), ("error_rate", signals.errorRate),
    ("success_rate", signals.successRate), ("latency_mean_ms", signals.latencyMeanMs),
    ("latency_p50_ms", signals.latencyP50Ms), ("latency_p90_ms", signals.latencyP90Ms),
    ("latency_p95_ms", signals.latencyP95Ms), ("publish_rate", signals.publishRate),
    ("publish_error_rate", signals.publishErrorRate),
    ("publish_latency_mean_ms", signals.publishLatencyMeanMs),
    ("orders_created_rate", signals.ordersCreatedRate)]

/-- `_BANDS`. -/
def bands : List (String × PyFloat) :=
  [("error_rate", nearest (5 / 100)), ("latency_p95_ms", .fin 400), ("latency_mean_ms", .fin 250),
    ("publish_error_rate", nearest (5 / 100)), ("publish_latency_mean_ms", .fin 500)]

/-- `abnormal_signals`. -/
def abnormalSignals (signals : Signals PyFloat) : List String :=
  (bands.filter fun (name, limit) =>
    limit.le ((Dict.lookup name (items signals)).getD (.fin 0))).map Prod.fst

/-- `AnomalyDetectedV1`. -/
structure AnomalyDetectedV1 where
  detector : String
  detectorVersion : String
  service : String
  environment : String
  windowStart : String
  windowEnd : String
  anomalyScore : PyFloat
  threshold : PyFloat
  isAnomaly : Bool
  signals : List (String × PyFloat)
  abnormalSignals : List String
  detectionLatencyMs : Option PyFloat
  scrapeLatencyMs : Option PyFloat
  inferenceLatencyMs : Option PyFloat
  deriving DecidableEq

/-- `EventEnvelope`. -/
structure EventEnvelope where
  eventId : String
  eventType : String
  eventVersion : Int
  occurredAt : Instant
  source : String
  traceId : Option String
  payload : AnomalyDetectedV1
  deriving DecidableEq

/-- A latency in milliseconds, as it is published. -/
def milliseconds (latency : PyFloat) : PyFloat :=
  roundDigits 3 (mulBy nearest latency (.fin 1000))

/-- `anomaly_event`, which the loop always calls with a timeline. -/
def anomalyEvent (eventId : String) (traceId : Option String) (window : SignalWindow)
    (result : AnomalyResult) (service environment : String) (timeline : DetectionTimeline) :
    EventEnvelope :=
  let latencies := calculateLatencies timeline
  { eventId
    eventType := "anomaly.detected"
    eventVersion := 1
    occurredAt := window.windowEnd
    source := "anomaly-detector"
    traceId
    payload :=
      { detector := result.modelType
        detectorVersion := result.modelVersion
        service
        environment
        windowStart := Py.isoformat window.windowStart
        windowEnd := Py.isoformat window.windowEnd
        anomalyScore := result.score
        threshold := result.threshold
        isAnomaly := result.isAnomaly
        signals := (items window.signals).map fun (k, v) => (k, roundDigits 6 v)
        abnormalSignals := abnormalSignals window.signals
        detectionLatencyMs := latencies.totalDetectionLatency.map milliseconds
        scrapeLatencyMs := some (milliseconds latencies.windowAgeAtScrape)
        inferenceLatencyMs := some (milliseconds latencies.inferenceDuration) } }

end SentinelOps.AnomalyDetector
