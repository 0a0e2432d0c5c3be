import SentinelOps.IncidentCorrelator.Processor
import SentinelOps.Kafka.Consumer

/-!
# From an event to an anomaly

`anomaly_signal_from_envelope`: what an `anomaly.detected` envelope has to be to become an
`AnomalySignal`. The validation of its payload against the contract is the one of the `pydantic`
package and the reading of a time the one of the standard library, so both come with the envelope.
-/

namespace SentinelOps.IncidentCorrelator

/-- `AnomalyDetectedV1`, as far as the correlator reads it. -/
structure AnomalyDetectedV1 where
  detector : String
  detectorVersion : String
  service : String
  environment : String
  windowStart : String
  windowEnd : String
  anomalyScore : PyFloat
  threshold : PyFloat
  isAnomaly : Bool
  signals : Dict String PyFloat
  abnormalSignals : List String := []

/-- `EventEnvelope`, with the payload as it was validated or the text of the validation error. -/
structure EventEnvelope where
  eventId : String
  eventType : String
  eventVersion : Int
  occurredAt : Timestamp
  traceId : Option String := none
  payload : Except String AnomalyDetectedV1

/-- `ANOMALY_DETECTED`. -/
def anomalyDetected : String := "anomaly.detected"

/-- `ANOMALY_DETECTED_VERSION`. -/
def anomalyDetectedVersion : Int := 1

/-- `_parse_ts`, over `datetime.fromisoformat`: a time without a zone is taken as UTC. -/
def parseTs (fromisoformat : String → Except String Timestamp) (value : String) :
    Except String Instant := do
  match ← fromisoformat value with
  | .aware t => return t
  | .naive t => return t

/-- `anomaly_signal_from_envelope`: the signal, or the text of the `AnomalyEventError`. -/
def anomalySignalFromEnvelope (fromisoformat : String → Except String Timestamp)
    (envelope : EventEnvelope) : Except String AnomalySignal :=
  if envelope.eventType ≠ anomalyDetected then
    .error s!"unexpected event_type {Py.repr envelope.eventType}"
  else if envelope.eventVersion ≠ anomalyDetectedVersion then
    .error (s!"unsupported {anomalyDetected} version {envelope.eventVersion}"
      ++ s!" (this service speaks v{anomalyDetectedVersion})")
  else
    match envelope.payload with
    | .error text => .error s!"payload does not match {anomalyDetected} v1: {text}"
    | .ok payload =>
      if payload.isAnomaly = false then
        .error "event is not flagged as an anomaly (is_anomaly=false)"
      else
        match parseTs fromisoformat payload.windowStart with
        | .error text => .error s!"bad field value: {text}"
        | .ok windowStart =>
          match parseTs fromisoformat payload.windowEnd with
          | .error text => .error s!"bad field value: {text}"
          | .ok windowEnd => .ok {
              eventId := envelope.eventId
              detector := payload.detector
              detectorVersion := payload.detectorVersion
              service := payload.service
              environment := payload.environment
              windowStart
              windowEnd
              anomalyScore := payload.anomalyScore
              threshold := payload.threshold
              signals := payload.signals
              abnormalSignals := payload.abnormalSignals
              traceId := envelope.traceId
              occurredAt := envelope.occurredAt }

/-- A signal has the id of its event, and the service and the environment of its payload. -/
lemma anomalySignalFromEnvelope_ok {fromisoformat envelope signal}
    (h : anomalySignalFromEnvelope fromisoformat envelope = .ok signal) :
    signal.eventId = envelope.eventId ∧ ∃ payload, envelope.payload = .ok payload ∧
      signal.service = payload.service ∧ signal.environment = payload.environment := by
  unfold anomalySignalFromEnvelope at h
  split at h
  · cases h
  · split at h
    · cases h
    · split at h
      · cases h
      · rename_i payload valid
        split at h
        · cases h
        · split at h
          · cases h
          · split at h
            · cases h
            · cases h
              exact ⟨rfl, payload, valid, rfl, rfl⟩

end SentinelOps.IncidentCorrelator
