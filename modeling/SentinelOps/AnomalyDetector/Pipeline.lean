import SentinelOps.AnomalyDetector.Accounts
import SentinelOps.IncidentCorrelator.Events

/-!
# From the detector to the correlator

What the loop of the detector writes to the topic is read by the correlator. A message travels as
JSON and is validated against the contract by the `pydantic` package, so `validate` is a parameter:
it returns the values that were sent or raises, and it returns where the required numbers are finite
(a NaN or an infinity is sent as `null`). `pipeline_signals`: the signals of the correlator are the
flagged windows that reached the broker, in the order of time.
-/

namespace SentinelOps.AnomalyDetector

open PyFloat Ml Kafka IncidentCorrelator

/-- The fields of a payload that the correlator reads. -/
def AnomalyDetectedV1.received (payload : AnomalyDetectedV1) :
    IncidentCorrelator.AnomalyDetectedV1 where
  detector := payload.detector
  detectorVersion := payload.detectorVersion
  service := payload.service
  environment := payload.environment
  windowStart := payload.windowStart
  windowEnd := payload.windowEnd
  anomalyScore := payload.anomalyScore
  threshold := payload.threshold
  isAnomaly := payload.isAnomaly
  signals := .ofList payload.signals
  abnormalSignals := payload.abnormalSignals

/-- A float that JSON has a number for. -/
def finite : PyFloat → Bool
  | .fin _ => true
  | _ => false

/-- The numbers that the contract requires are numbers. -/
def AnomalyDetectedV1.isNumeric (payload : AnomalyDetectedV1) : Bool :=
  finite payload.anomalyScore && finite payload.threshold &&
    payload.signals.all fun e => finite e.2

/-- `AnomalyDetectedV1.model_validate` of a payload that was sent as JSON. -/
structure Validation where
  validate : AnomalyDetectedV1 → Except String IncidentCorrelator.AnomalyDetectedV1
  faithful : ∀ p q, validate p = .ok q → q = p.received
  numeric : ∀ p, p.isNumeric = true → ∃ q, validate p = .ok q

/-- The envelope as the correlator sees it. -/
def EventEnvelope.received (v : Validation) (e : EventEnvelope) :
    IncidentCorrelator.EventEnvelope where
  eventId := e.eventId
  eventType := e.eventType
  eventVersion := e.eventVersion
  occurredAt := .aware e.occurredAt
  traceId := e.traceId
  payload := v.validate e.payload

/-- What the correlator makes of a message. -/
def understood (v : Validation) (fromisoformat : String → Except String Timestamp)
    (e : EventEnvelope) : Except String AnomalySignal :=
  anomalySignalFromEnvelope fromisoformat (e.received v)

/-- The signal of a scored window. -/
def Scored.signal (cfg : Settings) (s : Scored) : AnomalySignal :=
  let payload := (outbound cfg s.tick s.window s.result).payload
  { eventId := s.tick.eventId
    detector := s.result.modelType
    detectorVersion := s.result.modelVersion
    service := cfg.targetService
    environment := cfg.environment
    windowStart := s.window.windowStart
    windowEnd := s.window.windowEnd
    anomalyScore := s.result.score
    threshold := s.result.threshold
    signals := .ofList payload.signals
    abnormalSignals := abnormalSignals s.window.signals
    traceId := s.tick.traceId
    occurredAt := .aware s.window.windowEnd }

/-- The window is flagged and its message reaches the broker. -/
def Scored.reaches (s : Scored) : Bool := s.result.isAnomaly && s.tick.delivery.written

/-- The payload of a window is valid when it arrives. -/
def Scored.isValid (v : Validation) (cfg : Settings) (s : Scored) : Bool :=
  (v.validate (outbound cfg s.tick s.window s.result).payload).toOption.isSome

/-- The times of a window are read back as they were written. -/
def ReadsBack (fromisoformat : String → Except String Timestamp) (t : Instant) : Prop :=
  fromisoformat (Py.isoformat t) = .ok (.aware t)

section
variable {σ : Type} {round : ℚ → PyFloat} {cfg : Settings} {scoreWindow : ScoreWindow σ}
  {v : Validation} {fromisoformat : String → Except String Timestamp} {s : Scored}

/-- A message that is not flagged is rejected. -/
lemma understood_unflagged {e : EventEnvelope} (unflagged : e.payload.isAnomaly = false) :
    ∃ text, understood v fromisoformat e = .error text := by
  unfold understood anomalySignalFromEnvelope EventEnvelope.received
  dsimp only
  split
  · exact ⟨_, rfl⟩
  · split
    · exact ⟨_, rfl⟩
    · split
      · exact ⟨_, rfl⟩
      · rename_i payload valid
        rw [v.faithful _ _ valid]
        exact ⟨_, if_pos unflagged⟩

/-- A flagged window whose payload is valid is understood as its signal. -/
lemma understood_flagged (flagged : s.result.isAnomaly = true)
    (starts : ReadsBack fromisoformat s.window.windowStart)
    (ends : ReadsBack fromisoformat s.window.windowEnd) {q}
    (valid : v.validate (outbound cfg s.tick s.window s.result).payload = .ok q) :
    understood v fromisoformat (outbound cfg s.tick s.window s.result) = .ok (s.signal cfg) := by
  have same := v.faithful _ _ valid
  subst same
  have startRead : parseTs fromisoformat (Py.isoformat s.window.windowStart) =
      .ok s.window.windowStart := by
    unfold parseTs
    rw [starts]
    rfl
  have endRead : parseTs fromisoformat (Py.isoformat s.window.windowEnd) =
      .ok s.window.windowEnd := by
    unfold parseTs
    rw [ends]
    rfl
  unfold understood anomalySignalFromEnvelope EventEnvelope.received
  rw [valid]
  have known : (outbound cfg s.tick s.window s.result).eventType = anomalyDetected := rfl
  have version : (outbound cfg s.tick s.window s.result).eventVersion = anomalyDetectedVersion := rfl
  have raised : (outbound cfg s.tick s.window s.result).payload.received.isAnomaly = true := flagged
  have start : (outbound cfg s.tick s.window s.result).payload.received.windowStart =
      Py.isoformat s.window.windowStart := rfl
  have finish : (outbound cfg s.tick s.window s.result).payload.received.windowEnd =
      Py.isoformat s.window.windowEnd := rfl
  dsimp only
  rw [if_neg (not_not.mpr known), if_neg (not_not.mpr version), raised, if_neg (by simp), start,
    startRead, finish, endRead]
  rfl

/-- The ends of a window are times at which the source was called. -/
lemma window_times {source : MetricsSource} {calls : List Call} {w : SignalWindow}
    (mem : w ∈ windows source calls) :
    (source.prevWall = some w.windowStart ∨ ∃ c ∈ calls, c.wall = w.windowStart) ∧
      ∃ c ∈ calls, c.wall = w.windowEnd := by
  induction calls generalizing source with
  | nil => cases mem
  | cons call calls ih =>
    rw [windows_cons] at mem
    obtain now | later := List.mem_append.mp mem
    · obtain ⟨starts, ends⟩ := nextWindow_window (Option.mem_toList.mp now)
      exact ⟨.inl starts, call, List.mem_cons_self, ends.symm⟩
    · obtain ⟨starts, c, there, ends⟩ := ih later
      refine ⟨?_, c, List.mem_cons_of_mem _ there, ends⟩
      obtain before | ⟨c', there', starts⟩ := starts
      · cases scraped : scrape source.url call.response with
        | error e =>
          rw [nextWindow_of_error scraped] at before
          exact .inl before
        | ok snapshot =>
          rw [nextWindow_fst scraped] at before
          exact .inr ⟨call, List.mem_cons_self, Option.some.inj before⟩
      · exact .inr ⟨c', List.mem_cons_of_mem _ there', starts⟩

/-- The signals of messages are those of the flagged windows whose payloads are valid. -/
lemma signals_of_messages {scored : List Scored}
    (reads : ∀ s ∈ scored, ReadsBack fromisoformat s.window.windowStart ∧
      ReadsBack fromisoformat s.window.windowEnd) :
    (scored.filterMap (·.message cfg)).filterMap (fun e => (understood v fromisoformat e).toOption) =
      ((scored.filter (·.reaches)).filter (·.isValid v cfg)).map (·.signal cfg) := by
  rw [List.filter_filter]
  induction scored with
  | nil => rfl
  | cons s scored ih =>
    obtain ⟨⟨starts, ends⟩, reads⟩ := List.forall_mem_cons.mp reads
    have rest := ih reads
    rw [List.filterMap_cons, List.filter_cons]
    by_cases reaches : s.reaches = true
    · obtain ⟨flagged, written⟩ := Bool.and_eq_true_iff.mp reaches
      have message : s.message cfg = some (outbound cfg s.tick s.window s.result) := by
        simp [Scored.message, isPublished, flagged, written]
      rw [message, List.filterMap_cons, rest, reaches]
      unfold Scored.isValid
      cases valid : v.validate (outbound cfg s.tick s.window s.result).payload with
      | ok q =>
        rw [understood_flagged flagged starts ends valid]
        rfl
      | error text =>
        have rejected : ∃ text,
            understood v fromisoformat (outbound cfg s.tick s.window s.result) = .error text := by
          unfold understood anomalySignalFromEnvelope EventEnvelope.received
          dsimp only
          rw [valid]
          split
          · exact ⟨_, rfl⟩
          · split
            · exact ⟨_, rfl⟩
            · exact ⟨_, rfl⟩
        obtain ⟨text', rejected⟩ := rejected
        rw [rejected]
        rfl
    · have silent : ∀ e, s.message cfg = some e → (understood v fromisoformat e).toOption = none := by
        intro e sent
        unfold Scored.message at sent
        split at sent
        · rename_i due
          cases sent
          obtain ⟨-, written⟩ := Bool.and_eq_true_iff.mp due
          have unflagged : s.result.isAnomaly = false := by
            cases flagged : s.result.isAnomaly with
            | false => rfl
            | true => exact absurd (by rw [Scored.reaches, flagged, written]; rfl) reaches
          obtain ⟨text, rejected⟩ := @understood_unflagged v fromisoformat
            (outbound cfg s.tick s.window s.result) unflagged
          rw [rejected]
          rfl
        · cases sent
      rw [Bool.not_eq_true] at reaches
      rw [reaches, Bool.and_false, if_neg (by simp)]
      cases sent : s.message cfg with
      | none => exact rest
      | some e =>
        dsimp only
        rw [List.filterMap_cons, silent e sent]
        exact rest

/-- The topic as the correlator reads it, over any run of the detector whose clock does not go back:
its signals are those of flagged windows that reached the broker, in the order of time and without
overlap, about the configured service; all of them, where the numbers are finite; and what is not
flagged is rejected. -/
theorem pipeline_signals (round : ℚ → PyFloat) (cfg : Settings) (scoreWindow : ScoreWindow σ)
    (v : Validation) (fromisoformat : String → Except String Timestamp) (detector : σ)
    (now : Instant) (ticks : List Tick)
    (reads : ∀ t ∈ ticks, ReadsBack fromisoformat t.call.wall)
    (clocks : ticks.Pairwise fun t t' => t.call.wall ≤ t'.call.wall) :
    let start := startup cfg detector now
    let topic := (loop round cfg scoreWindow start ticks).topic
    let flagged := (history scoreWindow start ticks).filter (·.reaches)
    let signals := topic.filterMap fun e => (understood v fromisoformat e).toOption
    signals.Sublist (flagged.map (·.signal cfg)) ∧
      ((∀ s ∈ flagged, (outbound cfg s.tick s.window s.result).payload.isNumeric = true) →
        signals = flagged.map (·.signal cfg)) ∧
      (∀ e ∈ topic, e.payload.isAnomaly = false →
        ∃ text, understood v fromisoformat e = .error text) ∧
      signals.Pairwise (fun a b => a.windowEnd ≤ b.windowStart) ∧
      ∀ a ∈ signals, a.windowStart ≤ a.windowEnd ∧ a.service = cfg.targetService ∧
        a.environment = cfg.environment := by
  intro start topic flagged signals
  have a : Accounts cfg (history scoreWindow start ticks) (ticks.map (outcome start.source)) start
      (loop round cfg scoreWindow start ticks) := loop_accounts
  have written : topic = (history scoreWindow start ticks).filterMap (·.message cfg) := a.topic
  have among := @history_windows σ scoreWindow start ticks
  have order : InOrder (windows start.source (ticks.map (·.call))) :=
    (inOrder_windows (List.pairwise_map.mpr clocks) fun _ none => by cases none).1
  have time (s) (mem : s ∈ history scoreWindow start ticks) :
      ReadsBack fromisoformat s.window.windowStart ∧ ReadsBack fromisoformat s.window.windowEnd := by
    obtain ⟨starts, c, there, ends⟩ := window_times (among.subset (List.mem_map_of_mem mem))
    obtain ⟨t, here, rfl⟩ := List.mem_map.mp there
    refine ⟨?_, ends ▸ reads t here⟩
    obtain none | ⟨c', there', starts⟩ := starts
    · cases none
    · obtain ⟨t', here', rfl⟩ := List.mem_map.mp there'
      exact starts ▸ reads t' here'
  have read : signals = _ := (congrArg (List.filterMap _) written).trans (signals_of_messages time)
  have part : signals.Sublist (flagged.map (·.signal cfg)) := by
    rw [read]
    exact List.filter_sublist.map _
  have own (b) (mem : b ∈ signals) : ∃ s ∈ history scoreWindow start ticks, s.signal cfg = b := by
    obtain ⟨s, here, same⟩ := List.mem_map.mp (part.subset mem)
    exact ⟨s, (List.mem_filter.mp here).1, same⟩
  refine ⟨part, ?_, ?_, ?_, ?_⟩
  · intro numbers
    rw [read, List.filter_eq_self.mpr]
    intro s mem
    obtain ⟨q, valid⟩ := v.numeric _ (numbers s mem)
    unfold Scored.isValid
    rw [valid]
    rfl
  · exact fun e _ => understood_unflagged
  · have apart : ((history scoreWindow start ticks).map (·.signal cfg)).Pairwise
        fun b b' => b.windowEnd ≤ b'.windowStart :=
      List.pairwise_map.mpr (List.pairwise_map.mp (order.apart.sublist among))
    exact apart.sublist (part.trans (List.filter_sublist.map _))
  · intro b mem
    obtain ⟨s, here, rfl⟩ := own b mem
    exact ⟨order.forward _ (among.subset (List.mem_map_of_mem here)), rfl, rfl⟩

/-- A validation that accepts the payloads whose numbers are finite. -/
def acceptNumeric : Validation where
  validate p := if p.isNumeric then .ok p.received else .error "Input should be a valid number"
  faithful p q := by
    split
    · exact fun same => (Except.ok.inj same).symm
    · intro same
      cases same
  numeric p numeric := ⟨p.received, if_pos numeric⟩

/-- The times of the scrapes of `fourRequests`. -/
def readScrapes (text : String) : Except String Timestamp :=
  if text = "1970-01-01T00:00:00+00:00" then .ok (.aware 0)
  else if text = "1970-01-01T00:00:10+00:00" then .ok (.aware 10000000)
  else .error s!"Invalid isoformat string: {Py.repr text}"

/-- The window of the four requests is understood as one signal, about the configured service. -/
theorem pipeline_signals_four :
    let topic := (loop .fin ordersSettings flagAll (startup ordersSettings () 0) fourRequests).topic
    let signals := topic.filterMap fun e => (understood acceptNumeric readScrapes e).toOption
    signals.length = 1 ∧ ∀ a ∈ signals, a.windowStart ≤ a.windowEnd ∧ a.service = "orders-service" := by
  intro topic signals
  refine ⟨by decide +kernel, fun a mem => ?_⟩
  have reads : ∀ t ∈ fourRequests, ReadsBack readScrapes t.call.wall := by
    unfold ReadsBack
    decide +kernel
  obtain ⟨-, -, -, -, each⟩ := pipeline_signals .fin ordersSettings flagAll acceptNumeric
    readScrapes () 0 fourRequests reads (by decide +kernel)
  exact ⟨(each a mem).1, (each a mem).2.1⟩

end

end SentinelOps.AnomalyDetector
