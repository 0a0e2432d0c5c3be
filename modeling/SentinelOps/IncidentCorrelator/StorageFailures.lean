import SentinelOps.IncidentCorrelator.Conservation
import SentinelOps.IncidentCorrelator.Events
import SentinelOps.Kafka.Attempts

/-!
# Failures of the storage

The unit of work with calls of the repository that may fail (`faulty…`), the handler of the consumer
over it and the consume loop around that. `storage_failures_iff`: a message whose first attempts run
into failures of the storage and whose next one succeeds is evidence of an incident, and not
dead-lettered, exactly when there is no such attempt; the exception of the database reaches the loop
as an unexpected one.
-/

namespace SentinelOps.IncidentCorrelator

open Kafka (ConsumerConfig ConsumerRecord MessageEnv TopicPartition Loop Raised processOne)

/-- Which calls of the repository fail in an attempt, by their number. -/
abbrev Faults := Nat → Option Error

/-- A call of the repository. -/
def Faults.call (faults : Faults) (n : Nat) : Except Error Unit :=
  match faults n with
  | some e => .error { e with cls := .storage }
  | none => .ok ()

/-- The calls of the repository from a number on. -/
def Faults.calls (faults : Faults) : Nat → Nat → Except Error Unit
  | _, 0 => .ok ()
  | n, k + 1 => do
    faults.call n
    faults.calls (n + 1) k

/-- The loop of `_link_related_incidents`, with the calls that may fail. -/
def faultyLinks (cfg : TopologyConfig) (incident : Incident) (now : Instant) (faults : Faults) :
    Nat → List Incident → Except Error (List IncidentRelation)
  | _, [] => .ok []
  | n, other :: rest => do
    match ← linkOf cfg incident now other with
    | none => faultyLinks cfg incident now faults n rest
    | some r => do
      faults.call n
      return r :: (← faultyLinks cfg incident now faults (n + 1) rest)

/-- The body of the unit of work, with the calls that may fail: its writes, its outcome and the number
of the calls. -/
def faultyUnitOfWork (cfg : ProcessorConfig) (signal : AnomalySignal) (env : AttemptEnv)
    (faults : Faults) (m : Store) : Except Error (List Write × ProcessOutcome × Nat) := do
  faults.call 0
  if signal.eventId ∈ m.evidenceIds then return ([], ⟨.duplicate, none, "duplicate event_id"⟩, 1)
  faults.call 1
  let p ← plan cfg signal (m.lockActiveIncident signal.key) env
  faults.calls 2 p.writes.length
  let n := 2 + p.writes.length
  let neighbours := relatedServices p.current.service cfg.topology.dependencyGraph
  if neighbours = [] then return (p.writes, p.outcome, n)
  faults.call n
  let links ← faultyLinks cfg.topology p.current env.linkedNow faults (n + 1)
    (m.incidents.activeIn neighbours p.current.environment)
  return (p.writes ++ links.map .linkIncident, p.outcome, n + 1 + links.length)

/-- `_process_once`, with the calls that may fail; the last one is the commit. -/
def faultyProcessOnce (cfg : ProcessorConfig) (signal : AnomalySignal) (env : AttemptEnv)
    (faults : Faults) (m : Store) : Store × Except Error ProcessOutcome :=
  match faultyUnitOfWork cfg signal env faults m with
  | .error e => (m, .error e)
  | .ok (writes, outcome, n) =>
    match faults.call n with
    | .error e => (m, .error e)
    | .ok _ =>
      let (m', committed) := m.commit writes
      (m', committed.map fun _ => outcome)

/-- What a call of the processor draws from outside, attempt by attempt. -/
abbrev ProcessEnv := Nat → AttemptEnv × Faults

/-- The attempts of `process` that are left, with the calls that may fail. -/
def faultyProcessFrom (cfg : ProcessorConfig) (signal : AnomalySignal) (env : ProcessEnv) :
    Nat → Nat → Store → Store × Except Error ProcessOutcome
  | _, 0, m => (m, .error ⟨.assertion, "AssertionError", "unreachable"⟩)
  | attempt, n + 1, m =>
    match faultyProcessOnce cfg signal (env attempt).1 (env attempt).2 m with
    | (m, .ok outcome) => (m, .ok outcome)
    | (m, .error e) =>
      if e.cls = .duplicateActiveIncident then
        if (attempt : Int) = cfg.maxRetries then
          (m, .error ⟨.retryable, "RetryableError",
            s!"lost the create race repeatedly for {Py.repr signal.key}"⟩)
        else faultyProcessFrom cfg signal env (attempt + 1) n m
      else (m, .error e)

/-- `process`, with the calls that may fail. -/
def faultyProcess (cfg : ProcessorConfig) (signal : AnomalySignal) (env : ProcessEnv) (m : Store) :
    Store × Except Error ProcessOutcome :=
  faultyProcessFrom cfg signal env 1 cfg.maxRetries.toNat m

/-- An exception as the consume loop sees it. -/
def Error.raised (e : Error) : Raised where
  cls := if e.cls = .retryable then .retryable else .unexpected
  name := e.name
  text := e.message

/-- `_handle`: what the attempts of the loop draw from outside, and what the reading of the trace
headers raises, come with it. -/
def handle (cfg : ProcessorConfig) (fromisoformat : String → Except String Timestamp)
    (extract : ConsumerRecord → Option Raised) (env : Nat → ProcessEnv) (attempt : Nat)
    (envelope : EventEnvelope) (record : ConsumerRecord) (m : Store) : Store × Option Raised :=
  match extract record with
  | some e => (m, some e)
  | none =>
    match anomalySignalFromEnvelope fromisoformat envelope with
    | .error text => (m, some ⟨.messageRejected, "MessageRejected", text⟩)
    | .ok signal =>
      match faultyProcess cfg signal (env attempt) m with
      | (m', .ok _) => (m', none)
      | (m', .error e) => (m', some e.raised)

section
variable {cfg : ProcessorConfig} {signal : AnomalySignal} {m m' : Store}

/-- A call that may fail loses no race. -/
lemma Faults.call_noRace {faults : Faults} {n} : NoRace (faults.call n) := by
  intro e h
  unfold Faults.call at h
  split at h
  · cases h
    simp
  · cases h

/-- Links whose calls all return are those without failures. -/
lemma faultyLinks_ok {tcfg incident now faults n others links}
    (h : faultyLinks tcfg incident now faults n others = .ok links) :
    linkWrites tcfg incident now others = .ok (links.map .linkIncident) := by
  have found : ∀ n others links, faultyLinks tcfg incident now faults n others = .ok links →
      ∃ found, others.mapM (linkOf tcfg incident now) = .ok found ∧ found.filterMap id = links := by
    intro n others
    induction others generalizing n with
    | nil =>
      intro links h
      cases h
      exact ⟨[], rfl, rfl⟩
    | cons other rest ih =>
      intro links h
      rw [faultyLinks] at h
      obtain ⟨link, linked, h⟩ := Except.bind_eq_ok.mp h
      cases link with
      | none =>
        obtain ⟨found, later, e⟩ := ih n links h
        refine ⟨none :: found, ?_, e⟩
        rw [List.mapM_cons, linked, later]
        rfl
      | some r =>
        obtain ⟨u, _, h⟩ := Except.bind_eq_ok.mp h
        obtain ⟨links', next, h⟩ := Except.bind_eq_ok.mp h
        cases h
        obtain ⟨found, later, e⟩ := ih (n + 1) links' next
        refine ⟨some r :: found, ?_, congrArg (r :: ·) e⟩
        rw [List.mapM_cons, linked, later]
        rfl
  obtain ⟨found, all, rfl⟩ := found n others links h
  unfold linkWrites
  rw [all]
  rfl

/-- A body whose calls all return is the one without failures. -/
lemma faultyUnitOfWork_ok {env faults ws out n}
    (h : faultyUnitOfWork cfg signal env faults m = .ok (ws, out, n)) :
    unitOfWork cfg signal env m = .ok (ws, out) := by
  unfold faultyUnitOfWork at h
  obtain ⟨u, _, h⟩ := Except.bind_eq_ok.mp h
  unfold unitOfWork
  split at h
  · rename_i seen
    cases h
    rw [if_pos seen]
    rfl
  · rename_i unseen
    rw [if_neg unseen]
    obtain ⟨_, _, h⟩ := Except.bind_eq_ok.mp h
    obtain ⟨p, planned, h⟩ := Except.bind_eq_ok.mp h
    obtain ⟨_, _, h⟩ := Except.bind_eq_ok.mp h
    rw [planned]
    dsimp only at h
    split at h
    · rename_i none'
      cases h
      change (if _ then _ else _ : Except Error _) = _
      rw [if_pos none']
      rfl
    · rename_i some'
      obtain ⟨_, _, h⟩ := Except.bind_eq_ok.mp h
      obtain ⟨links, linked, h⟩ := Except.bind_eq_ok.mp h
      cases h
      change (if _ then _ else _ : Except Error _) = _
      rw [if_neg some', faultyLinks_ok linked]
      rfl

/-- A unit of work that returns is the one without failures. -/
lemma faultyProcessOnce_ok {env faults out}
    (h : faultyProcessOnce cfg signal env faults m = (m', .ok out)) :
    processOnce cfg signal env m = (m', .ok out) := by
  unfold faultyProcessOnce at h
  split at h
  · cases h
  · rename_i ws outcome n body
    split at h
    · cases h
    · rw [processOnce_of_staged (faultyUnitOfWork_ok body)]
      exact h

/-- Calls that may fail lose no race. -/
lemma Faults.calls_noRace {faults : Faults} {n k} : NoRace (faults.calls n k) := by
  induction k generalizing n with
  | zero => exact .ok
  | succ k ih => exact Faults.call_noRace.bind fun _ _ => ih

/-- The search for links loses no race, also when calls fail. -/
lemma faultyLinks_noRace {tcfg incident now faults n others} :
    NoRace (faultyLinks tcfg incident now faults n others) := by
  induction others generalizing n with
  | nil => exact .ok
  | cons other rest ih =>
    rw [faultyLinks]
    apply NoRace.bind linkOf_noRace
    intro link _
    cases link with
    | none => exact ih
    | some r =>
      apply NoRace.bind Faults.call_noRace
      intro _ _
      apply NoRace.bind ih
      intro links _
      exact .ok

/-- The body of a unit of work loses no race, also when calls fail. -/
lemma faultyUnitOfWork_noRace {env faults} : NoRace (faultyUnitOfWork cfg signal env faults m) := by
  unfold faultyUnitOfWork
  apply NoRace.bind Faults.call_noRace
  intro _ _
  split
  · exact .ok
  · apply NoRace.bind Faults.call_noRace
    intro _ _
    apply NoRace.bind plan_noRace
    intro p _
    apply NoRace.bind Faults.calls_noRace
    intro _ _
    dsimp only
    split
    · exact .ok
    · apply NoRace.bind Faults.call_noRace
      intro _ _
      apply NoRace.bind faultyLinks_noRace
      intro links _
      exact .ok

/-- Over a store in order, `process` with calls that may fail makes one attempt. -/
lemma faultyProcess_eq {env : ProcessEnv} (h : MemoryOk cfg.severity m) (tries : 0 < cfg.maxRetries) :
    faultyProcess cfg signal env m = faultyProcessOnce cfg signal (env 1).1 (env 1).2 m := by
  unfold faultyProcess
  obtain ⟨n, e⟩ : ∃ n, cfg.maxRetries.toNat = n + 1 := ⟨cfg.maxRetries.toNat - 1, by omega⟩
  rw [e, faultyProcessFrom]
  cases once : faultyProcessOnce cfg signal (env 1).1 (env 1).2 m with
  | mk m' out =>
    cases out with
    | ok out => rfl
    | error x =>
      have other : x.cls ≠ .duplicateActiveIncident := by
        unfold faultyProcessOnce at once
        split at once
        · rename_i y raised
          cases once
          exact faultyUnitOfWork_noRace _ raised
        · rename_i ws outcome k body
          split at once
          · rename_i y raised
            cases once
            exact Faults.call_noRace _ raised
          · have whole : processOnce cfg signal (env 1).1 m = (m', .error x) := by
              rw [processOnce_of_staged (faultyUnitOfWork_ok body)]
              exact once
            rcases processOnce_carries h.incidents.keys whole with ⟨y, raised, other, _⟩ |
              ⟨_, _, out⟩ | ⟨_, ⟨o, out⟩, _⟩
            · cases raised
              exact other
            · cases out
            · cases out
      dsimp only
      rw [if_neg other]

/-- A call of the processor that returns leaves its event in the evidence of an incident. -/
lemma faultyProcess_evident {env : ProcessEnv} (h : MemoryOk cfg.severity m) {out}
    (e : faultyProcess cfg signal env m = (m', .ok out)) :
    ∃ id, Evident m'.incidents id signal.eventId := by
  have tries : 0 < cfg.maxRetries := by
    by_contra none'
    unfold faultyProcess at e
    rw [Int.toNat_of_nonpos (not_lt.mp none'), faultyProcessFrom] at e
    cases e
  rw [faultyProcess_eq h tries] at e
  rcases processOnce_carries h.incidents.keys (faultyProcessOnce_ok e) with ⟨x, raised, _⟩ |
    ⟨seen, rfl, _⟩ | ⟨_, _, _, current, carried, _⟩
  · cases raised
  · have there := (h.events _).mp seen
    rw [unseen_iff] at there
    push Not at there
    exact there
  · exact carried.writes.evident

end

section
variable {cfg : ProcessorConfig} {fromisoformat : String → Except String Timestamp}
  {extract : ConsumerRecord → Option Raised} {env : Nat → ProcessEnv} {m : Store}
  {envelope : EventEnvelope} {r : ConsumerRecord} {signal : AnomalySignal}

/-- A handler whose call of the processor returns. -/
lemma handle_ok {attempt} (headers : extract r = none)
    (valid : anomalySignalFromEnvelope fromisoformat envelope = .ok signal) {m' out}
    (e : faultyProcess cfg signal (env attempt) m = (m', .ok out)) :
    handle cfg fromisoformat extract env attempt envelope r m = (m', none) := by
  unfold handle
  rw [headers, valid]
  dsimp only
  rw [e]

/-- A handler whose call of the processor runs into a failure of the storage. -/
lemma handle_failed {attempt} (headers : extract r = none)
    (valid : anomalySignalFromEnvelope fromisoformat envelope = .ok signal) {m' x}
    (e : faultyProcess cfg signal (env attempt) m = (m', .error x)) (storage : x.cls = .storage) :
    handle cfg fromisoformat extract env attempt envelope r m =
      (m', some ⟨.unexpected, x.name, x.message⟩) := by
  unfold handle
  rw [headers, valid]
  dsimp only
  rw [e]
  simp [Error.raised, storage]

variable {kafka : ConsumerConfig EventEnvelope} {menv : MessageEnv EventEnvelope Store}
  {tp : TopicPartition} {s : Loop Store}

/-- A record whose first attempt returns: its offset is committed, and nothing else. -/
lemma processOne_returned (parsed : kafka.parseEnvelope r.value = .envelope envelope)
    (tries : 0 < kafka.maxRetries) {m'} (first : menv.handler 1 envelope r s.app = (m', none))
    (committed : menv.handlerCommit = .ok) :
    (processOne kafka menv tp r s).1.app = m' ∧
      (processOne kafka menv tp r s).1.deadLetters = s.deadLetters := by
  obtain ⟨n, e⟩ : ∃ n, kafka.maxRetries.toNat = n + 1 := ⟨kafka.maxRetries.toNat - 1, by omega⟩
  unfold processOne
  rw [parsed]
  dsimp only
  rw [e, Kafka.attempts, Kafka.tryHandler, first]
  dsimp only
  rw [Kafka.succeed, Kafka.commit, committed]
  exact ⟨rfl, rfl⟩

/-- A record whose first attempt raises an unexpected exception is dead-lettered. -/
lemma processOne_unexpected (parsed : kafka.parseEnvelope r.value = .envelope envelope)
    (tries : 0 < kafka.maxRetries) {m' x} (first : menv.handler 1 envelope r s.app = (m', some x))
    (unexpected : x.cls = .unexpected) (published : menv.publish = .ok) :
    (processOne kafka menv tp r s).1.deadLetters = s.deadLetters ++
      [Kafka.deadLetter kafka tp r s!"unexpected: {x.name}: {x.text}"] := by
  obtain ⟨n, e⟩ : ∃ n, kafka.maxRetries.toNat = n + 1 := ⟨kafka.maxRetries.toNat - 1, by omega⟩
  unfold processOne
  rw [parsed]
  dsimp only
  rw [e, Kafka.attempts, Kafka.tryHandler, first]
  dsimp only
  rw [unexpected]
  dsimp only
  rw [Kafka.reject, Kafka.toDlq, published]
  unfold Kafka.andThen Kafka.commit
  dsimp only [Kafka.PublishOutcome.written, Kafka.PublishOutcome.escaped]
  cases menv.publishCommit with
  | ok => rfl
  | failed applied c => cases applied <;> rfl

end

/-- Whatever the message and the store, a message whose first `k` attempts run into failures of the
storage, fewer than the consumer makes, and whose next one succeeds ends up as evidence without being
dead-lettered exactly when there is no failed attempt. -/
theorem storage_failures_iff (cfg : ProcessorConfig)
    (fromisoformat : String → Except String Timestamp) (extract : ConsumerRecord → Option Raised)
    (env : Nat → ProcessEnv) (kafka : ConsumerConfig EventEnvelope)
    (menv : MessageEnv EventEnvelope Store) (tp : TopicPartition) (r : ConsumerRecord)
    (s : Loop Store) (envelope : EventEnvelope) (signal : AnomalySignal) (k : Nat)
    (parsed : kafka.parseEnvelope r.value = .envelope envelope)
    (headers : extract r = none)
    (valid : anomalySignalFromEnvelope fromisoformat envelope = .ok signal)
    (handler : menv.handler = handle cfg fromisoformat extract env)
    (committed : menv.handlerCommit = .ok) (published : menv.publish = .ok)
    (store : MemoryOk cfg.severity s.app) (fewer : (k : Int) < kafka.maxRetries)
    (fails : ∀ n, 1 ≤ n → n ≤ k → ∃ m' x,
      faultyProcess cfg signal (env n) s.app = (m', .error x) ∧ x.cls = .storage)
    (succeeds : ∃ m' out, faultyProcess cfg signal (env (k + 1)) s.app = (m', .ok out)) :
    (∃ id, Evident (processOne kafka menv tp r s).1.app.incidents id envelope.eventId) ∧
        (processOne kafka menv tp r s).1.deadLetters = s.deadLetters ↔
      k = 0 := by
  have tries : 0 < kafka.maxRetries := by omega
  constructor
  · rintro ⟨_, silent⟩
    by_contra some'
    obtain ⟨m', x, failed, storage⟩ := fails 1 le_rfl (by omega)
    have first : menv.handler 1 envelope r s.app = (m', some ⟨.unexpected, x.name, x.message⟩) := by
      rw [handler]
      exact handle_failed headers valid failed storage
    rw [processOne_unexpected parsed tries first rfl published] at silent
    simp at silent
  · rintro rfl
    obtain ⟨m', out, returned⟩ := succeeds
    have first : menv.handler 1 envelope r s.app = (m', none) := by
      rw [handler]
      exact handle_ok headers valid returned
    obtain ⟨app, silent⟩ := @processOne_returned _ _ _ _ tp _ parsed tries _ first committed
    refine ⟨?_, silent⟩
    rw [app, ← (anomalySignalFromEnvelope_ok valid).1]
    exact faultyProcess_evident store returned

/-- An envelope with an anomaly of a service. -/
def anomalyEnvelope : EventEnvelope where
  eventId := "evt-1"
  eventType := "anomaly.detected"
  eventVersion := 1
  occurredAt := .aware 0
  payload := .ok {
    detector := "isolation-forest"
    detectorVersion := "1"
    service := "orders-service"
    environment := "development"
    windowStart := "1970-01-01T00:00:00Z"
    windowEnd := "1970-01-01T00:00:00Z"
    anomalyScore := .fin 1
    threshold := .fin (1 / 2)
    isAnomaly := true
    signals := .empty }

/-- A reader of the one time of that envelope. -/
def epoch (_ : String) : Except String Timestamp := .ok (.aware 0)

/-- A database that is out of reach in the first attempts, up to a given one. -/
def connectionLost (k attempt : Nat) : ProcessEnv := fun _ =>
  ({ token := "1" }, fun _ => if attempt ≤ k then
    some ⟨.storage, "OperationalError", "connection refused"⟩ else none)

/-- A consumer whose every record is that envelope. -/
def anomalyConsumer : ConsumerConfig EventEnvelope where
  topic := "anomaly.events"
  dlqTopic := "anomaly.events.dlq"
  parseEnvelope _ := .envelope anomalyEnvelope

/-- The environment of a message during such an outage. -/
def outage (k : Nat) : MessageEnv EventEnvelope Store where
  handler := handle {} epoch (fun _ => none) (connectionLost k)

/-- The loop with an empty store and one record to process. -/
def oneRecord : Loop Store where
  log _ := [{ offset := 0 }]
  resumed _ := 0
  position _ := 1
  committed _ := 0
  app := {}

/-- One lost connection, with two attempts left, dead-letters the message, and no incident is
opened. -/
theorem storage_failure_dead_lettered :
    (1 : Int) < anomalyConsumer.maxRetries ∧
    ((handle {} epoch (fun _ => none) (connectionLost 1) 2 anomalyEnvelope { offset := 0 } {}).2 =
      none) ∧
    (processOne anomalyConsumer (outage 1) ⟨"anomaly.events", 0⟩ { offset := 0 }
      oneRecord).1.deadLetters.length = 1 ∧
    (processOne anomalyConsumer (outage 1) ⟨"anomaly.events", 0⟩ { offset := 0 }
      oneRecord).1.app.incidents.keys = [] := by
  decide +kernel

/-- Without a failure the message is evidence, and not dead-lettered. -/
theorem storage_failures_iff_calm :
    (∃ id, Evident (processOne anomalyConsumer (outage 0) ⟨"anomaly.events", 0⟩ { offset := 0 }
      oneRecord).1.app.incidents id "evt-1") ∧
    (processOne anomalyConsumer (outage 0) ⟨"anomaly.events", 0⟩ { offset := 0 }
      oneRecord).1.deadLetters = [] := by
  have valid : ∃ signal, anomalySignalFromEnvelope epoch anomalyEnvelope = .ok signal := ⟨_, rfl⟩
  obtain ⟨signal, valid⟩ := valid
  refine (storage_failures_iff {} epoch (fun _ => none) (connectionLost 0) anomalyConsumer (outage 0)
    ⟨"anomaly.events", 0⟩ { offset := 0 } oneRecord anomalyEnvelope signal 0 rfl rfl valid rfl rfl rfl
    memoryOk_empty (by decide) ?_ ?_).mpr rfl
  · intro n _ _
    omega
  · cases valid
    exact ⟨_, _, rfl⟩

end SentinelOps.IncidentCorrelator
