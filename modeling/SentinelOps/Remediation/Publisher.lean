import SentinelOps.Kafka.Producer
import SentinelOps.Remediation.NoSecrets
import SentinelOps.Remediation.Stranded

/-!
# Lifecycle events on the topic

`lifecycleEnvelope` turns a committed audit event into a message of `remediation.events`, and
`RemediationEventPublisher` mirrors the events of a transaction after it has committed. A `Stage` is
a world of the service with what each call still has to mirror and the topic as the broker keeps it.
A call goes on only when it has sent its events, so its publication and the transactions of the
other calls interleave in any order. The hash behind an event id is a parameter.
-/

namespace SentinelOps.Remediation

open Kafka (Delivery)

/-- The payload of a lifecycle event. -/
structure RemediationLifecycleV1 where
  remediationId : String
  incidentId : String
  investigationId : Option String
  change : String
  previousState : Option String
  newState : Option String
  actionType : Option String
  targetService : Option String
  targetEnvironment : Option String
  trigger : Option String
  riskLevel : Option String
  actorType : Option String
  actorId : Option String
  actorRole : Option String
  policyOutcome : Option String
  policyVersion : Option String
  policyReasonCodes : List String
  executionId : Option String
  executionResult : Option String
  verificationId : Option String
  verificationAttempts : Option Int
  checksPassed : Option Int
  checksTotal : Option Int
  failureReason : Option String
  reason : String
  auditId : Option String
  correlationId : Option String
  occurredAt : String
  deriving DecidableEq

/-- The envelope of a lifecycle event. -/
structure EventEnvelope where
  eventId : String
  eventType : String
  eventVersion : Int
  occurredAt : Instant
  source : String
  traceId : Option String
  payload : RemediationLifecycleV1
  deriving DecidableEq

/-- A message of the topic: its key, its headers and its envelope. -/
structure Message where
  key : String
  headers : List (String × String)
  envelope : EventEnvelope
  deriving DecidableEq

/-- `REMEDIATION_LIFECYCLE_VERSION`. -/
def remediationLifecycleVersion : Int := 1

/-- `_AUDIT_EVENT_TO_TYPE`. -/
def auditEventToType : AuditEventType → Option String
  | .proposalCreated => some "remediation.proposed"
  | .policyEvaluated => some "remediation.policy_evaluated"
  | .remediationBlocked => some "remediation.blocked"
  | .approved => some "remediation.approved"
  | .rejected => some "remediation.rejected"
  | .executionStarted => some "remediation.execution_started"
  | .executionSucceeded => some "remediation.execution_succeeded"
  | .executionFailed => some "remediation.execution_failed"
  | .verificationStarted => some "remediation.recovery_verification_started"
  | .verificationSucceeded => some "remediation.recovered"
  | .verificationFailed => some "remediation.recovery_failed"
  | .executionRequested => none

/-- `is_publishable`. -/
def isPublishable (event : RemediationAuditEvent) : Bool :=
  (auditEventToType event.val.eventType).isSome

/-- `s.removeprefix(p)`. -/
def removePrefix (p s : String) : String :=
  if p.toList.isPrefixOf s.toList then String.ofList (s.toList.drop p.length) else s

/-- A metadata value that is a text. -/
def strOrNone : Option Scalar → Option String
  | some (.str s) => some s
  | _ => none

/-- `_int_or_none`: a metadata value that is an integer and not a truth value. -/
def intOrNone : Option Scalar → Option Int
  | some (.int n) => some n
  | _ => none

/-- What a publisher is constructed with, and the hash it names events by. -/
structure PublisherConfig where
  isWord : WordTable
  source : String
  uuid5 : String → String

section
variable (pub : PublisherConfig)

/-- The note of an event, redacted once more on its way out. -/
def publishedReason (event : RemediationAuditEvent) : String :=
  if event.val.reason = "" then "" else redactText pub.isWord event.val.reason

/-- The payload of an event of the given type. -/
def lifecyclePayload (event : RemediationAuditEvent) (eventType : String) :
    RemediationLifecycleV1 :=
  let e := event.val
  { remediationId := e.remediationId
    incidentId := e.incidentId
    investigationId := e.investigationId
    change := removePrefix "remediation." eventType
    previousState := e.previousState.map str
    newState := e.newState.map str
    actionType := e.actionType.map str
    targetService := e.targetService
    targetEnvironment := e.targetEnvironment
    trigger := strOrNone (e.metadata.get? "trigger")
    riskLevel := strOrNone (e.metadata.get? "risk_level")
    actorType := some (str e.actorType)
    actorId := some e.actorId
    actorRole := e.actorRole.map str
    policyOutcome := e.policyOutcome.map str
    policyVersion := e.policyVersion
    policyReasonCodes := e.policyReasonCodes.map str
    executionId := e.executionId
    executionResult := e.executionResult.map str
    verificationId := e.verificationId
    verificationAttempts := intOrNone (e.metadata.get? "attempts")
    checksPassed := intOrNone (e.metadata.get? "checks_passed")
    checksTotal := intOrNone (e.metadata.get? "checks_total")
    failureReason :=
      if e.eventType = .verificationFailed ∧ e.reason ≠ "" then
        some (redactText pub.isWord e.reason)
      else none
    reason := publishedReason pub event
    auditId := some e.auditId
    correlationId := e.correlationId
    occurredAt := Py.isoformat e.occurredAt }

/-- `lifecycle_envelope`. -/
def lifecycleEnvelope (event : RemediationAuditEvent) : Option EventEnvelope :=
  (auditEventToType event.val.eventType).map fun eventType =>
    { eventId := pub.uuid5 event.val.auditId
      eventType
      eventVersion := remediationLifecycleVersion
      occurredAt := event.val.occurredAt
      source := pub.source
      traceId := none
      payload := lifecyclePayload pub event eventType }

end

/-- `kafka_headers`. -/
def EventEnvelope.kafkaHeaders (e : EventEnvelope) : List (String × String) :=
  [("event-type", e.eventType), ("event-id", e.eventId), ("event-version", toString e.eventVersion)]

/-- The message a committed event is mirrored by, if it is published at all. -/
def messageOf (pub : PublisherConfig) (event : RemediationAuditEvent) : Option Message :=
  (lifecycleEnvelope pub event).map fun envelope =>
    { key := event.val.remediationId, headers := envelope.kafkaHeaders, envelope }

/-- The messages of a list of events. -/
def messagesOf (pub : PublisherConfig) (events : List RemediationAuditEvent) : List Message :=
  events.filterMap (messageOf pub)

/-- A world, what each of its calls still has to mirror, and the topic. -/
structure Stage (σ : Type) where
  world : World σ
  outbox : List (List RemediationAuditEvent) := []
  topic : List Message := []

/-- A step of the service, with whether the producer is ready when it ends, or a call publishing the
next of its events. -/
inductive Signal where
  | service (l : Label) (ready : Bool)
  | publish (i : Nat) (d : Delivery)

/-- The call ended in an exception. -/
def Phase.isRaised : Phase → Bool
  | .raised _ => true
  | _ => false

/-- What `_commit_with_audit` hands to the publisher when a step has led from one phase to the next:
the events of a transaction that went well, if the producer is ready. -/
def mirrored (ready : Bool) (ph ph' : Phase) : List RemediationAuditEvent :=
  if ready = true ∧ ph'.isRaised = false then ph.events else []

/-- What `publish` leaves on the topic. The publisher goes on where it raises. -/
def delivered (pub : PublisherConfig) (event : RemediationAuditEvent) (d : Delivery) :
    List Message :=
  if d.written then (messageOf pub event).toList else []

section
variable {σ : Type} (cfg : ServiceConfig) (repo : Repository σ) (pub : PublisherConfig)

/-- One step of the service with its publisher. -/
def broadcastStep (s : Stage σ) : Signal → Option (Stage σ)
  | .service (.call r) _ =>
    (step cfg repo s.world (.call r)).map fun w =>
      { s with world := w, outbox := s.outbox ++ [[]] }
  | .service (.advance i env) ready =>
    match s.outbox[i]?, s.world.calls[i]? with
    | some [], some c =>
      match step cfg repo s.world (.advance i env) with
      | none => none
      | some w =>
        some { s with
          world := w
          outbox := s.outbox.set i (w.calls[i]?.elim [] fun c' => mirrored ready c.phase c'.phase) }
    | _, _ => none
  | .publish i d =>
    match s.outbox[i]? with
    | some (event :: rest) =>
      some { s with outbox := s.outbox.set i rest, topic := s.topic ++ delivered pub event d }
    | _ => none

/-- The service with its publisher: it starts with nothing to mirror and an empty topic. -/
def broadcast : Machine (Stage σ) Signal where
  init s := (service cfg repo).init s.world ∧ s.outbox = [] ∧ s.topic = []
  step := broadcastStep cfg repo pub

end

/-- What the calls still have to mirror. -/
def Stage.pending {σ : Type} (pub : PublisherConfig) (s : Stage σ) : List Message :=
  messagesOf pub s.outbox.flatten

/-- The messages of one remediation. -/
def Stage.partition {σ : Type} (s : Stage σ) (rid : String) : List Message :=
  s.topic.filter fun m => decide (m.key = rid)

section
variable {σ : Type} {cfg : ServiceConfig} {repo : Repository σ} {pub : PublisherConfig}

/-- A step of the service with its publisher: a call starts, a call with nothing left to mirror takes
its next step, or a call publishes an event. -/
lemma broadcastStep_cases {s s' : Stage σ} {l} (e : broadcastStep cfg repo pub s l = some s') :
    (∃ r ready w, l = .service (.call r) ready ∧ step cfg repo s.world (.call r) = some w ∧
      s' = { s with world := w, outbox := s.outbox ++ [[]] }) ∨
    (∃ i env ready c w, l = .service (.advance i env) ready ∧ s.outbox[i]? = some [] ∧
      s.world.calls[i]? = some c ∧ step cfg repo s.world (.advance i env) = some w ∧
      s' = { s with
        world := w
        outbox := s.outbox.set i
          (w.calls[i]?.elim [] fun c' => mirrored ready c.phase c'.phase) }) ∨
    ∃ i d event rest, l = .publish i d ∧ s.outbox[i]? = some (event :: rest) ∧
      s' = { s with outbox := s.outbox.set i rest, topic := s.topic ++ delivered pub event d } := by
  unfold broadcastStep at e
  split at e
  · rename_i r ready
    obtain ⟨w, st, rfl⟩ := Option.map_eq_some_iff.mp e
    exact .inl ⟨r, ready, w, rfl, st, rfl⟩
  · rename_i i env ready
    split at e
    · rename_i c idle found
      split at e
      · cases e
      · rename_i w st
        cases e
        exact .inr (.inl ⟨i, env, ready, c, w, rfl, idle, found, st, rfl⟩)
    · cases e
  · rename_i i d
    split at e
    · rename_i event rest found
      cases e
      exact .inr (.inr ⟨i, d, event, rest, rfl, found, rfl⟩)
    · cases e

/-- Every message bears the id of the remediation it is about. -/
lemma messageOf_key {event m} (h : messageOf pub event = some m) :
    m.key = event.val.remediationId := by
  obtain ⟨envelope, _, rfl⟩ := Option.map_eq_some_iff.mp h
  rfl

/-- The messages of appended events. -/
@[simp] lemma messagesOf_append {events events'} :
    messagesOf pub (events ++ events') = messagesOf pub events ++ messagesOf pub events' :=
  List.filterMap_append

/-- The messages of no events. -/
@[simp] lemma messagesOf_nil : messagesOf pub [] = [] := rfl

/-- The messages of one more event. -/
lemma messagesOf_cons {event events} :
    messagesOf pub (event :: events) = (messageOf pub event).toList ++ messagesOf pub events := by
  unfold messagesOf
  rw [List.filterMap_cons]
  cases messageOf pub event <;> rfl

/-- The messages of one remediation are the messages of its events. -/
lemma filter_messagesOf {rid events} :
    (messagesOf pub events).filter (fun m => decide (m.key = rid)) =
      messagesOf pub (events.filter fun e => decide (e.val.remediationId = rid)) := by
  induction events with
  | nil => rfl
  | cons event events ih =>
    rw [messagesOf_cons, List.filter_append, ih, List.filter_cons]
    by_cases own : event.val.remediationId = rid
    · rw [if_pos (decide_eq_true own), messagesOf_cons]
      congr 1
      rw [List.filter_eq_self]
      intro m hm
      exact decide_eq_true ((messageOf_key (Option.mem_toList.mp hm)).trans own)
    · rw [if_neg (by simpa using own)]
      have none : (messageOf pub event).toList.filter (fun m => decide (m.key = rid)) = [] := by
        rw [List.filter_eq_nil_iff]
        intro m hm same
        exact own ((messageOf_key (Option.mem_toList.mp hm)).symm.trans (of_decide_eq_true same))
      rw [none, List.nil_append]

end

end SentinelOps.Remediation
