import SentinelOps.Lib.Dict
import SentinelOps.Lib.Transition
import Mathlib.Algebra.Ring.Nat
import Mathlib.Logic.Function.Basic

/-!
# The idempotent consumer

`IdempotentConsumer`: the manual-commit consume loop shared by the services. `processOne` is the
processing of one record with its retries, its dead-lettering and its commits; `consumer` is the
loop as a machine over the partitions' logs. The broker, the handler and the sleep are the
environment of a step: each call may return or raise, and a call that raises may still have taken
effect. The handler works on an application state of type `α`.
-/

namespace SentinelOps.Kafka

/-- A byte string. -/
abbrev Bytes := List UInt8

/-- A partition of a topic. -/
structure TopicPartition where
  topic : String
  partition : Nat
  deriving DecidableEq

/-- A record of a partition. -/
structure ConsumerRecord where
  offset : Nat
  key : Option Bytes := none
  value : Option Bytes := none
  headers : List (String × Bytes) := []
  deriving DecidableEq

/-- The exceptions the loop tells apart: its own two classes, any other `Exception`, and the
exceptions that are no `Exception` (a cancellation). -/
inductive ExceptionClass where
  | messageRejected
  | retryable
  | unexpected
  | base
  deriving DecidableEq

/-- A raised exception: its class, the name of its type and its text. -/
structure Raised where
  cls : ExceptionClass
  name : String
  text : String
  deriving DecidableEq

/-- An exception of the Kafka client, which knows nothing of the classes of this module. -/
structure ClientError where
  fatal : Bool := false
  name : String
  text : String
  deriving DecidableEq

/-- The exception as the loop sees it. -/
def ClientError.raised (e : ClientError) : Raised where
  cls := if e.fatal then .base else .unexpected
  name := e.name
  text := e.text

/-- What `consumer.commit` does: return, or raise after the commit was applied or without. -/
inductive CommitOutcome where
  | ok
  | failed (applied : Bool) (e : ClientError)
  deriving DecidableEq

/-- The offset was committed. -/
def CommitOutcome.applied : CommitOutcome → Bool
  | .ok => true
  | .failed applied _ => applied

/-- What the call raised. -/
def CommitOutcome.raised : CommitOutcome → Option Raised
  | .ok => none
  | .failed _ e => some e.raised

/-- What `_to_dlq` meets: a publish that returns, one that raises after the message was written or
without, or a reason that cannot be encoded. -/
inductive PublishOutcome where
  | ok
  | failed (written : Bool) (e : ClientError)
  | unencodable (e : Raised)
  deriving DecidableEq

/-- The message was written to the dead-letter topic. -/
def PublishOutcome.written : PublishOutcome → Bool
  | .ok => true
  | .failed written _ => written
  | .unencodable _ => false

/-- What leaves `_to_dlq`: an `Exception` of the publish is logged and swallowed. -/
def PublishOutcome.escaped : PublishOutcome → Option Raised
  | .ok => none
  | .failed _ e => if e.fatal then some e.raised else none
  | .unencodable e => some e

/-- A message of the dead-letter topic, with the record it was made of. -/
structure DeadLetter where
  source : TopicPartition × Nat
  topic : String
  key : Option Bytes
  value : Bytes
  headers : List (String × Bytes)
  deriving DecidableEq

/-- What `parse_envelope` does with the bytes of a record. -/
inductive Parsed (E : Type) where
  | envelope (e : E)
  | decodeError (text : String)
  | raises (e : Raised)

/-- The parameters of a consumer, with the decoding of its messages. -/
structure ConsumerConfig (E : Type) where
  topic : String
  dlqTopic : String
  maxRetries : Int := 3
  parseEnvelope : Option Bytes → Parsed E

/-- What the outside does while one record is processed. -/
structure MessageEnv (E α : Type) where
  handler : Nat → E → ConsumerRecord → α → α × Option Raised
  handlerCommit : CommitOutcome := .ok
  publish : PublishOutcome := .ok
  publishCommit : CommitOutcome := .ok
  sleep : Nat → Option Raised := fun _ => none

/-- The consumer with what it works on: the logs of the partitions, the offset it resumed from, its
fetch position and its committed offset in each, the records of the current batch still to be
processed, the records whose handler returned, the dead-letter topic and the application state. -/
structure Loop (α : Type) where
  log : TopicPartition → List ConsumerRecord
  resumed : TopicPartition → Nat
  position : TopicPartition → Nat
  committed : TopicPartition → Nat
  pending : List (TopicPartition × ConsumerRecord) := []
  completed : List (TopicPartition × Nat) := []
  deadLetters : List DeadLetter := []
  app : α
  stopped : Bool := false
  healthy : Bool := true
  processed : Nat := 0
  rejected : Nat := 0

/-- The text of a header. -/
def utf8 (s : String) : Bytes := s.toUTF8.data.toList

section
variable {E α : Type} (cfg : ConsumerConfig E) (env : MessageEnv E α) (tp : TopicPartition)
  (r : ConsumerRecord)

/-- Go on with the state of a call, unless it raised. -/
def andThen (x : Loop α × Option Raised) (f : Loop α → Loop α × Option Raised) :
    Loop α × Option Raised :=
  match x with
  | (s, none) => f s
  | (s, some e) => (s, some e)

/-- `_commit`. -/
def commit (o : CommitOutcome) (s : Loop α) : Loop α × Option Raised :=
  (if o.applied = true then { s with committed := Function.update s.committed tp (r.offset + 1) }
    else s, o.raised)

/-- The message `_to_dlq` publishes. -/
def deadLetter (reason : String) : DeadLetter where
  source := (tp, r.offset)
  topic := cfg.dlqTopic
  key := r.key
  value := r.value.getD []
  headers := r.headers ++
    [("dlq-reason", (utf8 reason).take 512), ("dlq-source-topic", utf8 cfg.topic)]

/-- `_to_dlq`. -/
def toDlq (reason : String) (s : Loop α) : Loop α × Option Raised :=
  (if env.publish.written = true then
      { s with deadLetters := s.deadLetters ++ [deadLetter cfg tp r reason] }
    else s, env.publish.escaped)

/-- The end of a record that cannot be processed: dead-letter it, commit its offset, count it. -/
def reject (reason : String) (s : Loop α) : Loop α × Option Raised :=
  andThen (toDlq cfg env tp r reason s) fun s =>
    andThen (commit tp r env.publishCommit s) fun s =>
      ({ s with rejected := s.rejected + 1 }, none)

/-- The end of a record whose handler returned: commit its offset, count it. -/
def succeed (s : Loop α) : Loop α × Option Raised :=
  andThen (commit tp r env.handlerCommit { s with completed := s.completed ++ [(tp, r.offset)] })
    fun s => ({ s with processed := s.processed + 1 }, none)

/-- The body of the `try` of one attempt: the handler, then the commit. -/
def tryHandler (attempt : Nat) (envelope : E) (s : Loop α) : Loop α × Option Raised :=
  let (app, out) := env.handler attempt envelope r s.app
  match out with
  | none => succeed env tp r { s with app }
  | some e => ({ s with app }, some e)

/-- The loop over the attempts that are left, from a given one on. -/
def attempts (envelope : E) : Nat → Nat → Loop α → Loop α × Option Raised
  | _, 0, s => (s, none)
  | attempt, n + 1, s =>
    match tryHandler env tp r attempt envelope s with
    | (s, none) => (s, none)
    | (s, some e) =>
      match e.cls with
      | .messageRejected => reject cfg env tp r s!"rejected: {e.text}" s
      | .retryable =>
        if (attempt : Int) = cfg.maxRetries then
          reject cfg env tp r s!"retries exhausted: {e.text}" s
        else
          match env.sleep attempt with
          | none => attempts envelope (attempt + 1) n s
          | some e => (s, some e)
      | .unexpected => reject cfg env tp r s!"unexpected: {e.name}: {e.text}" s
      | .base => (s, some e)

/-- `_process_one`. -/
def processOne (s : Loop α) : Loop α × Option Raised :=
  match cfg.parseEnvelope r.value with
  | .decodeError text => reject cfg env tp r s!"decode: {text}" s
  | .raises e => (s, some e)
  | .envelope envelope => attempts cfg env tp r envelope 1 cfg.maxRetries.toNat s

/-- What happens next: a producer appends a record, someone calls `stop`, the loop polls a batch or
its poll raises, it processes the next record of the batch, or it sees that it was stopped. -/
inductive Label (E α : Type) where
  | produce (tp : TopicPartition) (r : ConsumerRecord)
  | requestStop
  | poll (batch : List (TopicPartition × List ConsumerRecord))
  | pollFails (e : Raised)
  | process (env : MessageEnv E α)
  | leave

/-- What `getmany` may return: for each partition the next records from its position on, at most
fifty in all. -/
def Fetches (s : Loop α) (batch : List (TopicPartition × List ConsumerRecord)) : Prop :=
  (batch.map (·.1)).Nodup ∧ (batch.map (·.2.length)).sum ≤ 50 ∧
    ∀ x ∈ batch, x.2 <+: (s.log x.1).filter fun r => decide (s.position x.1 ≤ r.offset)

instance {s : Loop α} {batch} : Decidable (Fetches s batch) :=
  inferInstanceAs (Decidable (_ ∧ _ ∧ _))

/-- The fetch position after a batch. -/
def positionAfter (s : Loop α) (batch : List (TopicPartition × List ConsumerRecord))
    (tp : TopicPartition) : Nat :=
  match (Dict.lookup tp batch).bind (·.getLast?) with
  | none => s.position tp
  | some r => r.offset + 1

/-- One step of the loop or of its surroundings. -/
def step (s : Loop α) : Label E α → Option (Loop α)
  | .produce tp r =>
    if ∀ x ∈ s.log tp, x.offset < r.offset then
      some { s with log := Function.update s.log tp (s.log tp ++ [r]) }
    else none
  | .requestStop => some { s with stopped := true }
  | .poll batch =>
    if s.healthy = true ∧ s.stopped = false ∧ s.pending = [] ∧ Fetches s batch then
      some { s with
        pending := batch.flatMap fun x => x.2.map fun r => (x.1, r)
        position := positionAfter s batch }
    else none
  | .pollFails _ =>
    if s.healthy = true ∧ s.stopped = false ∧ s.pending = [] then some { s with healthy := false }
    else none
  | .process env =>
    if s.healthy = true ∧ s.stopped = false then
      match s.pending with
      | [] => none
      | (tp, r) :: rest =>
        let (s', e) := processOne cfg env tp r { s with pending := rest }
        some { s' with healthy := e.isNone }
    else none
  | .leave =>
    if s.healthy = true ∧ s.stopped = true then some { s with healthy := false } else none

/-- The consume loop from its start: it resumes every partition from its committed offset. -/
def consumer : Machine (Loop α) (Label E α) where
  init s := (∀ tp, (s.log tp).Pairwise fun x y => x.offset < y.offset) ∧
    s.position = s.resumed ∧ s.committed = s.resumed ∧ s.pending = [] ∧ s.completed = [] ∧
    s.deadLetters = [] ∧ s.stopped = false ∧ s.healthy = true
  step := step cfg

end

end SentinelOps.Kafka
