import SentinelOps.Lib.Transition
import SentinelOps.Orders.Domain

/-!
# Orders and their events

The service and the topic it publishes to as one system. A request sleeps for the injected latency,
then runs until it awaits the broker (`World.handle`), and goes on when the broker has confirmed its
message or the wait has failed; meanwhile other requests are handled. A message whose request has
given up may still be written. What the system remembers of the requests (`answers`, `life`, those
of the running process, and `lost`) is its history, which no handler reads; a counter is the list of
the labels that were added to it.
-/

namespace SentinelOps.Orders

/-- A message of the topic. -/
structure Message where
  key : String
  headers : List (String × String)
  envelope : EventEnvelope
  deriving DecidableEq

/-- What the handler of a request meets on its way: what the generator draws, the ids, the clocks and
the trace. -/
structure Draws where
  requestDraw : ℚ := 1
  publishDraw : ℚ := 1
  orderId : String
  eventId : String
  createdAt : Instant := 0
  occurredAt : Instant := 0
  traceId : Option String := none
  contextHeaders : List (String × String) := []

/-- How a request is answered: 201 with the order, 500 for an injected failure, or 503 because the
event was not published, by injection or not. -/
inductive Answer where
  | created (order : Order)
  | simulatedFailure
  | notPublished (order : Order) (injected : Bool)
  deriving DecidableEq

/-- The status of an answer. -/
def Answer.status : Answer → ℕ
  | created _ => 201
  | simulatedFailure => 500
  | notPublished _ _ => 503

/-- The order that an answer accepts. -/
def Answer.accepted : Answer → Option Order
  | created order => some order
  | simulatedFailure | notPublished _ _ => none

/-- The order that an answer refuses although its event may have been sent. -/
def Answer.refused : Answer → Option Order
  | notPublished order false => some order
  | created _ | simulatedFailure | notPublished _ true => none

/-- The order that an answer refuses before its event is sent. -/
def Answer.withheld : Answer → Option Order
  | notPublished order true => some order
  | created _ | simulatedFailure | notPublished _ false => none

/-- The counters of `OrderMetrics`. -/
structure OrderMetrics where
  ordersCreated : List String := []
  orderRequestsFailed : List String := []
  publishTotal : List String := []
  failureInjection : List String := []
  deriving DecidableEq

/-- `orders_created.add`. -/
def OrderMetrics.created (metrics : OrderMetrics) (currency : String) : OrderMetrics :=
  { metrics with ordersCreated := metrics.ordersCreated ++ [currency] }

/-- `order_requests_failed.add`. -/
def OrderMetrics.failed (metrics : OrderMetrics) (reason : String) : OrderMetrics :=
  { metrics with orderRequestsFailed := metrics.orderRequestsFailed ++ [reason] }

/-- `publish_total.add`. -/
def OrderMetrics.published (metrics : OrderMetrics) (outcome : String) : OrderMetrics :=
  { metrics with publishTotal := metrics.publishTotal ++ [outcome] }

/-- `failure_injection.add`. -/
def OrderMetrics.injected (metrics : OrderMetrics) (kind : String) : OrderMetrics :=
  { metrics with failureInjection := metrics.failureInjection ++ [kind] }

/-- A request that awaits the broker, and whether its message is written. -/
structure Sending where
  order : Order
  message : Message
  written : Bool := false
  deriving DecidableEq

/-- A process of the service with its requests, and the topic. -/
structure World where
  injector : SimulationState
  started : Bool := false
  store : OrderStore := {}
  metrics : OrderMetrics := {}
  sleeping : List CreateOrderRequest := []
  sending : List Sending := []
  abandoned : List Message := []
  topic : List Message := []
  answers : List Answer := []
  life : List Answer := []
  lost : List Order := []

/-- A process that starts. -/
def World.boot (settings : Settings) : World where
  injector := settings.simulation

/-- The message about an order. -/
def messageOf (order : Order) (d : Draws) : Message :=
  let event := buildOrderCreatedEvent order d.traceId d.eventId d.occurredAt
  { key := order.orderId
    headers := d.contextHeaders ++ [("event-type", event.eventType), ("event-id", event.eventId)]
    envelope := event }

/-- The answer to a request. -/
def World.answer (w : World) (a : Answer) : World :=
  { w with answers := w.answers ++ [a], life := w.life ++ [a] }

/-- What is recorded when an event is not published. -/
def World.publishFailed (w : World) (order : Order) (injected : Bool) : World :=
  let metrics := w.metrics.published "failure"
  let metrics := if injected then metrics.injected "publish_error" else metrics
  { w with metrics := metrics.failed "publish_failed" }.answer (.notPublished order injected)

/-- What is recorded of the injected latency. -/
def World.slept (w : World) : World :=
  if 0 < w.injector.latencyMs then { w with metrics := w.metrics.injected "latency" } else w

/-- `create_order` from where it has slept until it awaits the broker or raises. -/
def World.handle (w : World) (payload : CreateOrderRequest) (d : Draws) : World :=
  let w := w.slept
  if w.injector.failsRequest d.requestDraw then
    { w with metrics := (w.metrics.injected "error").failed "simulated_error" }.answer
      .simulatedFailure
  else
    let order := Order.create payload d.orderId d.createdAt
    if w.injector.failsPublish d.publishDraw then w.publishFailed order true
    else if w.started then { w with sending := w.sending ++ [⟨order, messageOf order d, false⟩] }
    -- `publish` raises before anything is sent
    else w.publishFailed order false

/-- `create_order` after its message was confirmed. -/
def World.confirmed (w : World) (order : Order) : World :=
  { w with
    store := w.store.add order
    metrics := (w.metrics.published "success").created order.currency.text }.answer (.created order)

/-- The messages of requests that have not been written. -/
def unwritten (sending : List Sending) : List Message :=
  (sending.filter fun s => !s.written).map (·.message)

/-- The steps of the service and of the broker. -/
inductive Event where
  | start
  | stop
  | putSimulation (newState : SimulationState)
  | post (payload : CreateOrderRequest) (d : Draws)
  | wake (i : ℕ) (d : Draws)
  | write (i : ℕ)
  | confirm (i : ℕ)
  | fail (i : ℕ)
  | writeLate (i : ℕ)
  | restart

/-- One step. The broker confirms what it has written and writes a message once. A process that ends
answers nobody; its messages may be on their way. -/
def World.step (settings : Settings) (w : World) : Event → Option World
  | .start => some { w with started := true }
  | .stop => some { w with started := false }
  | .putSimulation newState =>
    if settings.adminEnabled then some { w with injector := newState } else some w
  | .post payload d =>
    some (if 0 < w.injector.latencyMs then { w with sleeping := w.sleeping ++ [payload] }
      else w.handle payload d)
  | .wake i d =>
    w.sleeping[i]?.map fun payload => { w with sleeping := w.sleeping.eraseIdx i }.handle payload d
  | .write i => do
    let s ← w.sending[i]?
    if s.written then none
    else some { w with
      topic := w.topic ++ [s.message]
      sending := w.sending.set i { s with written := true } }
  | .confirm i => do
    let s ← w.sending[i]?
    if s.written then some ({ w with sending := w.sending.eraseIdx i }.confirmed s.order) else none
  | .fail i =>
    w.sending[i]?.map fun s =>
      { w with
        sending := w.sending.eraseIdx i
        abandoned := w.abandoned ++ unwritten [s] }.publishFailed s.order false
  | .writeLate i =>
    w.abandoned[i]?.map fun m =>
      { w with topic := w.topic ++ [m], abandoned := w.abandoned.eraseIdx i }
  | .restart =>
    some
      { World.boot settings with
        abandoned := w.abandoned ++ unwritten w.sending
        topic := w.topic
        answers := w.answers
        lost := w.lost ++ w.sending.map (·.order) }

/-- The service and the broker. -/
def service (settings : Settings) : Machine World Event where
  init w := w = World.boot settings
  step := World.step settings

/-- `GET /orders/{order_id}`: the order, or 404. -/
def World.getOrder (w : World) (orderId : String) : Except ℕ Order :=
  (w.store.get orderId).elim (.error 404) .ok

/-- The orders whose events may have been sent. -/
def World.entrusted (w : World) : List Order :=
  w.sending.map (·.order) ++ w.answers.filterMap Answer.accepted ++
    w.answers.filterMap Answer.refused ++ w.lost

/-- The orders that there have been. -/
def World.orders (w : World) : List Order := w.entrusted ++ w.answers.filterMap Answer.withheld

/-- The random ids do not collide. -/
def Event.Fresh (w : World) : Event → Prop
  | .post _ d | .wake _ d => d.orderId ∉ w.orders.map (·.orderId)
  | _ => True

end SentinelOps.Orders
