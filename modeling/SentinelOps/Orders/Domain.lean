import SentinelOps.Lib.Fallible
import SentinelOps.Lib.PyText
import Mathlib.Algebra.Order.Ring.Rat
import Mathlib.Data.List.DropRight

/-!
# Orders

The demo application: its orders and the event about one, the bounded store of the last orders, the
injection of failures and the settings that guard it. An amount is a number of hundredths, a rate and
what the generator draws are rational numbers.
-/

namespace SentinelOps.Orders

/-- `Currency`. -/
inductive Currency where
  | INR
  | USD
  | EUR
  | GBP
  deriving DecidableEq

/-- The text of a currency. -/
def Currency.text : Currency → String
  | INR => "INR"
  | USD => "USD"
  | EUR => "EUR"
  | GBP => "GBP"

/-- `Amount`: twelve digits at most, two of them after the point. -/
structure Amount where
  hundredths : ℕ
  positive : 0 < hundredths
  digits : hundredths < 10 ^ 12
  deriving DecidableEq

/-- `f"{amount:.2f}"`. -/
def Amount.text (amount : Amount) : String := Py.fixed 2 (amount.hundredths / 100)

/-- `CreateOrderRequest`. -/
structure CreateOrderRequest where
  customerId : String
  amount : Amount
  currency : Currency := .INR
  customerIdLength : 1 ≤ customerId.length ∧ customerId.length ≤ 64
  deriving DecidableEq

/-- `Order`; its status never changes. -/
structure Order where
  orderId : String
  customerId : String
  amount : Amount
  currency : Currency
  createdAt : Instant
  deriving DecidableEq

/-- `Order.create`. -/
def Order.create (request : CreateOrderRequest) (orderId : String) (createdAt : Instant) : Order where
  orderId
  customerId := request.customerId
  amount := request.amount
  currency := request.currency
  createdAt

/-- `OrderCreatedPayload`. -/
structure OrderCreatedPayload where
  orderId : String
  customerId : String
  amount : String
  currency : String
  deriving DecidableEq

/-- The envelope of an event about an order. -/
structure EventEnvelope where
  eventId : String
  eventType : String
  eventVersion : Int
  occurredAt : Instant
  source : String
  traceId : Option String
  payload : OrderCreatedPayload
  deriving DecidableEq

/-- `EVENT_TYPE_ORDER_CREATED`. -/
def orderCreated : String := "order.created"

/-- `ORDER_CREATED_VERSION`. -/
def orderCreatedVersion : Int := 1

/-- `SERVICE_NAME`. -/
def serviceName : String := "orders-service"

/-- The payload about an order. -/
def payloadOf (order : Order) : OrderCreatedPayload where
  orderId := order.orderId
  customerId := order.customerId
  amount := order.amount.text
  currency := order.currency.text

/-- `build_order_created_event`. -/
def buildOrderCreatedEvent (order : Order) (traceId : Option String) (eventId : String)
    (occurredAt : Instant) : EventEnvelope where
  eventId
  eventType := orderCreated
  eventVersion := orderCreatedVersion
  occurredAt
  source := serviceName
  traceId
  payload := payloadOf order

/-- `OrderStore`: the orders by their id, the one that was added last at the end. -/
structure OrderStore where
  orders : List Order := []
  maxSize : ℕ := 1000

/-- `popitem(last=False)` while there are too many orders. -/
def evict (maxSize : ℕ) : List Order → List Order
  | [] => []
  | order :: orders =>
    if maxSize < (order :: orders).length then evict maxSize orders else order :: orders

/-- `add`: the order goes to the end, and as many orders as are too many go from the front. -/
def OrderStore.add (store : OrderStore) (order : Order) : OrderStore :=
  { store with
    orders := evict store.maxSize
      ((store.orders.filter fun o => o.orderId ≠ order.orderId) ++ [order]) }

/-- `get`. -/
def OrderStore.get (store : OrderStore) (orderId : String) : Option Order :=
  store.orders.find? fun o => o.orderId = orderId

/-- `SimulationState`. -/
structure SimulationState where
  latencyMs : ℕ := 0
  errorRate : ℚ := 0
  publishErrorRate : ℚ := 0
  latencyMs_le : latencyMs ≤ 60000 := by decide
  errorRate_mem : 0 ≤ errorRate ∧ errorRate ≤ 1 := by decide
  publishErrorRate_mem : 0 ≤ publishErrorRate ∧ publishErrorRate ≤ 1 := by decide
  deriving DecidableEq

/-- `any_injection_enabled`, and `enabled` of a state. -/
def SimulationState.enabled (state : SimulationState) : Bool :=
  0 < state.latencyMs || 0 < state.errorRate || 0 < state.publishErrorRate

/-- `maybe_fail_request`, given what the generator draws; true where it raises. -/
def SimulationState.failsRequest (state : SimulationState) (draw : ℚ) : Bool :=
  0 < state.errorRate && draw < state.errorRate

/-- `maybe_fail_publish`. -/
def SimulationState.failsPublish (state : SimulationState) (draw : ℚ) : Bool :=
  0 < state.publishErrorRate && draw < state.publishErrorRate

/-- The settings of the process that decide which failures are injected. -/
structure Settings where
  env : String := "development"
  simulation : SimulationState := {}
  simAdminEnabled : Bool := true

/-- `validate_for_env`. -/
def Settings.validateForEnv (settings : Settings) : Except String Unit :=
  if settings.env = "production" then do
    ensure (settings.simulation.enabled = false)
      "Failure injection (ORDERS_SIMULATE_*) must not be enabled when APP_ENV=production. Refusing to start."
    ensure (settings.simAdminEnabled = false)
      "The /admin/simulation endpoint must be disabled when APP_ENV=production. Set ORDERS_SIM_ADMIN_ENABLED=false."
  else .ok ()

/-- Whether `create_app` mounts the routes that adjust the injection. -/
def Settings.adminEnabled (settings : Settings) : Bool :=
  settings.simAdminEnabled && settings.env ≠ "production"

section
variable {store : OrderStore} {order : Order} {orders : List Order} {n : ℕ}

/-- What is left after the oldest orders are dropped. -/
lemma evict_eq_rtake : evict n orders = orders.rtake n := by
  induction orders with
  | nil => simp [evict]
  | cons order orders ih =>
    unfold evict
    split_ifs with tooMany
    · rw [ih, List.rtake, List.rtake, List.length_cons]
      rw [List.length_cons] at tooMany
      rw [Nat.succ_sub (by omega), List.drop_succ_cons]
    · rw [List.rtake, Nat.sub_eq_zero_of_le (not_lt.mp tooMany), List.drop_zero]

/-- A state in which nothing is injected. -/
lemma enabled_eq_false {state : SimulationState} :
    state.enabled = false ↔ state.latencyMs = 0 ∧ state.errorRate = 0 ∧ state.publishErrorRate = 0 := by
  unfold SimulationState.enabled
  simp only [Bool.or_eq_false_iff, decide_eq_false_iff_not, not_lt, Nat.le_zero, and_assoc,
    le_antisymm_iff (a := state.errorRate), le_antisymm_iff (a := state.publishErrorRate),
    state.errorRate_mem.1, state.publishErrorRate_mem.1, and_true]

end

end SentinelOps.Orders
