import SentinelOps.Orders.Durable

/-!
# Counters and injected failures

The counters of the running process are the tally of what it answered, in order
(`counters_tally`). In a production process nothing is ever injected: it answers with the order or
because an event was not published (`production_never_injects`).
-/

namespace SentinelOps.Orders

/-- The reason for which a request failed. -/
def Answer.reason : Answer → Option String
  | created _ => none
  | simulatedFailure => some "simulated_error"
  | notPublished _ _ => some "publish_failed"

/-- The outcome of publishing. -/
def Answer.outcome : Answer → Option String
  | created _ => some "success"
  | simulatedFailure => none
  | notPublished _ _ => some "failure"

/-- The failure that was injected. -/
def Answer.injection : Answer → Option String
  | simulatedFailure => some "error"
  | notPublished _ true => some "publish_error"
  | created _ | notPublished _ false => none

variable {settings : Settings} {w w' : World} {order : Order} {d : Draws} {e : Event}

/-- The counters are the tally of the answers. -/
structure Counted (w : World) : Prop where
  created : w.metrics.ordersCreated = (w.life.filterMap Answer.accepted).map (·.currency.text)
  failed : w.metrics.orderRequestsFailed = w.life.filterMap Answer.reason
  published : w.metrics.publishTotal = w.life.filterMap Answer.outcome
  injected : w.metrics.failureInjection.filter (· ≠ "latency") = w.life.filterMap Answer.injection

/-- The latency is counted apart. -/
lemma Counted.slept (h : Counted w) : Counted w.slept := by
  unfold World.slept
  split_ifs
  · refine ⟨h.created, h.failed, h.published, ?_⟩
    show (w.metrics.failureInjection ++ ["latency"]).filter (· ≠ "latency") = _
    rw [List.filter_append, h.injected]
    exact List.append_nil _
  · exact h

/-- A failed publication is counted. -/
lemma Counted.publishFailed (h : Counted w) (injected : Bool) :
    Counted (w.publishFailed order injected) := by
  cases injected <;>
  exact
    { created := by
        simp [World.publishFailed, World.answer, OrderMetrics.published, OrderMetrics.injected,
          OrderMetrics.failed, Answer.accepted, h.created]
      failed := by
        simp [World.publishFailed, World.answer, OrderMetrics.published, OrderMetrics.injected,
          OrderMetrics.failed, Answer.reason, h.failed]
      published := by
        simp [World.publishFailed, World.answer, OrderMetrics.published, OrderMetrics.injected,
          OrderMetrics.failed, Answer.outcome, h.published]
      injected := by
        simp [World.publishFailed, World.answer, OrderMetrics.published, OrderMetrics.injected,
          OrderMetrics.failed, Answer.injection, ← h.injected] }

/-- An injected failure is counted. -/
lemma Counted.simulatedFailure (h : Counted w) :
    Counted ({ w with metrics := (w.metrics.injected "error").failed "simulated_error" }.answer
      .simulatedFailure) where
  created := by
    simp [World.answer, OrderMetrics.injected, OrderMetrics.failed, Answer.accepted, h.created]
  failed := by
    simp [World.answer, OrderMetrics.injected, OrderMetrics.failed, Answer.reason, h.failed]
  published := by
    simp [World.answer, OrderMetrics.injected, OrderMetrics.failed, Answer.outcome, h.published]
  injected := by
    simp [World.answer, OrderMetrics.injected, OrderMetrics.failed, Answer.injection, ← h.injected]

/-- An accepted order is counted. -/
lemma Counted.confirmed (h : Counted w) : Counted (w.confirmed order) where
  created := by
    simp [World.confirmed, World.answer, OrderMetrics.published, OrderMetrics.created,
      Answer.accepted, h.created]
  failed := by
    simp [World.confirmed, World.answer, OrderMetrics.published, OrderMetrics.created,
      Answer.reason, h.failed]
  published := by
    simp [World.confirmed, World.answer, OrderMetrics.published, OrderMetrics.created,
      Answer.outcome, h.published]
  injected := by
    simp [World.confirmed, World.answer, OrderMetrics.published, OrderMetrics.created,
      Answer.injection, ← h.injected]

/-- The handler of a request keeps the tally. -/
lemma Counted.handle (h : Counted w) (payload : CreateOrderRequest) :
    Counted (w.handle payload d) := by
  have slept := h.slept
  unfold World.handle
  dsimp only
  split_ifs
  · exact slept.simulatedFailure
  · exact slept.publishFailed true
  · exact ⟨slept.created, slept.failed, slept.published, slept.injected⟩
  · exact slept.publishFailed false

/-- Every step keeps the tally. -/
lemma Counted.step (h : Counted w) (st : w.step settings e = some w') : Counted w' := by
  cases e with
  | start | stop =>
    cases st
    exact ⟨h.created, h.failed, h.published, h.injected⟩
  | putSimulation newState =>
    simp only [World.step] at st
    split_ifs at st <;> cases st <;> exact ⟨h.created, h.failed, h.published, h.injected⟩
  | post payload d =>
    simp only [World.step] at st
    split_ifs at st <;> cases st
    · exact ⟨h.created, h.failed, h.published, h.injected⟩
    · exact h.handle payload
  | wake i d =>
    obtain ⟨payload, -, rfl⟩ := Option.map_eq_some_iff.mp st
    have awake : Counted { w with sleeping := w.sleeping.eraseIdx i } :=
      ⟨h.created, h.failed, h.published, h.injected⟩
    exact awake.handle payload
  | write i =>
    obtain ⟨s, -, -, rfl⟩ := step_write st
    exact ⟨h.created, h.failed, h.published, h.injected⟩
  | confirm i =>
    obtain ⟨s, -, -, rfl⟩ := step_confirm st
    have alone : Counted { w with sending := w.sending.eraseIdx i } :=
      ⟨h.created, h.failed, h.published, h.injected⟩
    exact alone.confirmed
  | fail i =>
    obtain ⟨s, -, rfl⟩ := Option.map_eq_some_iff.mp st
    have alone : Counted { w with
        sending := w.sending.eraseIdx i
        abandoned := w.abandoned ++ unwritten [s] } :=
      ⟨h.created, h.failed, h.published, h.injected⟩
    exact alone.publishFailed false
  | writeLate i =>
    obtain ⟨m, -, rfl⟩ := Option.map_eq_some_iff.mp st
    exact ⟨h.created, h.failed, h.published, h.injected⟩
  | restart =>
    cases st
    exact ⟨rfl, rfl, rfl, rfl⟩

/-- In every reachable state the counters of the running process are the tally of what it has
answered: an order for each 201, a reason for each 500 and 503, an outcome for each publication that
was tried, and apart from the latency a kind for each failure that was injected. -/
theorem counters_tally (h : (service settings).Reachable w) :
    w.metrics.ordersCreated = (w.life.filterMap Answer.accepted).map (·.currency.text) ∧
    w.metrics.orderRequestsFailed = w.life.filterMap Answer.reason ∧
    w.metrics.publishTotal = w.life.filterMap Answer.outcome ∧
    w.metrics.failureInjection.filter (· ≠ "latency") = w.life.filterMap Answer.injection := by
  have counted : Counted w := by
    refine h.invariant ?_ fun _ _ _ counted st => counted.step st
    rintro u rfl
    exact ⟨rfl, rfl, rfl, rfl⟩
  exact ⟨counted.created, counted.failed, counted.published, counted.injected⟩

theorem counters_tally_late : ∃ w : World, (w.answers.filterMap Answer.accepted).length = 1 ∧
    w.metrics.publishTotal = w.life.filterMap Answer.outcome := by
  obtain ⟨w, run, -, accepted, -⟩ := lateEvent_run
  obtain ⟨-, -, published, -⟩ := counters_tally ⟨_, _, rfl, run⟩
  exact ⟨w, accepted, published⟩

/-- The settings with which a production process starts. -/
lemma validateForEnv_eq_ok (env : settings.env = "production") :
    settings.validateForEnv = .ok () ↔
      settings.simulation.enabled = false ∧ settings.simAdminEnabled = false := by
  unfold Settings.validateForEnv
  rw [if_pos env, Except.bind_eq_ok]
  constructor
  · rintro ⟨_, first, second⟩
    exact ⟨ensure_eq_ok.mp first, ensure_eq_ok.mp second⟩
  · rintro ⟨disabled, unmounted⟩
    exact ⟨(), ensure_eq_ok.mpr disabled, ensure_eq_ok.mpr unmounted⟩

/-- Nothing is injected and nothing was. -/
structure Quiet (w : World) : Prop where
  injector : w.injector.enabled = false
  sleeping : w.sleeping = []
  metrics : w.metrics.failureInjection = []
  answers : ∀ a ∈ w.answers, a.injection = none

/-- The handler of a request where nothing is injected. -/
lemma handle_of_disabled (disabled : w.injector.enabled = false) (payload : CreateOrderRequest) :
    w.handle payload d =
      if w.started then { w with
        sending := w.sending ++ [⟨.create payload d.orderId d.createdAt,
          messageOf (.create payload d.orderId d.createdAt) d, false⟩] }
      else w.publishFailed (.create payload d.orderId d.createdAt) false := by
  obtain ⟨latency, error, publish⟩ := enabled_eq_false.mp disabled
  have slept : w.slept = w := by
    unfold World.slept
    rw [latency, if_neg (lt_irrefl 0)]
  unfold World.handle SimulationState.failsRequest SimulationState.failsPublish
  dsimp only
  rw [slept, error, publish]
  rfl

/-- An event that is not published is no injected failure. -/
lemma Quiet.publishFailed (h : Quiet w) : Quiet (w.publishFailed order false) where
  injector := h.injector
  sleeping := h.sleeping
  metrics := h.metrics
  answers := by
    intro a mem
    obtain before | new := List.mem_append.mp mem
    · exact h.answers a before
    · cases List.mem_singleton.mp new
      rfl

/-- Every step of a production process keeps quiet. -/
lemma Quiet.step (h : Quiet w) (disabled : settings.simulation.enabled = false)
    (unmounted : settings.adminEnabled = false) (st : w.step settings e = some w') : Quiet w' := by
  cases e with
  | start | stop =>
    cases st
    exact ⟨h.injector, h.sleeping, h.metrics, h.answers⟩
  | putSimulation newState =>
    simp only [World.step, unmounted] at st
    cases st
    exact h
  | post payload d =>
    have noLatency := (enabled_eq_false.mp h.injector).1
    simp only [World.step, noLatency, lt_irrefl, if_false] at st
    cases st
    rw [handle_of_disabled h.injector]
    split_ifs
    · exact ⟨h.injector, h.sleeping, h.metrics, h.answers⟩
    · exact h.publishFailed
  | wake i d =>
    simp only [World.step, h.sleeping, List.getElem?_nil, Option.map_none] at st
    cases st
  | write i =>
    obtain ⟨s, -, -, rfl⟩ := step_write st
    exact ⟨h.injector, h.sleeping, h.metrics, h.answers⟩
  | confirm i =>
    obtain ⟨s, -, -, rfl⟩ := step_confirm st
    refine ⟨h.injector, h.sleeping, h.metrics, ?_⟩
    intro a mem
    obtain before | new := List.mem_append.mp mem
    · exact h.answers a before
    · cases List.mem_singleton.mp new
      rfl
  | fail i =>
    obtain ⟨s, -, rfl⟩ := Option.map_eq_some_iff.mp st
    have alone : Quiet { w with
        sending := w.sending.eraseIdx i
        abandoned := w.abandoned ++ unwritten [s] } :=
      ⟨h.injector, h.sleeping, h.metrics, h.answers⟩
    exact alone.publishFailed
  | writeLate i =>
    obtain ⟨m, -, rfl⟩ := Option.map_eq_some_iff.mp st
    exact ⟨h.injector, h.sleeping, h.metrics, h.answers⟩
  | restart =>
    cases st
    exact ⟨disabled, rfl, rfl, h.answers⟩

/-- A process that starts under `production` never injects a failure, whatever requests it gets and
whenever it is started again: no injected failure or latency is ever counted, and every request is
answered with the order or because its event was not published. -/
theorem production_never_injects (env : settings.env = "production")
    (valid : settings.validateForEnv = .ok ()) (h : (service settings).Reachable w) :
    w.metrics.failureInjection = [] ∧
    ∀ a ∈ w.answers, (∃ order, a = .created order) ∨ ∃ order, a = .notPublished order false := by
  -- the check at startup excludes both ways to inject: the settings and the admin routes
  obtain ⟨disabled, noAdmin⟩ := (validateForEnv_eq_ok env).mp valid
  have unmounted : settings.adminEnabled = false := by
    rw [Settings.adminEnabled, noAdmin, Bool.false_and]
  have quiet : Quiet w := by
    refine h.invariant ?_ fun _ _ _ quiet st => quiet.step disabled unmounted st
    rintro u rfl
    exact ⟨disabled, rfl, rfl, nofun⟩
  refine ⟨quiet.metrics, ?_⟩
  intro a mem
  have uninjected := quiet.answers a mem
  cases a with
  | created order => exact .inl ⟨order, rfl⟩
  | simulatedFailure => cases uninjected
  | notPublished order injected =>
    cases injected with
    | true => cases uninjected
    | false => exact .inr ⟨order, rfl⟩

theorem production_never_injects_late : ∃ w : World, w.topic.length = 2 ∧
    w.metrics.failureInjection = [] := by
  obtain ⟨w, run, topic, -⟩ := lateEvent_run
  exact ⟨w, topic, (production_never_injects rfl (by decide) ⟨_, _, rfl, run⟩).1⟩

end SentinelOps.Orders
