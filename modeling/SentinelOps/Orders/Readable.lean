import SentinelOps.Orders.Durable

/-!
# The orders that can be read

The store holds the orders that the running process accepted last (`latest_readable`), so what can
be read was published.
-/

namespace SentinelOps.Orders

variable {settings : Settings} {w w' : World} {order : Order} {d : Draws} {e : Event}

/-- The last elements of a list with one more at its end. -/
lemma rtake_append {l : List Order} {n : ℕ} : (l.rtake n ++ [order]).rtake n = (l ++ [order]).rtake n := by
  simp only [List.rtake_eq_reverse_take_reverse, List.reverse_append, List.reverse_reverse,
    List.reverse_singleton, List.singleton_append]
  cases n with
  | zero => rfl
  | succ n => rw [List.take_succ_cons, List.take_succ_cons, List.take_take, Nat.min_eq_left n.le_succ]

/-- What is left after an order with a new id is added. -/
lemma add_orders {store : OrderStore} (new : ∀ o ∈ store.orders, o.orderId ≠ order.orderId) :
    (store.add order).orders = (store.orders ++ [order]).rtake store.maxSize := by
  unfold OrderStore.add
  rw [evict_eq_rtake, List.filter_eq_self.mpr fun o mem => decide_eq_true (new o mem)]

/-- What `get_order` answers, where no two orders have one id. -/
lemma getOrder_eq_ok (ids : (w.store.orders.map (·.orderId)).Nodup) {orderId : String} :
    w.getOrder orderId = .ok order ↔ order ∈ w.store.orders ∧ order.orderId = orderId := by
  unfold World.getOrder OrderStore.get
  constructor
  · intro answered
    cases found : w.store.orders.find? fun o => o.orderId = orderId with
    | none =>
      rw [found] at answered
      cases answered
    | some other =>
      rw [found] at answered
      cases answered
      exact ⟨List.mem_of_find?_eq_some found, by simpa using List.find?_some found⟩
  · rintro ⟨mem, rfl⟩
    cases found : w.store.orders.find? fun o => o.orderId = order.orderId with
    | none => exact absurd (decide_eq_true rfl) (List.find?_eq_none.mp found order mem)
    | some other =>
      have same : other.orderId = order.orderId := by simpa using List.find?_some found
      rw [List.inj_on_of_nodup_map ids (List.mem_of_find?_eq_some found) mem same]
      rfl

/-- What the store of the running process holds. -/
structure Kept (w : World) : Prop where
  maxSize : w.store.maxSize = 1000
  orders : w.store.orders = (w.life.filterMap Answer.accepted).rtake 1000
  life : ∃ earlier, w.answers = earlier ++ w.life

/-- Counting changes nothing in the store. -/
lemma Kept.counted (h : Kept w) (metrics : OrderMetrics) : Kept { w with metrics } :=
  ⟨h.maxSize, h.orders, h.life⟩

/-- An answer that accepts nothing leaves the store as it is. -/
lemma Kept.answer (h : Kept w) {a : Answer} (nothing : a.accepted = none) : Kept (w.answer a) where
  maxSize := h.maxSize
  orders := by
    show w.store.orders = ((w.life ++ [a]).filterMap Answer.accepted).rtake 1000
    rw [List.filterMap_append, List.filterMap_cons, nothing, List.filterMap_nil, List.append_nil]
    exact h.orders
  life := by
    obtain ⟨earlier, all⟩ := h.life
    refine ⟨earlier, ?_⟩
    show w.answers ++ [a] = earlier ++ (w.life ++ [a])
    rw [all, List.append_assoc]

/-- A confirmed order with a new id is added to the store. -/
lemma Kept.confirmed (h : Kept w)
    (new : ∀ o ∈ w.answers.filterMap Answer.accepted, o.orderId ≠ order.orderId) :
    Kept (w.confirmed order) where
  maxSize := h.maxSize
  orders := by
    obtain ⟨earlier, all⟩ := h.life
    -- so `add` moves nothing to the end
    have unstored : ∀ o ∈ w.store.orders, o.orderId ≠ order.orderId := by
      intro o mem
      rw [h.orders] at mem
      refine new o ?_
      rw [all, List.filterMap_append]
      exact List.mem_append_right _ (List.mem_of_mem_drop mem)
    show (w.store.add order).orders =
      ((w.life ++ [Answer.created order]).filterMap Answer.accepted).rtake 1000
    rw [add_orders unstored, h.orders, h.maxSize, rtake_append, List.filterMap_append]
    rfl
  life := by
    obtain ⟨earlier, all⟩ := h.life
    refine ⟨earlier, ?_⟩
    show w.answers ++ [Answer.created order] = earlier ++ (w.life ++ [Answer.created order])
    rw [all, List.append_assoc]

/-- The handler of a request leaves the store as it is. -/
lemma Kept.handle (h : Kept w) (payload : CreateOrderRequest) : Kept (w.handle payload d) := by
  obtain ⟨metrics, done⟩ | ⟨metrics, injected, done⟩ | ⟨metrics, done⟩ :=
    handle_cases (w := w) (d := d) payload
  · rw [done]
    exact (h.counted metrics).answer rfl
  · rw [done]
    exact (h.counted metrics).answer rfl
  · rw [done]
    exact ⟨h.maxSize, h.orders, h.life⟩

/-- The accepted orders have different ids. -/
lemma Published.accepted_ids (h : Published w) :
    ((w.answers.filterMap Answer.accepted).map (·.orderId)).Nodup := by
  have ids := h.ids
  simp only [World.orders, World.entrusted, List.map_append, List.nodup_append] at ids
  exact ids.1.1.1.2.1

/-- Every step keeps what the store holds. -/
lemma Kept.step (h : Kept w) (published : Published w') (st : w.step settings e = some w') :
    Kept w' := by
  cases e with
  | start | stop =>
    cases st
    exact ⟨h.maxSize, h.orders, h.life⟩
  | putSimulation newState =>
    simp only [World.step] at st
    split_ifs at st <;> cases st <;> exact ⟨h.maxSize, h.orders, h.life⟩
  | post payload d =>
    simp only [World.step] at st
    split_ifs at st <;> cases st
    · exact ⟨h.maxSize, h.orders, h.life⟩
    · exact h.handle payload
  | wake i d =>
    obtain ⟨payload, -, rfl⟩ := Option.map_eq_some_iff.mp st
    have awake : Kept { w with sleeping := w.sleeping.eraseIdx i } :=
      ⟨h.maxSize, h.orders, h.life⟩
    exact awake.handle payload
  | write i =>
    obtain ⟨s, -, -, rfl⟩ := step_write st
    exact ⟨h.maxSize, h.orders, h.life⟩
  | confirm i =>
    obtain ⟨s, -, -, rfl⟩ := step_confirm st
    -- the id of the order is new because the ids of the next state are apart
    have apart : ((w.answers.filterMap Answer.accepted ++ [s.order]).map (·.orderId)).Nodup := by
      have ids := published.accepted_ids
      unfold World.confirmed World.answer at ids
      rw [List.filterMap_append] at ids
      exact ids
    rw [List.map_append, List.nodup_append] at apart
    have alone : Kept { w with sending := w.sending.eraseIdx i } :=
      ⟨h.maxSize, h.orders, h.life⟩
    exact alone.confirmed fun o mem =>
      apart.2.2 _ (List.mem_map_of_mem mem) _ (List.mem_singleton_self _)
  | fail i =>
    obtain ⟨s, -, rfl⟩ := Option.map_eq_some_iff.mp st
    have alone : Kept { w with
        sending := w.sending.eraseIdx i
        abandoned := w.abandoned ++ unwritten [s] } :=
      ⟨h.maxSize, h.orders, h.life⟩
    unfold World.publishFailed
    exact (alone.counted _).answer rfl
  | writeLate i =>
    obtain ⟨m, -, rfl⟩ := Option.map_eq_some_iff.mp st
    exact ⟨h.maxSize, h.orders, h.life⟩
  | restart =>
    cases st
    exact ⟨rfl, (List.rtake_nil 1000).symm, w.answers, (List.append_nil _).symm⟩

/-- Over every run in which ids do not collide, `get_order` returns the last thousand orders that the
running process accepted, each under its own id, and no others; the event about each is on the
topic. -/
theorem latest_readable {events : List Event}
    (run : (service settings).Run (World.boot settings) events w)
    (fresh : (service settings).EachStep (fun u e _ => e.Fresh u) (World.boot settings) events) :
    (∀ orderId order, w.getOrder orderId = .ok order ↔
      order ∈ (w.life.filterMap Answer.accepted).rtake 1000 ∧ order.orderId = orderId) ∧
    ∀ orderId order, w.getOrder orderId = .ok order → ∃ m ∈ w.topic, m.Announces order := by
  have both : Published w ∧ Kept w := by
    refine run.invariant_of (I := fun u => Published u ∧ Kept u) fresh ?_
      ⟨published_boot, rfl, (List.rtake_nil 1000).symm, [], rfl⟩
    rintro u e u' ⟨published, kept⟩ fresh st
    have next := published.step fresh st
    exact ⟨next, kept.step next st⟩
  obtain ⟨published, kept⟩ := both
  obtain ⟨earlier, all⟩ := kept.life
  have stored : w.store.orders.Sublist (w.answers.filterMap Answer.accepted) := by
    rw [kept.orders, all, List.filterMap_append]
    exact (List.drop_sublist _ _).trans (List.sublist_append_right _ _)
  have ids := published.accepted_ids.sublist (stored.map _)
  refine ⟨?_, ?_⟩
  · intro orderId order
    rw [getOrder_eq_ok ids, kept.orders]
  · intro orderId order answered
    exact published.accepted (stored.subset ((getOrder_eq_ok ids).mp answered).1)

theorem latest_readable_late : ∃ w : World, (w.getOrder "o-2").toBool = true ∧
    ∀ orderId order, w.getOrder orderId = .ok order → ∃ m ∈ w.topic, m.Announces order := by
  obtain ⟨w, run, -, -, readable, fresh⟩ := lateEvent_run
  exact ⟨w, readable, (latest_readable run fresh).2⟩

end SentinelOps.Orders
