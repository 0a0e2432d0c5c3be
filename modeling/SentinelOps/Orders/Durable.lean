import SentinelOps.Lib.Publication
import SentinelOps.Orders.Service

/-!
# Fail-closed publishing

`World.publication` is the service as an instance of publishing before answering, by the ids of the
orders; every step is one of its steps (`step_refines`). So, over any run in which ids do not
collide, an accepted order has its event on the topic, whatever the broker does and whenever the
process ends (`accepted_published`).
-/

namespace SentinelOps.Orders

/-- A request that awaits the broker, by the id of its order. -/
def Sending.state (s : Sending) : String × Bool := (s.order.orderId, s.written)

/-- The service by the ids of its orders. -/
def World.publication (w : World) : Publication String where
  waiting := (w.sending.map Sending.state : List (String × Bool))
  abandoned := (w.abandoned.map (·.key) : List String)
  log := (w.topic.map (·.key) : List String)
  accepted := ((w.answers.filterMap Answer.accepted).map (·.orderId) : List String)
  refused := ((w.answers.filterMap Answer.refused).map (·.orderId) : List String)
  withheld := ((w.answers.filterMap Answer.withheld).map (·.orderId) : List String)
  lost := (w.lost.map (·.orderId) : List String)

/-- A message is the event about an order. -/
structure Message.Announces (m : Message) (order : Order) : Prop where
  key : m.key = order.orderId
  eventType : m.envelope.eventType = orderCreated
  payload : m.envelope.payload = payloadOf order

/-- Every message is the event about an order. -/
structure Described (w : World) : Prop where
  sending : ∀ s ∈ w.sending, s.message.Announces s.order
  messages : ∀ m ∈ w.topic ++ w.abandoned, ∃ order ∈ w.entrusted, m.Announces order

variable {settings : Settings} {w w' : World} {order : Order} {d : Draws} {e : Event}

/-- The message about an order. -/
lemma announces_messageOf : (messageOf order d).Announces order := ⟨rfl, rfl, rfl⟩

/-- The ids of the orders that may have been sent. -/
lemma entrusted_publication :
    w.publication.entrusted = ((w.entrusted.map (·.orderId) : List String) : Multiset String) := by
  simp [Publication.entrusted, World.publication, World.entrusted, Function.comp_def, Sending.state]

/-- The ids of all orders. -/
lemma taken_publication :
    w.publication.taken = ((w.orders.map (·.orderId) : List String) : Multiset String) := by
  rw [Publication.taken, entrusted_publication, World.orders, List.map_append, ← Multiset.coe_add]
  rfl

/-- Messages that have not been written, by the ids of their orders. -/
lemma unwritten_publication {sending : List Sending}
    (described : ∀ s ∈ sending, s.message.Announces s.order) :
    Publication.unwritten ((sending.map Sending.state : List (String × Bool)) : Multiset _) =
      (((unwritten sending).map (·.key) : List String) : Multiset String) := by
  induction sending with
  | nil => rfl
  | cons s sending ih =>
    obtain ⟨here, later⟩ := List.forall_mem_cons.mp described
    have rest := ih later
    rw [List.map_cons, ← Multiset.cons_coe, Sending.state]
    cases written : s.written with
    | true =>
      rw [Publication.unwritten_cons_true, rest, unwritten, unwritten, List.filter_cons, written]
      rfl
    | false =>
      rw [Publication.unwritten_cons_false, rest, unwritten, unwritten, List.filter_cons, written,
        ← here.key]
      rfl

/-- Messages that nobody waits for any more. -/
lemma abandoned_publication (abandoned : List Message) {sending : List Sending}
    (described : ∀ s ∈ sending, s.message.Announces s.order) :
    (((abandoned ++ unwritten sending).map (·.key) : List String) : Multiset String) =
      Publication.unwritten ((sending.map Sending.state : List (String × Bool)) : Multiset _) +
        ((abandoned.map (·.key) : List String) : Multiset String) := by
  rw [unwritten_publication described, List.map_append, ← Multiset.coe_add, add_comm]

/-- What the handler of a request does before it awaits the broker. -/
lemma handle_cases (payload : CreateOrderRequest) :
    (∃ metrics, w.handle payload d = { w with metrics }.answer .simulatedFailure) ∨
    (∃ metrics injected, w.handle payload d = { w with metrics }.answer
      (.notPublished (.create payload d.orderId d.createdAt) injected)) ∨
    ∃ metrics, w.handle payload d = { w with
      metrics
      sending := w.sending ++ [⟨.create payload d.orderId d.createdAt,
        messageOf (.create payload d.orderId d.createdAt) d, false⟩] } := by
  have slept : ∃ metrics, w.slept = { w with metrics } := by
    unfold World.slept
    split_ifs
    · exact ⟨_, rfl⟩
    · exact ⟨w.metrics, rfl⟩
  obtain ⟨metrics, same⟩ := slept
  unfold World.handle
  rw [same]
  dsimp only
  split_ifs
  · exact .inl ⟨_, rfl⟩
  · exact .inr (.inl ⟨_, true, rfl⟩)
  · exact .inr (.inr ⟨_, rfl⟩)
  · exact .inr (.inl ⟨_, false, rfl⟩)

/-- The ids of the orders that a kind of answer is about, after one more answer. -/
lemma coe_filterMap_answer {g : Answer → Option Order} {answers : List Answer} {a : Answer} :
    ((((answers ++ [a]).filterMap g).map (·.orderId) : List String) : Multiset String) =
      (g a).elim (((answers.filterMap g).map (·.orderId) : List String) : Multiset String)
        fun o => o.orderId ::ₘ (((answers.filterMap g).map (·.orderId) : List String) : Multiset _) := by
  rw [List.filterMap_append]
  cases kind : g a with
  | none => rw [List.filterMap_cons, kind, List.filterMap_nil, List.append_nil, Option.elim_none]
  | some o => rw [List.filterMap_cons, kind, List.filterMap_nil, coe_map_append_singleton, Option.elim_some]

/-- What an answer does to the publication. -/
lemma answer_publication (a : Answer) : (w.answer a).publication =
    { w.publication with
      accepted := a.accepted.elim w.publication.accepted (·.orderId ::ₘ w.publication.accepted)
      refused := a.refused.elim w.publication.refused (·.orderId ::ₘ w.publication.refused)
      withheld := a.withheld.elim w.publication.withheld (·.orderId ::ₘ w.publication.withheld) } := by
  unfold World.publication World.answer
  dsimp only
  rw [coe_filterMap_answer, coe_filterMap_answer, coe_filterMap_answer]

/-- What the handler of a request does to the publication. -/
lemma handle_refines (payload : CreateOrderRequest)
    (fresh : d.orderId ∉ w.orders.map (·.orderId)) :
    w.publication.Step (w.handle payload d).publication := by
  have fresh' : d.orderId ∉ w.publication.taken := by
    rw [taken_publication]
    exact fresh
  obtain ⟨metrics, done⟩ | ⟨metrics, injected, done⟩ | ⟨metrics, done⟩ :=
    handle_cases (w := w) (d := d) payload
  · rw [done, answer_publication]
    exact .idle
  · rw [done, answer_publication]
    cases injected with
    | true => exact .withhold fresh'
    | false => exact .refuse fresh'
  · have handed : (w.handle payload d).publication =
        { w.publication with waiting := (d.orderId, false) ::ₘ w.publication.waiting } := by
      rw [done]
      unfold World.publication
      dsimp only
      rw [coe_map_append_singleton]
      rfl
    rw [handed]
    exact .hand fresh'

/-- The broker writes a message that awaits it. -/
lemma step_write {i : ℕ} (st : w.step settings (.write i) = some w') :
    ∃ s, w.sending[i]? = some s ∧ s.written = false ∧ w' = { w with
      topic := w.topic ++ [s.message]
      sending := w.sending.set i { s with written := true } } := by
  obtain ⟨s, at_i, st⟩ := Option.bind_eq_some_iff.mp st
  split_ifs at st with written
  cases st
  exact ⟨s, at_i, (Bool.not_eq_true _).mp written, rfl⟩

/-- The broker confirms a message that it has written. -/
lemma step_confirm {i : ℕ} (st : w.step settings (.confirm i) = some w') :
    ∃ s, w.sending[i]? = some s ∧ s.written = true ∧
      w' = { w with sending := w.sending.eraseIdx i }.confirmed s.order := by
  obtain ⟨s, at_i, st⟩ := Option.bind_eq_some_iff.mp st
  split_ifs at st with written
  cases st
  exact ⟨s, at_i, written, rfl⟩

/-- Every step of the service is a step of publishing before answering. -/
theorem step_refines (described : Described w) (fresh : e.Fresh w)
    (st : w.step settings e = some w') : w.publication.Step w'.publication := by
  cases e with
  | start | stop =>
    cases st
    exact .idle
  | putSimulation newState =>
    simp only [World.step] at st
    split_ifs at st <;> cases st <;> exact .idle
  | post payload d =>
    simp only [World.step] at st
    split_ifs at st <;> cases st
    · exact .idle
    · exact handle_refines payload fresh
  | wake i d =>
    obtain ⟨payload, -, rfl⟩ := Option.map_eq_some_iff.mp st
    exact handle_refines (w := { w with sleeping := w.sleeping.eraseIdx i }) payload fresh
  | write i =>
    obtain ⟨s, at_i, written, rfl⟩ := step_write st
    have before := coe_map_of_getElem? (f := Sending.state) at_i
    have done : { w with
          topic := w.topic ++ [s.message]
          sending := w.sending.set i { s with written := true } }.publication =
        { w.publication with
          waiting := (s.order.orderId, true) ::ₘ
            (((w.sending.eraseIdx i).map Sending.state : List (String × Bool)) : Multiset _)
          log := s.order.orderId ::ₘ w.publication.log } := by
      unfold World.publication
      dsimp only
      rw [coe_map_append_singleton, coe_map_set (f := Sending.state) at_i,
        (described.sending s (List.mem_of_getElem? at_i)).key]
      rfl
    rw [done]
    refine .write (before.trans ?_)
    rw [Sending.state, written]
  | confirm i =>
    obtain ⟨s, at_i, written, rfl⟩ := step_confirm st
    have before := coe_map_of_getElem? (f := Sending.state) at_i
    rw [Sending.state, written] at before
    unfold World.confirmed
    rw [answer_publication]
    exact .confirm before
  | fail i =>
    obtain ⟨s, at_i, rfl⟩ := Option.map_eq_some_iff.mp st
    have before := coe_map_of_getElem? (f := Sending.state) at_i
    have only : ∀ t ∈ [s], t.message.Announces t.order :=
      List.forall_mem_singleton.mpr (described.sending s (List.mem_of_getElem? at_i))
    have left := abandoned_publication w.abandoned only
    have done : ({ w with
          sending := w.sending.eraseIdx i
          abandoned := w.abandoned ++ unwritten [s] }.publishFailed s.order false).publication =
        { w.publication with
          waiting := (((w.sending.eraseIdx i).map Sending.state : List (String × Bool)) : Multiset _)
          abandoned := Publication.unwritten {s.state} + w.publication.abandoned
          refused := s.order.orderId ::ₘ w.publication.refused } := by
      unfold World.publishFailed
      rw [answer_publication]
      unfold World.publication
      dsimp only
      rw [left]
      rfl
    rw [done]
    exact .giveUp before
  | writeLate i =>
    obtain ⟨m, at_i, rfl⟩ := Option.map_eq_some_iff.mp st
    have before := coe_map_of_getElem? (f := Message.key) at_i
    have done : { w with
          topic := w.topic ++ [m]
          abandoned := w.abandoned.eraseIdx i }.publication =
        { w.publication with
          abandoned := (((w.abandoned.eraseIdx i).map Message.key : List String) : Multiset _)
          log := m.key ::ₘ w.publication.log } := by
      unfold World.publication
      dsimp only
      rw [coe_map_append_singleton]
    rw [done]
    exact .writeLate before
  | restart =>
    cases st
    -- whoever awaited the broker is lost, and what was not written may be on its way
    have done : { World.boot settings with
          abandoned := w.abandoned ++ unwritten w.sending
          topic := w.topic
          answers := w.answers
          lost := w.lost ++ w.sending.map Sending.order }.publication =
        { w.publication with
          waiting := 0
          abandoned := Publication.unwritten w.publication.waiting + w.publication.abandoned
          lost := w.publication.waiting.map Prod.fst + w.publication.lost } := by
      have left := abandoned_publication w.abandoned described.sending
      have ids : (((w.lost ++ w.sending.map Sending.order).map Order.orderId : List String) :
          Multiset String) =
          ((w.sending.map Sending.state : List _) : Multiset (String × Bool)).map Prod.fst +
            ((w.lost.map (·.orderId) : List String) : Multiset String) := by
        rw [List.map_append, ← Multiset.coe_add, add_comm, Multiset.map_coe, List.map_map,
          List.map_map]
        rfl
      unfold World.publication World.boot
      dsimp only
      rw [left, ids]
      rfl
    rw [done]
    exact .crash

/-- An answer adds to the orders that may have been sent. -/
lemma entrusted_answer (a : Answer) : w.entrusted ⊆ (w.answer a).entrusted := by
  intro order mem
  simp only [World.entrusted, World.answer, List.filterMap_append, List.mem_append] at mem ⊢
  tauto

/-- Messages stay described where the only new ones are those of requests. -/
lemma Described.mono (h : Described w) (sending : ∀ s ∈ w'.sending, s.message.Announces s.order)
    (messages : ∀ m ∈ w'.topic ++ w'.abandoned,
      m ∈ w.topic ++ w.abandoned ∨ ∃ s ∈ w.sending, s.message = m)
    (entrusted : w.entrusted ⊆ w'.entrusted) : Described w' where
  sending
  messages := by
    intro m mem
    obtain before | ⟨s, here, rfl⟩ := messages m mem
    · obtain ⟨order, there, about⟩ := h.messages m before
      exact ⟨order, entrusted there, about⟩
    · refine ⟨s.order, entrusted ?_, h.sending s here⟩
      simp only [World.entrusted, List.mem_append, List.mem_map]
      exact .inl (.inl (.inl ⟨s, here, rfl⟩))

/-- The handler of a request keeps messages described. -/
lemma handle_described (h : Described w) (payload : CreateOrderRequest) :
    Described (w.handle payload d) := by
  obtain ⟨metrics, done⟩ | ⟨metrics, injected, done⟩ | ⟨metrics, done⟩ :=
    handle_cases (w := w) (d := d) payload
  · rw [done]
    exact h.mono h.sending (fun _ mem => .inl mem) (entrusted_answer _)
  · rw [done]
    exact h.mono h.sending (fun _ mem => .inl mem) (entrusted_answer _)
  · rw [done]
    refine h.mono ?_ (fun _ mem => .inl mem) ?_
    · intro s mem
      obtain before | new := List.mem_append.mp mem
      · exact h.sending s before
      · cases List.mem_singleton.mp new
        exact announces_messageOf
    · intro order mem
      simp only [World.entrusted, List.map_append, List.mem_append] at mem ⊢
      tauto

/-- An unwritten message is that of a request. -/
lemma of_mem_unwritten {sending : List Sending} {m : Message} (mem : m ∈ unwritten sending) :
    ∃ s ∈ sending, s.message = m := by
  obtain ⟨s, here, same⟩ := List.mem_map.mp mem
  exact ⟨s, List.mem_of_mem_filter here, same⟩

/-- Every step keeps messages described. -/
lemma step_described (h : Described w) (st : w.step settings e = some w') : Described w' := by
  cases e with
  | start | stop =>
    cases st
    exact h.mono h.sending (fun _ mem => .inl mem) fun _ mem => mem
  | putSimulation newState =>
    simp only [World.step] at st
    split_ifs at st <;> cases st
    · exact h.mono h.sending (fun _ mem => .inl mem) fun _ mem => mem
    · exact h
  | post payload d =>
    simp only [World.step] at st
    split_ifs at st <;> cases st
    · exact h.mono h.sending (fun _ mem => .inl mem) fun _ mem => mem
    · exact handle_described h payload
  | wake i d =>
    obtain ⟨payload, -, rfl⟩ := Option.map_eq_some_iff.mp st
    have awake : Described { w with sleeping := w.sleeping.eraseIdx i } :=
      h.mono h.sending (fun _ mem => .inl mem) fun _ mem => mem
    exact handle_described awake payload
  | write i =>
    obtain ⟨s, at_i, -, rfl⟩ := step_write st
    have here := List.mem_of_getElem? at_i
    refine h.mono ?_ ?_ ?_
    · intro t mem
      obtain rfl | other := (mem_set_iff at_i).mp mem
      · exact h.sending s here
      · exact h.sending t (List.mem_of_mem_eraseIdx other)
    · intro m mem
      simp only [List.mem_append, List.mem_singleton] at mem ⊢
      obtain (before | rfl) | before := mem
      · exact .inl (.inl before)
      · exact .inr ⟨s, here, rfl⟩
      · exact .inl (.inr before)
    · intro order mem
      simp only [World.entrusted, List.mem_append, List.mem_map, mem_iff_of_getElem? at_i,
        mem_set_iff at_i, or_and_right, exists_or, exists_eq_left] at mem ⊢
      exact mem
  | confirm i =>
    obtain ⟨s, at_i, -, rfl⟩ := step_confirm st
    refine h.mono (fun t mem => h.sending t (List.mem_of_mem_eraseIdx mem)) (fun _ mem => .inl mem) ?_
    intro order mem
    simp only [World.entrusted, World.confirmed, World.answer, List.filterMap_append,
      List.filterMap_cons, List.filterMap_nil, Answer.accepted, Answer.refused, List.append_nil,
      List.mem_append, List.mem_map, List.mem_singleton, mem_iff_of_getElem? at_i, or_and_right,
      exists_or, exists_eq_left, eq_comm (b := order)] at mem ⊢
    obtain (((here | other) | before) | before) | before := mem
    · exact .inl (.inl (.inr (.inr here)))
    · exact .inl (.inl (.inl other))
    · exact .inl (.inl (.inr (.inl before)))
    · exact .inl (.inr before)
    · exact .inr before
  | fail i =>
    obtain ⟨s, at_i, rfl⟩ := Option.map_eq_some_iff.mp st
    refine h.mono (fun t mem => h.sending t (List.mem_of_mem_eraseIdx mem)) ?_ ?_
    · intro m mem
      change m ∈ w.topic ++ (w.abandoned ++ unwritten [s]) at mem
      rw [← List.append_assoc] at mem
      obtain before | left := List.mem_append.mp mem
      · exact .inl before
      · obtain ⟨t, same, rfl⟩ := of_mem_unwritten left
        cases List.mem_singleton.mp same
        exact .inr ⟨s, List.mem_of_getElem? at_i, rfl⟩
    · intro order mem
      simp only [World.entrusted, World.publishFailed, World.answer, List.filterMap_append,
        List.filterMap_cons, List.filterMap_nil, Answer.accepted, Answer.refused, List.append_nil,
        List.mem_append, List.mem_map, List.mem_singleton, mem_iff_of_getElem? at_i, or_and_right,
        exists_or, exists_eq_left, eq_comm (b := order)] at mem ⊢
      obtain (((here | other) | before) | before) | before := mem
      · exact .inl (.inr (.inr here))
      · exact .inl (.inl (.inl other))
      · exact .inl (.inl (.inr before))
      · exact .inl (.inr (.inl before))
      · exact .inr before
  | writeLate i =>
    obtain ⟨m, at_i, rfl⟩ := Option.map_eq_some_iff.mp st
    refine h.mono h.sending ?_ fun _ mem => mem
    intro n mem
    simp only [List.mem_append, List.mem_singleton] at mem ⊢
    obtain (before | rfl) | before := mem
    · exact .inl (.inl before)
    · exact .inl (.inr (List.mem_of_getElem? at_i))
    · exact .inl (.inr (List.mem_of_mem_eraseIdx before))
  | restart =>
    cases st
    refine h.mono nofun ?_ ?_
    · intro m mem
      rw [← List.append_assoc] at mem
      obtain before | left := List.mem_append.mp mem
      · exact .inl before
      · exact .inr (of_mem_unwritten left)
    · intro order mem
      simp only [World.entrusted, World.boot, List.map_nil, List.nil_append, List.mem_append] at mem ⊢
      tauto

/-- What holds of every state that a run reaches while ids do not collide. -/
structure Published (w : World) : Prop where
  described : Described w
  sound : w.publication.Sound

/-- A process that starts. -/
lemma published_boot : Published (World.boot settings) where
  described := ⟨nofun, nofun⟩
  sound := Publication.sound_empty

/-- Every step keeps it. -/
lemma Published.step (h : Published w) (fresh : e.Fresh w) (st : w.step settings e = some w') :
    Published w' where
  described := step_described h.described st
  sound := (step_refines h.described fresh st).sound h.sound

/-- No two orders have one id. -/
lemma Published.ids (h : Published w) : (w.orders.map (·.orderId)).Nodup := by
  have nodup := h.sound.taken
  rw [taken_publication] at nodup
  exact nodup

/-- An order that may have been sent is one of the orders. -/
lemma mem_orders_of_entrusted (mem : order ∈ w.entrusted) : order ∈ w.orders :=
  List.mem_append_left _ mem

/-- An accepted order may have been sent. -/
lemma mem_entrusted_of_accepted (mem : order ∈ w.answers.filterMap Answer.accepted) :
    order ∈ w.entrusted := by
  simp only [World.entrusted, List.mem_append]
  exact .inl (.inl (.inr mem))

/-- The event about an accepted order is on the topic. -/
lemma Published.accepted (h : Published w) (mem : order ∈ w.answers.filterMap Answer.accepted) :
    ∃ m ∈ w.topic, m.Announces order := by
  have written : order.orderId ∈ w.publication.log :=
    h.sound.accepted _ (List.mem_map_of_mem mem)
  obtain ⟨m, here, key⟩ := List.mem_map.mp (Multiset.mem_coe.mp written)
  obtain ⟨other, there, about⟩ := h.described.messages m (List.mem_append_left _ here)
  -- the message with this key is about an order with this id, and no other order has it
  have same : other = order :=
    List.inj_on_of_nodup_map h.ids (mem_orders_of_entrusted there)
      (mem_orders_of_entrusted (mem_entrusted_of_accepted mem)) (about.key.symm.trans key)
  exact ⟨m, here, same ▸ about⟩

/-- Over every run in which ids do not collide, no order is announced twice, the event about every
order that was answered with 201 is on the topic, every event there is about an order that was
handed over, and an event whose publishing was made to fail is never there. -/
theorem accepted_published {events : List Event}
    (run : (service settings).Run (World.boot settings) events w)
    (fresh : (service settings).EachStep (fun u e _ => e.Fresh u) (World.boot settings) events) :
    (w.orders.map (·.orderId)).Nodup ∧
    (w.topic.map (·.key)).Nodup ∧
    (∀ order ∈ w.answers.filterMap Answer.accepted, ∃ m ∈ w.topic, m.Announces order) ∧
    (∀ m ∈ w.topic, ∃ order ∈ w.entrusted, m.Announces order) ∧
    ∀ order ∈ w.answers.filterMap Answer.withheld, ∀ m ∈ w.topic, m.key ≠ order.orderId := by
  have h : Published w := run.invariant_of fresh (fun _ _ _ h fresh st => h.step fresh st) published_boot
  have about : ∀ m ∈ w.topic, ∃ order ∈ w.entrusted, m.Announces order :=
    fun m mem => h.described.messages m (List.mem_append_left _ mem)
  have once : (w.topic.map (·.key)).Nodup :=
    (Multiset.nodup_add.mp (Multiset.nodup_add.mp h.sound.sent).1).1
  refine ⟨h.ids, once, fun _ mem => h.accepted mem, about, ?_⟩
  intro order withheld m mem key
  obtain ⟨other, there, announces⟩ := about m mem
  have apart := h.ids
  rw [World.orders, List.map_append, List.nodup_append] at apart
  exact apart.2.2 _ (List.mem_map_of_mem there) _ (List.mem_map_of_mem withheld)
    (announces.key.symm.trans key)

/-- Whether the ids do not collide. -/
instance decidableFresh (w : World) : (e : Event) → Decidable (e.Fresh w)
  | .post _ d | .wake _ d => inferInstanceAs (Decidable (d.orderId ∉ w.orders.map (·.orderId)))
  | .start | .stop | .putSimulation _ | .write _ | .confirm _ | .fail _ | .writeLate _ | .restart =>
    isTrue trivial

/-- The settings of a production process. -/
def production : Settings where
  env := "production"
  simAdminEnabled := false

/-- An order of 19.99. -/
def coffee : CreateOrderRequest where
  customerId := "cust-1"
  amount := ⟨1999, by decide, by decide⟩
  customerIdLength := by decide

/-- A request gives up and its event is written late; another is accepted. -/
def lateEvent : List Event :=
  [.start, .post coffee { orderId := "o-1", eventId := "e-1" },
    .post coffee { orderId := "o-2", eventId := "e-2" }, .write 1, .confirm 1, .fail 0, .writeLate 0]

lemma lateEvent_states : (service production).check (fun u e => decide (e.Fresh u))
    (fun u => u.topic.length == 2 && (u.answers.filterMap Answer.accepted).length == 1 &&
      (u.getOrder "o-2").toBool) (World.boot production) lateEvent = true := by
  decide

lemma lateEvent_run : ∃ w, (service production).Run (World.boot production) lateEvent w ∧
    w.topic.length = 2 ∧ (w.answers.filterMap Answer.accepted).length = 1 ∧
    (w.getOrder "o-2").toBool = true ∧
    (service production).EachStep (fun u e _ => e.Fresh u) (World.boot production) lateEvent := by
  obtain ⟨w, run, final, each⟩ := Machine.run_of_check
    (Q := fun u e _ => e.Fresh u) (fun _ _ _ h => of_decide_eq_true h) lateEvent_states
  obtain ⟨counts, readable⟩ := (Bool.and_eq_true _ _).mp final
  obtain ⟨topic, accepted⟩ := (Bool.and_eq_true _ _).mp counts
  exact ⟨w, run, by simpa using topic, by simpa using accepted, readable, each⟩

theorem accepted_published_late : ∃ w : World, w.topic.length = 2 ∧
    (w.answers.filterMap Answer.accepted).length = 1 ∧ (w.topic.map (·.key)).Nodup ∧
    ∀ order ∈ w.answers.filterMap Answer.accepted, ∃ m ∈ w.topic, m.Announces order := by
  obtain ⟨w, run, topic, accepted, -, fresh⟩ := lateEvent_run
  obtain ⟨-, once, announced, -⟩ := accepted_published run fresh
  exact ⟨w, topic, accepted, once, announced⟩

end SentinelOps.Orders
