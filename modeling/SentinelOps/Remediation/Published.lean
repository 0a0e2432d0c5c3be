import SentinelOps.Remediation.Publisher
import Mathlib.Data.List.Perm.Subperm

/-!
# The topic against the audit trail

Over either repository and any interleaving, what is on the topic or still to be mirrored is part of
what the trail records (`StageInv.mirrors`): nothing is published that was not committed and nothing
is published twice. When no transaction loses its answer, the producer is ready and every message
reaches the broker, it is all of it. The messages of one remediation keep the order of its trail as
long as no transaction on it commits while another call still has one of its events to send.
-/

namespace SentinelOps.Remediation

open Kafka (Delivery)

variable {cfg : ServiceConfig} {pub : PublisherConfig}

/-- Filling an empty queue adds its content to what is queued. -/
lemma flatten_set_of_nil {α : Type} {qs : List (List α)} {i q} (empty : qs[i]? = some []) :
    (qs.set i q).flatten.Perm (qs.flatten ++ q) := by
  induction qs generalizing i with
  | nil => cases empty
  | cons q0 qs ih =>
    cases i with
    | zero =>
      cases Option.some.inj empty
      exact List.perm_append_comm
    | succ i =>
      rw [List.set_cons_succ, List.flatten_cons, List.flatten_cons, List.append_assoc]
      exact (ih empty).append_left q0

/-- Taking the head of a queue takes it from what is queued. -/
lemma flatten_set_tail {α : Type} {qs : List (List α)} {i a q} (head : qs[i]? = some (a :: q)) :
    qs.flatten.Perm (a :: (qs.set i q).flatten) := by
  induction qs generalizing i with
  | nil => cases head
  | cons q0 qs ih =>
    cases i with
    | zero =>
      cases Option.some.inj head
      exact .refl _
    | succ i =>
      rw [List.set_cons_succ, List.flatten_cons, List.flatten_cons]
      exact ((ih head).append_left q0).trans List.perm_middle

/-- What a step of a call does to the audit table: it appends the events of its transaction, and then
an exception means that the answer was lost; or it appends nothing, and then either the call has
failed or it had nothing to append. -/
inductive Appended (audit audit' : List RemediationAuditEvent) (env : Env) (ph ph' : Phase) : Prop
  | committed :
    audit' = audit ++ ph.events →
    (ph'.isRaised = true → ∃ e, env.storage = some (.after e)) →
    Appended audit audit' env ph ph'
  | nothing :
    audit' = audit →
    (ph'.isRaised = true ∨ ph.events = []) →
    Appended audit audit' env ph ph'

/-- A transaction that appends the events of its phase. -/
lemma Appended.commit {m m' : InMemoryStore} {env ph} {run : Except Error (InMemoryStore × _)}
    {out} {f : RemediationRecord → Phase} (done : commit env.storage m run = (m', out))
    (appends : ∀ rec, run = .ok (m', rec) → m'.audit = m.audit ++ ph.events)
    (live : ∀ rec, (f rec).isRaised = false) :
    Appended m.audit m'.audit env ph (settle f out) := by
  rcases commit_cases done with ⟨rfl, e, rfl⟩ | ⟨rec, hrun, rfl | ⟨e, rfl⟩⟩
  · exact .nothing rfl (.inl rfl)
  · refine .committed (appends rec hrun) ?_
    intro raised
    cases (live rec).symm.trans raised
  · rcases commit_error done with rfl | lost
    · exact .nothing rfl (.inl rfl)
    · exact .committed (appends rec hrun) fun _ => lost

/-- What a step of a call does to the audit table. -/
lemma stepCall_appended {env} {w : World InMemoryStore} {req ph out}
    (e : stepCall cfg InMemoryStore.repository env w req ph = some out) :
    Appended w.store.audit out.store.audit env ph out.phase := by
  cases stepCall_stepped e with
  | propose | decide | verifyRecovery | executor | verifier => exact .nothing rfl (.inr rfl)
  | execute =>
    rw [(stepExecuteStart_cases rfl).1]
    exact .nothing rfl (.inr rfl)
  | create done =>
    refine .commit done ?_ fun _ => rfl
    intro rec run
    obtain ⟨_, _, rfl⟩ := InMemoryStore.create_ok run
    rfl
  | recordDecision done =>
    refine .commit done ?_ fun _ => rfl
    intro rec run
    obtain ⟨_, _, _, _, rfl⟩ := InMemoryStore.recordDecision_ok run
    rfl
  | beginExecution done =>
    refine .commit done ?_ fun _ => rfl
    intro rec run
    obtain ⟨_, _, _, _, _, rfl⟩ := InMemoryStore.beginExecution_ok run
    rfl
  | @finishExecution r _ _ _ _ _ done =>
    refine .commit done ?_ fun _ => rfl
    intro rec run
    obtain ⟨_, _, _, _, _, rfl⟩ :=
      @InMemoryStore.finishExecution_ok _ _ (newExecutionId r.token) _ _ _ _ _ run
    rfl
  | beginVerification done =>
    refine .commit done ?_ fun _ => rfl
    intro rec run
    obtain ⟨_, _, _, _, _, rfl⟩ := InMemoryStore.beginVerification_ok run
    rfl
  | @finishVerification r _ _ _ _ _ done =>
    refine .commit done ?_ fun _ => rfl
    intro rec run
    obtain ⟨_, _, _, _, _, rfl⟩ :=
      @InMemoryStore.finishVerification_ok _ _ (newVerificationId r.token) _ _ _ _ _ run
    rfl

/-- Nothing is lost in a step: a transaction that takes effect is answered, the producer is ready and
a message that is published reaches the broker. -/
def Signal.Healthy : Signal → Prop
  | .service (.call _) _ => True
  | .service (.advance _ env) ready => ready = true ∧ ∀ e, env.storage ≠ some (.after e)
  | .publish _ d => d ≠ .lost

/-- What a transaction that ended in one of two ways leaves to be mirrored: nothing, or what it has
appended to the audit table; the latter when nothing was lost. -/
lemma Appended.mirrored {audit audit' env ph ph'} (h : Appended audit audit' env ph ph')
    (ready : Bool) :
    ∃ new, audit' = audit ++ new ∧ (new = [] ∨ new = ph.events) ∧
      (mirrored ready ph ph' = [] ∨ mirrored ready ph ph' = new) ∧
      (ready = true → (∀ e, env.storage ≠ some (.after e)) → mirrored ready ph ph' = new) := by
  unfold Remediation.mirrored
  cases h with
  | committed same lost =>
    refine ⟨ph.events, same, .inr rfl, ?_, ?_⟩
    · split
      · exact .inr rfl
      · exact .inl rfl
    · intro isReady answered
      have live : ph'.isRaised = false := by
        rw [← Bool.not_eq_true]
        intro raised
        obtain ⟨e, he⟩ := lost raised
        exact answered e he
      rw [if_pos ⟨isReady, live⟩]
  | nothing same quiet =>
    refine ⟨[], by simpa using same, .inl rfl, ?_⟩
    have none : (if ready = true ∧ ph'.isRaised = false then ph.events else []) = [] := by
      rcases quiet with raised | empty
      · rw [if_neg (by simp [raised])]
      · rw [empty, ite_self]
    exact ⟨.inl none, fun _ _ => none⟩

/-- The events a call is about to commit are about the remediation it names. -/
lemma events_own {env} {w : World InMemoryStore} {req ph out} (events : EventsOk req ph)
    (e : stepCall cfg InMemoryStore.repository env w req ph = some out) :
    ∀ event ∈ ph.events, event.val.remediationId = req.target := by
  cases stepCall_stepped e with
  | propose | decide | execute | verifyRecovery | executor | verifier =>
    intro event he
    cases he
  | create | recordDecision | beginExecution | finishExecution | beginVerification
  | finishVerification => exact events.own

/-- What a step does to the audit table, the queues and the topic. -/
inductive Moved {σ : Type} (pub : PublisherConfig) (v v' : World InMemoryStore) (s s' : Stage σ) :
    Signal → Prop
  | call {r ready} :
    v'.store = v.store →
    s' = { s with world := s'.world, outbox := s.outbox ++ [[]] } →
    Moved pub v v' s s' (.service (.call r) ready)
  | advance {i env ready c new q} :
    s.outbox[i]? = some [] →
    s.world.calls[i]? = some c →
    v'.store.audit = v.store.audit ++ new →
    (new = [] ∨ new = c.phase.events) →
    (∀ e ∈ new, e.val.remediationId = c.request.target) →
    (q = [] ∨ q = new) →
    ((Signal.service (.advance i env) ready).Healthy → q = new) →
    s' = { s with world := s'.world, outbox := s.outbox.set i q } →
    Moved pub v v' s s' (.service (.advance i env) ready)
  | publish {i d event rest} :
    v' = v →
    s.outbox[i]? = some (event :: rest) →
    s' = { s with outbox := s.outbox.set i rest, topic := s.topic ++ delivered pub event d } →
    Moved pub v v' s s' (.publish i d)

/-- Every step of the service with its publisher is one of these, over either repository. -/
lemma broadcastStep_moved {b : Backend} {s s' : Stage b.Store} {v l} (rel : b.Rel s.world v)
    (inv : Inv cfg v) (trails : TrailInv v)
    (e : broadcastStep cfg b.repository pub s l = some s') :
    ∃ v', b.Rel s'.world v' ∧ Inv cfg v' ∧ TrailInv v' ∧ Moved pub v v' s s' l := by
  rcases broadcastStep_cases e with ⟨r, ready, w, rfl, st, rfl⟩ |
    ⟨i, env, ready, c, w, rfl, idle, found, st, rfl⟩ | ⟨i, d, event, rest, rfl, found, rfl⟩
  · have st0 : (b.service cfg).step s.world (.call r) = some w := st
    obtain ⟨k, v', hk, st', rel'⟩ := rel.step inv st0
    refine ⟨v', rel', inv.step st', trails.step inv st', .call ?_ rfl⟩
    rcases hk with rfl | ⟨_, _, _, hl, _⟩
    · cases st'
      rfl
    · cases hl
  · have st0 : (b.service cfg).step s.world (.advance i env) = some w := st
    obtain ⟨k, v', hk, st', rel'⟩ := rel.step inv st0
    have inv' := inv.step st'
    refine ⟨v', rel', inv', trails.step inv st', ?_⟩
    obtain ⟨env', rfl⟩ := hk.advanced rfl
    have next : step cfg InMemoryStore.repository v (.advance i env') = some v' := st'
    rcases step_cases next with ⟨_, hl, _⟩ | ⟨_, _, c', out, hl, found', ho, rfl⟩
    · cases hl
    cases hl
    have calls := (rel.abstracts inv).calls
    have calls' := (rel'.abstracts inv').calls
    cases Option.some.inj ((calls ▸ found).symm.trans found')
    have now : w.calls[i]? = some { c with phase := out.phase } := by
      rw [calls']
      exact List.getElem?_set_self (List.getElem?_eq_some_iff.mp found').1
    obtain ⟨new, audit, source, queued, whole⟩ := (stepCall_appended ho).mirrored ready
    have own : ∀ event ∈ new, event.val.remediationId = c.request.target := by
      rcases source with rfl | rfl
      · intro event he
        cases he
      · exact events_own (trails.calls i c found') ho
    refine .advance idle found audit source own ?_ ?_ rfl
    · rw [now]
      exact queued
    · rintro ⟨isReady, answered⟩
      rw [now]
      apply whole isReady
      intro x hx
      rcases hk with hk | ⟨_, _, y, _, hk⟩
      · cases hk
        exact answered x hx
      · cases hk
        cases hx
  · exact ⟨v, rel, inv, trails, .publish rfl found rfl⟩

/-- What a stage has mirrored is part of what its store records. -/
def MirrorsPart {σ : Type} (pub : PublisherConfig) (v : World InMemoryStore) (s : Stage σ) : Prop :=
  (s.topic ++ s.pending pub).Subperm (messagesOf pub v.store.audit)

/-- What a stage has mirrored is all that its store records. -/
def MirrorsAll {σ : Type} (pub : PublisherConfig) (v : World InMemoryStore) (s : Stage σ) : Prop :=
  (s.topic ++ s.pending pub).Perm (messagesOf pub v.store.audit)

section
variable {σ : Type} {v v' : World InMemoryStore} {s s' : Stage σ} {l : Signal}

/-- What is still to be mirrored after a call has queued its events. -/
lemma pending_set {i q} (idle : s.outbox[i]? = some []) :
    (messagesOf pub (s.outbox.set i q).flatten).Perm (s.pending pub ++ messagesOf pub q) := by
  have queued := (flatten_set_of_nil (q := q) idle).filterMap (messageOf pub)
  rwa [List.filterMap_append] at queued

/-- What reaches the broker is the message of the event. -/
lemma delivered_sublist {event d} :
    (delivered pub event d).Sublist (messageOf pub event).toList := by
  cases d with
  | lost => exact List.nil_sublist _
  | acknowledged | unconfirmed => exact .refl _

/-- What reaches the broker bears the id of the remediation of the event. -/
lemma delivered_key {event d m} (h : m ∈ delivered pub event d) :
    m.key = event.val.remediationId :=
  messageOf_key (Option.mem_toList.mp (delivered_sublist.subset h))

/-- What is on the topic or still to be mirrored, before and after a call publishes an event. -/
lemma pending_publish {i d event rest} (head : s.outbox[i]? = some (event :: rest)) :
    ((s.topic ++ delivered pub event d) ++ messagesOf pub (s.outbox.set i rest).flatten).Subperm
        (s.topic ++ s.pending pub) ∧
      (d ≠ .lost → ((s.topic ++ delivered pub event d) ++
        messagesOf pub (s.outbox.set i rest).flatten).Perm (s.topic ++ s.pending pub)) := by
  have queued : (s.pending pub).Perm
      ((messageOf pub event).toList ++ messagesOf pub (s.outbox.set i rest).flatten) := by
    rw [← messagesOf_cons]
    exact (flatten_set_tail head).filterMap (messageOf pub)
  have whole := (queued.append_left s.topic).symm
  rw [← List.append_assoc] at whole
  cases d with
  | lost =>
    refine ⟨?_, fun h => absurd rfl h⟩
    exact ((delivered_sublist.append_left s.topic).append_right _).subperm.trans whole.subperm
  | acknowledged | unconfirmed => exact ⟨whole.subperm, fun _ => whole⟩

/-- A step keeps what is mirrored within what is recorded. -/
lemma Moved.mirrors (h : MirrorsPart pub v s) (m : Moved pub v v' s s' l) : MirrorsPart pub v' s' := by
  unfold MirrorsPart at h ⊢
  cases m with
  | call store next =>
    rw [next, store]
    simpa [Stage.pending] using h
  | @advance i env ready c new q idle _ audit _ _ queued _ next =>
    rw [next, audit, messagesOf_append]
    have grown : (s.topic ++ messagesOf pub (s.outbox.set i q).flatten).Perm
        (s.topic ++ s.pending pub ++ messagesOf pub q) := by
      rw [List.append_assoc]
      exact (pending_set idle).append_left s.topic
    refine grown.subperm.trans ?_
    rcases queued with rfl | rfl
    · rw [messagesOf_nil, List.append_nil]
      exact h.trans (List.sublist_append_left _ _).subperm
    · exact h.append (.refl _)
  | publish same head next =>
    rw [next, same]
    exact (pending_publish head).1.trans h

/-- A step in which nothing is lost keeps what is mirrored at what is recorded. -/
lemma Moved.mirrorsAll (h : MirrorsAll pub v s) (m : Moved pub v v' s s' l) (ok : l.Healthy) :
    MirrorsAll pub v' s' := by
  unfold MirrorsAll at h ⊢
  cases m with
  | call store next =>
    rw [next, store]
    simpa [Stage.pending] using h
  | @advance i env ready c new q idle _ audit _ _ _ whole next =>
    rw [next, audit, messagesOf_append, ← whole ok]
    have queued : (messagesOf pub (s.outbox.set i q).flatten).Perm
        (s.pending pub ++ messagesOf pub q) := pending_set idle
    have grown := queued.append_left s.topic
    rw [← List.append_assoc] at grown
    exact grown.trans (h.append_right _)
  | publish same head next =>
    rw [next, same]
    exact ((pending_publish head).2 ok).trans h

end

/-- No other call still has an event to send on the remediation that a call is about to commit a
transaction on. -/
def Signal.Alone {σ : Type} (s : Stage σ) : Signal → Prop
  | .service (.advance i _) _ => ∀ c, s.world.calls[i]? = some c → c.phase.events ≠ [] →
      ∀ q ∈ s.outbox, ∀ event ∈ q, event.val.remediationId ≠ c.request.target
  | _ => True

/-- What a stage has mirrored of every remediation is in the order of its trail, and at most one call
has events of it to send. -/
structure InOrder {σ : Type} (pub : PublisherConfig) (v : World InMemoryStore) (s : Stage σ) :
    Prop where
  alone : ∀ {i j : Nat} {qi qj : List RemediationAuditEvent}, s.outbox[i]? = some qi →
    s.outbox[j]? = some qj → ∀ event ∈ qi, ∀ event' ∈ qj,
    event.val.remediationId = event'.val.remediationId → i = j
  order : ∀ rid, (s.partition rid ++ messagesOf pub
    (s.outbox.flatten.filter fun e => decide (e.val.remediationId = rid))).Sublist
      (messagesOf pub (v.store.trail rid))

/-- What is queued of a kind when only one queue has some of it. -/
lemma flatten_filter_alone {α : Type} {qs : List (List α)} {i : Nat} {q : List α} {p : α → Bool}
    (own : qs[i]? = some q)
    (others : ∀ (j : Nat) (q' : List α), qs[j]? = some q' → j ≠ i → ∀ a ∈ q', p a = false) :
    qs.flatten.filter p = q.filter p := by
  induction qs generalizing i with
  | nil => cases own
  | cons q0 qs ih =>
    rw [List.flatten_cons, List.filter_append]
    cases i with
    | zero =>
      cases Option.some.inj own
      have none : qs.flatten.filter p = [] := by
        rw [List.filter_eq_nil_iff]
        intro a ha
        obtain ⟨q', hq, ha⟩ := List.mem_flatten.mp ha
        obtain ⟨j, hj⟩ := List.mem_iff_getElem?.mp hq
        simp [others (j + 1) q' hj (by simp) a ha]
      rw [none, List.append_nil]
    | succ i =>
      have none : q0.filter p = [] := by
        rw [List.filter_eq_nil_iff]
        intro a ha
        simp [others 0 q0 rfl (by simp) a ha]
      rw [none, List.nil_append]
      exact ih own fun j q' hj ne => others (j + 1) q' hj (by simpa using ne)

/-- What is queued of a kind does not change when a queue is replaced by one with as much of it. -/
lemma flatten_set_filter {α : Type} {qs : List (List α)} {i : Nat} {q q' : List α} {p : α → Bool}
    (own : qs[i]? = some q) (same : q'.filter p = q.filter p) :
    (qs.set i q').flatten.filter p = qs.flatten.filter p := by
  induction qs generalizing i with
  | nil => cases own
  | cons q0 qs ih =>
    cases i with
    | zero =>
      cases Option.some.inj own
      simp [same]
    | succ i =>
      rw [List.set_cons_succ, List.flatten_cons, List.flatten_cons, List.filter_append,
        List.filter_append, ih own]

section
variable {σ : Type} {v v' : World InMemoryStore} {s s' : Stage σ} {l : Signal}

/-- Replacing a queue by a part of it keeps the queues of every remediation apart. -/
lemma InOrder.alone_set (h : InOrder pub v s) {i : Nat} {q q' : List RemediationAuditEvent}
    (own : s.outbox[i]? = some q) (part : ∀ event ∈ q', event ∈ q) {j k : Nat}
    {qj qk : List RemediationAuditEvent} (hj : (s.outbox.set i q')[j]? = some qj)
    (hk : (s.outbox.set i q')[k]? = some qk) {event event' : RemediationAuditEvent} (he : event ∈ qj) (he' : event' ∈ qk)
    (same : event.val.remediationId = event'.val.remediationId) : j = k := by
  have before : ∀ {m : Nat} {qm : List RemediationAuditEvent}, (s.outbox.set i q')[m]? = some qm → ∀ event ∈ qm,
      ∃ q0, s.outbox[m]? = some q0 ∧ event ∈ q0 := by
    intro m qm hm event he
    rw [List.getElem?_set] at hm
    split at hm
    · rename_i here
      split at hm
      · cases hm
        exact ⟨q, here ▸ own, part event he⟩
      · cases hm
    · exact ⟨qm, hm, he⟩
  obtain ⟨q1, h1, m1⟩ := before hj event he
  obtain ⟨q2, h2, m2⟩ := before hk event' he'
  exact h.alone h1 h2 event m1 event' m2 same

/-- The trail of a remediation after events have been appended. -/
lemma trail_append {rid new} (audit : v'.store.audit = v.store.audit ++ new) :
    v'.store.trail rid =
      v.store.trail rid ++ new.filter fun e => decide (e.val.remediationId = rid) := by
  unfold InMemoryStore.trail
  rw [audit, List.filter_append]

/-- A step during which no other call has an event to send on the same remediation keeps the order of
every trail. -/
lemma Moved.inOrder (h : InOrder pub v s) (m : Moved pub v v' s s' l) (ok : l.Alone s) :
    InOrder pub v' s' := by
  cases m with
  | call store next =>
    rw [next]
    constructor
    · intro i j qi qj hi hj event he event' he' same
      rw [List.getElem?_append] at hi hj
      split at hi
      · split at hj
        · exact h.alone hi hj event he event' he' same
        · rw [List.getElem?_singleton] at hj
          split at hj <;> cases hj
          cases he'
      · rw [List.getElem?_singleton] at hi
        split at hi <;> cases hi
        cases he
    · intro rid
      rw [store]
      simpa [Stage.partition] using h.order rid
  | @advance i env ready c new q idle found audit source own queued _ next =>
    rw [next]
    have quiet : q = [] → InOrder pub v'
        { s with world := s'.world, outbox := s.outbox.set i q } := by
      rintro rfl
      constructor
      · intro j k qj qk hj hk event he event' he' same
        exact h.alone_set idle (fun _ none => none) hj hk he he' same
      · intro rid
        rw [trail_append audit, messagesOf_append, flatten_set_filter idle rfl]
        exact (h.order rid).trans (List.sublist_append_left _ _)
    by_cases none : q = []
    · exact quiet none
    · obtain rfl := queued.resolve_left none
      obtain rfl := source.resolve_left none
      have apart := ok c found none
      constructor
      · intro j k qj qk hj hk event he event' he' same
        rw [List.getElem?_set] at hj hk
        split at hj
        · rename_i hj'
          split at hk
          · rename_i hk'
            exact hj'.symm.trans hk'
          · split at hj <;> cases hj
            have there := apart qk (List.mem_of_getElem? hk) event' he'
            exact absurd (same.symm.trans (own event he)) there
        · split at hk
          · split at hk <;> cases hk
            have there := apart qj (List.mem_of_getElem? hj) event he
            exact absurd (same.trans (own event' he')) there
          · exact h.alone hj hk event he event' he' same
      · intro rid
        rw [trail_append audit, messagesOf_append]
        by_cases here : c.request.target = rid
        · have before : s.outbox.flatten.filter (fun e => decide (e.val.remediationId = rid)) = [] := by
            rw [List.filter_eq_nil_iff]
            intro event he same
            obtain ⟨q, hq, he⟩ := List.mem_flatten.mp he
            exact apart q hq event he ((of_decide_eq_true same).trans here.symm)
          have now : (s.outbox.set i c.phase.events).flatten.filter
              (fun e => decide (e.val.remediationId = rid)) =
                c.phase.events.filter fun e => decide (e.val.remediationId = rid) := by
            apply flatten_filter_alone (i := i)
            · exact List.getElem?_set_self (List.getElem?_eq_some_iff.mp idle).1
            · intro j q' hj ne event he
              rw [List.getElem?_set_ne (Ne.symm ne)] at hj
              have there := apart q' (List.mem_of_getElem? hj) event he
              exact decide_eq_false (here ▸ there)
          have earlier := h.order rid
          rw [before, messagesOf_nil, List.append_nil] at earlier
          rw [now]
          exact earlier.append_right _
        · have none' : c.phase.events.filter (fun e => decide (e.val.remediationId = rid)) = [] := by
            rw [List.filter_eq_nil_iff]
            intro event he same
            exact here ((own event he).symm.trans (of_decide_eq_true same))
          rw [flatten_set_filter idle none', none', messagesOf_nil, List.append_nil]
          exact h.order rid
  | @publish i d event rest same head next =>
    rw [next, same]
    constructor
    · intro j k qj qk hj hk event he event' he' same'
      exact h.alone_set head (fun _ => List.mem_cons_of_mem _) hj hk he he' same'
    · intro rid
      have earlier := h.order rid
      change ((s.topic ++ delivered pub event d).filter _ ++ _).Sublist _
      rw [List.filter_append]
      by_cases here : event.val.remediationId = rid
      · have others : ∀ (j : Nat) (q' : List RemediationAuditEvent), s.outbox[j]? = some q' →
            j ≠ i → ∀ event' ∈ q', decide (event'.val.remediationId = rid) = false := by
          intro j q' hj ne event' he'
          apply decide_eq_false
          intro there
          exact ne (h.alone hj head event' he' event List.mem_cons_self (there.trans here.symm))
        have before := flatten_filter_alone head others
        have now : (s.outbox.set i rest).flatten.filter
            (fun e => decide (e.val.remediationId = rid)) =
              rest.filter fun e => decide (e.val.remediationId = rid) := by
          apply flatten_filter_alone (i := i)
          · exact List.getElem?_set_self (List.getElem?_eq_some_iff.mp head).1
          · intro j q' hj ne
            rw [List.getElem?_set_ne (Ne.symm ne)] at hj
            exact others j q' hj ne
        rw [before, List.filter_cons, if_pos (decide_eq_true here), messagesOf_cons,
          ← List.append_assoc] at earlier
        have all : (delivered pub event d).filter (fun m => decide (m.key = rid)) =
            delivered pub event d := by
          rw [List.filter_eq_self]
          intro m hm
          exact decide_eq_true ((delivered_key hm).trans here)
        rw [now, all]
        refine List.Sublist.trans ?_ earlier
        exact (delivered_sublist.append_left _).append_right _
      · have unmoved : rest.filter (fun e => decide (e.val.remediationId = rid)) =
            (event :: rest).filter fun e => decide (e.val.remediationId = rid) := by
          rw [List.filter_cons, if_neg (by simpa using here)]
        have none : (delivered pub event d).filter (fun m => decide (m.key = rid)) = [] := by
          rw [List.filter_eq_nil_iff]
          intro m hm there
          exact here ((delivered_key hm).symm.trans (of_decide_eq_true there))
        rw [flatten_set_filter head unmoved, none, List.append_nil]
        exact earlier

end

section
variable {b : Backend} {s0 s : Stage b.Store} {ls : List Signal}

/-- What holds of the empty topic and is kept by every step that meets a condition holds after every
run whose steps meet it. -/
lemma broadcast_run {J : World InMemoryStore → Stage b.Store → Prop}
    {C : Stage b.Store → Signal → Prop} (init : (broadcast cfg b.repository pub).init s0)
    (run : (broadcast cfg b.repository pub).Run s0 ls s)
    (each : (broadcast cfg b.repository pub).EachStep (fun s l _ => C s l) s0 ls)
    (base : ∀ v, v.store = {} → J v s0)
    (keep : ∀ {v v' s s' l}, J v s → Moved pub v v' s s' l → C s l → J v' s') :
    ∃ v, b.Rel s.world v ∧ J v s := by
  obtain ⟨hw, _, _⟩ := init
  have hw : (b.service cfg).init s0.world := hw
  obtain ⟨v0, hv0, rel⟩ := Backend.Rel.init hw
  have start : ∃ v, b.Rel s0.world v ∧ Inv cfg v ∧ TrailInv v ∧ J v s0 :=
    ⟨v0, rel, .init hv0, .init hv0, base v0 hv0.1⟩
  have held : ∃ v, b.Rel s.world v ∧ Inv cfg v ∧ TrailInv v ∧ J v s := by
    refine run.invariant_of (I := fun s => ∃ v, b.Rel s.world v ∧ Inv cfg v ∧ TrailInv v ∧ J v s)
      each ?_ start
    rintro s l s' ⟨v, rel, inv, trails, holds⟩ met st
    obtain ⟨v', rel', inv', trails', moved⟩ := broadcastStep_moved rel inv trails st
    exact ⟨v', rel', inv', trails', keep holds moved met⟩
  obtain ⟨v, rel', _, _, holds⟩ := held
  exact ⟨v, rel', holds⟩

/-- A property of the labels of a run is one of its steps. -/
lemma eachStep_of_mem {σ ι : Type*} {M : Machine σ ι} {P : ι → Prop} {s : σ} {ls : List ι}
    (h : ∀ l ∈ ls, P l) : M.EachStep (fun _ l _ => P l) s ls := by
  rintro ls1 l ls2 u u' rfl _ _
  exact h l (by simp)

/-- Nothing is mirrored before the first step. -/
lemma nothing_mirrored {b : Backend} {s0 : Stage b.Store}
    (init : (broadcast cfg b.repository pub).init s0) : s0.topic ++ s0.pending pub = [] := by
  obtain ⟨_, outbox, topic⟩ := init
  simp [Stage.pending, topic, outbox]

/-- After any run, what is mirrored is part of what is recorded. -/
lemma broadcast_mirrors (init : (broadcast cfg b.repository pub).init s0)
    (run : (broadcast cfg b.repository pub).Run s0 ls s) :
    ∃ v, b.Rel s.world v ∧ MirrorsPart pub v s := by
  refine broadcast_run (C := fun _ _ => True) init run (fun _ _ _ _ _ _ _ _ => trivial) ?_ ?_
  · intro v _
    unfold MirrorsPart
    rw [nothing_mirrored init]
    exact List.nil_subperm
  · intro v v' s s' l holds moved _
    exact moved.mirrors holds

/-- After a run in which nothing was lost, what is mirrored is what is recorded. -/
lemma broadcast_mirrorsAll (init : (broadcast cfg b.repository pub).init s0)
    (run : (broadcast cfg b.repository pub).Run s0 ls s) (healthy : ∀ l ∈ ls, l.Healthy) :
    ∃ v, b.Rel s.world v ∧ MirrorsAll pub v s := by
  refine broadcast_run (C := fun _ l => l.Healthy) init run (eachStep_of_mem healthy) ?_ ?_
  · intro v empty
    unfold MirrorsAll
    rw [nothing_mirrored init, empty]
    exact .nil
  · intro v v' s s' l holds moved ok
    exact moved.mirrorsAll holds ok

/-- After a run in which no two calls had events of one remediation to send, every remediation is
mirrored in the order of its trail. -/
lemma broadcast_inOrder (init : (broadcast cfg b.repository pub).init s0)
    (run : (broadcast cfg b.repository pub).Run s0 ls s)
    (alone : (broadcast cfg b.repository pub).EachStep (fun s l _ => l.Alone s) s0 ls) :
    ∃ v, b.Rel s.world v ∧ InOrder pub v s := by
  refine broadcast_run (C := fun s l => l.Alone s) init run alone ?_ ?_
  · intro v _
    obtain ⟨_, outbox, topic⟩ := init
    constructor
    · intro i j qi qj hi
      rw [outbox] at hi
      cases hi
    · intro rid
      rw [outbox, Stage.partition, topic]
      exact List.nil_sublist _
  · intro v v' s s' l holds moved ok
    exact moved.inOrder holds ok

/-- The messages of one remediation among those of a store. -/
lemma filter_messagesOf_audit {m : InMemoryStore} {rid} :
    (messagesOf pub m.audit).filter (fun x => decide (x.key = rid)) =
      messagesOf pub (m.trail rid) :=
  filter_messagesOf

end

/-- The event ids of the audit ids that the runs below use. -/
def uuid5OfAudit (auditId : String) : String :=
  if auditId = "aud_0000000000000010" then "8e7ac4ea-563d-51a5-bb83-04ea16a2022d"
  else if auditId = "aud_0000000000000020" then "47916076-b607-57d9-a429-d62f6a596a04"
  else if auditId = "aud_0000000000000040" then "db67abef-9c7d-5abd-bddb-c8c55f4d6688"
  else if auditId = "aud_0000000000000060" then "85ae9f40-f8a3-561f-8d77-8bb95e917ec8"
  else ""

/-- The publisher of the controller. -/
def controllerPublisher : PublisherConfig where
  isWord := asciiConfig.isWord
  source := systemActorId
  uuid5 := uuid5OfAudit

/-- The controller with its publisher. -/
def controller : Machine (Stage InMemoryStore) Signal :=
  broadcast asciiConfig InMemoryStore.repository controllerPublisher

/-- A stage before any call. -/
def emptyStage : Stage InMemoryStore where
  world := emptyWorld .inMemory

/-- It is an initial one. -/
lemma emptyStage_init : controller.init emptyStage := ⟨emptyWorld_init, rfl, rfl⟩

/-- A call takes a step, and the producer is ready. -/
def goesOn (i : Nat) : Signal := .service (.advance i {}) true

/-- A call starts. -/
def starts (r : Request) : Signal := .service (.call r) true

/-- A call publishes an event. -/
def sends (i : Nat) : Signal := .publish i .acknowledged

/-- A restart is proposed and approved, and each call publishes its events before the next starts. -/
def approvalPublished : List Signal :=
  [starts (proposeRestart "inc_000000000000000a" 0 0), goesOn 0, goesOn 0, sends 0, sends 0,
    starts (decideOn 0 .approve 10), goesOn 1, goesOn 1, sends 1]

/-- Whether no other call has an event to send on the remediation that a call commits on. -/
def aloneTest (s : Stage InMemoryStore) : Signal → Bool
  | .service (.advance i _) _ => (s.world.calls[i]?).all fun c =>
      s.outbox.all fun q => q.all fun event => decide (event.val.remediationId ≠ c.request.target)
  | _ => true

/-- The test is sound. -/
lemma aloneTest_sound {s l} (h : aloneTest s l = true) : l.Alone s := by
  cases l with
  | publish i d => exact trivial
  | service l ready =>
    cases l with
    | call r => exact trivial
    | advance i env =>
      intro c found _ q hq event he
      have all : (s.world.calls[i]?).all (fun c => s.outbox.all fun q =>
          q.all fun event => decide (event.val.remediationId ≠ c.request.target)) = true := h
      rw [found] at all
      exact of_decide_eq_true (List.all_eq_true.mp (List.all_eq_true.mp all q hq) event he)

set_option maxRecDepth 20000 in
/-- Its three messages are on the topic in the end. -/
lemma approvalPublished_states :
    controller.check aloneTest (fun s => s.topic.length == 3 && s.outbox.flatten.isEmpty) emptyStage
      approvalPublished = true := by
  decide +kernel

/-- The run of the approval. -/
lemma approvalPublished_run : ∃ s, controller.Run emptyStage approvalPublished s ∧
    s.topic.length = 3 ∧ s.outbox.flatten = [] ∧
    controller.EachStep (fun s l _ => l.Alone s) emptyStage approvalPublished := by
  obtain ⟨s, run, final, each⟩ := Machine.run_of_check
    (Q := fun s l _ => l.Alone s) (fun _ _ _ h => aloneTest_sound h) approvalPublished_states
  obtain ⟨count, drained⟩ := (Bool.and_eq_true _ _).mp final
  exact ⟨s, run, by simpa using count, List.isEmpty_iff.mp drained, each⟩

/-- Nothing is lost in it. -/
lemma approvalPublished_healthy : ∀ l ∈ approvalPublished, l.Healthy := by
  intro l hl
  have fine : ∀ i, (goesOn i).Healthy := fun _ => ⟨rfl, fun _ none => by cases none⟩
  have sent : ∀ i, (sends i).Healthy := by
    rintro i ⟨⟩
  simp only [approvalPublished, List.mem_cons, List.not_mem_nil, or_false] at hl
  rcases hl with rfl | rfl | rfl | rfl | rfl | rfl | rfl | rfl | rfl
  · exact trivial
  · exact fine 0
  · exact fine 0
  · exact sent 0
  · exact sent 0
  · exact trivial
  · exact fine 1
  · exact fine 1
  · exact sent 1

/-- When nothing is lost and nothing is left to send, the messages of a remediation are those of its
trail. -/
lemma partition_perm {b : Backend} {s0 s : Stage b.Store} {ls : List Signal}
    (init : (broadcast cfg b.repository pub).init s0)
    (run : (broadcast cfg b.repository pub).Run s0 ls s) (healthy : ∀ l ∈ ls, l.Healthy)
    (drained : s.outbox.flatten = []) (rid : String) :
    ∃ trail, b.trail s.world.store rid = .ok trail ∧
      (s.partition rid).Perm (messagesOf pub trail) := by
  obtain ⟨v, rel, mirrors⟩ := broadcast_mirrorsAll init run healthy
  refine ⟨v.store.trail rid, rel.trail, ?_⟩
  have sent : s.topic.Perm (messagesOf pub v.store.audit) := by
    have all := mirrors
    unfold MirrorsAll Stage.pending at all
    rwa [drained, messagesOf_nil, List.append_nil] at all
  rw [← filter_messagesOf_audit]
  exact sent.filter _

/-- The approval is committed, and the execution starts and publishes before the approving call has
sent its event. -/
def overtaken : List Signal :=
  [starts (proposeRestart "inc_000000000000000a" 0 0), goesOn 0, goesOn 0, sends 0, sends 0,
    starts (decideOn 0 .approve 10), goesOn 1, goesOn 1,
    starts (executeOn 0 false 20), goesOn 2, goesOn 2, sends 2, sends 2, sends 1]

set_option maxRecDepth 20000 in
/-- The order of the trail is then lost: the key alone does not keep it. -/
example : (controller.exec emptyStage overtaken).any (fun s =>
    s.topic.map (·.envelope.eventType) = ["remediation.proposed", "remediation.policy_evaluated",
      "remediation.execution_started", "remediation.approved"]) = true := by
  decide +kernel

/-- Redacting a text never makes it longer. -/
lemma length_sub_sensitive_le {isWord : WordTable} {text : String} :
    (Regex.sub isWord sensitiveValue redacted text).length ≤ text.length := by
  have short : ∀ as ∈ sensitiveValue, redacted.toList.length ≤ (as.map Regex.minLength).sum := by
    decide
  unfold Regex.sub
  rw [String.length_ofList, ← String.length_toList]
  exact Regex.length_subFrom_le short

/-- A text within the cap is free of secrets after one redaction. -/
lemma not_leaks_redactText {isWord : WordTable} (table : PlainTable isWord) {text : String}
    (short : text.length ≤ 1000) : ¬ Leaks isWord (redactText isWord text) := by
  rw [leaks_redactText_iff table]
  rintro ⟨long, _⟩
  exact absurd long (Nat.not_lt.mpr (length_sub_sensitive_le.trans short))

/-- The empty text is no secret. -/
lemma not_leaks_empty {isWord : WordTable} (table : PlainTable isWord) : ¬ Leaks isWord "" := by
  have clean : ¬ Leaks isWord (redactText isWord "") := not_leaks_redactText table (by decide)
  have same : redactText isWord "" = "" := rfl
  rwa [same] at clean

/-- A published note is free of secrets, and it is the note of the event exactly when that one is. -/
lemma publishedReason_clean (table : PlainTable pub.isWord) (event : RemediationAuditEvent) :
    ¬ Leaks pub.isWord (publishedReason pub event) ∧
      (publishedReason pub event = event.val.reason ↔ ¬ Leaks pub.isWord event.val.reason) := by
  have short : event.val.reason.length ≤ 1000 := event.valid.2.2.2.2.2.1
  have clean : ¬ Leaks pub.isWord (publishedReason pub event) := by
    unfold publishedReason
    split
    · exact not_leaks_empty table
    · exact not_leaks_redactText table short
  refine ⟨clean, ?_, ?_⟩
  · intro same
    rwa [same] at clean
  · intro none
    unfold publishedReason
    split
    · rename_i empty
      exact empty.symm
    · unfold redactText
      rw [sub_of_not_leaks none]
      exact if_neg (Nat.not_lt.mpr short)

/-- The texts of the message that an event is mirrored by. -/
lemma messageOf_texts {event m} (h : messageOf pub event = some m) :
    m.envelope.payload.reason = publishedReason pub event ∧
      ∀ t ∈ m.envelope.payload.failureReason, t = publishedReason pub event := by
  obtain ⟨envelope, he, rfl⟩ := Option.map_eq_some_iff.mp h
  obtain ⟨eventType, _, rfl⟩ := Option.map_eq_some_iff.mp he
  refine ⟨rfl, ?_⟩
  intro t ht
  change t ∈ (if _ then _ else _) at ht
  split at ht
  · rename_i failed
    cases ht
    unfold publishedReason
    rw [if_neg failed.2]
  · cases ht

end SentinelOps.Remediation
