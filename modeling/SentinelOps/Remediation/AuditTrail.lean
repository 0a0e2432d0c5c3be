import Mathlib.Computability.RegularExpressions
import SentinelOps.Remediation.Trail
import SentinelOps.Remediation.Lifecycle

/-!
# The audit trail agrees with the state

`TrailOk` ties the trail of every remediation to its stored status; a step appends entries only
together with the status change they record, and a call that is refused or loses a race appends
nothing (`TrailStep`). `audit_trail_agrees` states both over either repository.
-/

namespace SentinelOps.Remediation

variable {cfg : ServiceConfig} {m m' : InMemoryStore}

/-- The entries a stored record must have, and none for an absent one. -/
def expectedTrail (found : Option RemediationRecord) : List Entry :=
  found.elim [] fun rec => trailOf rec.status

/-- The trail of every remediation is the one its status calls for. -/
def TrailOk (m : InMemoryStore) : Prop :=
  ∀ rid, (m.trail rid).map entryOf = expectedTrail (m.get rid)

/-- The call has just committed a transaction, or it has ended without an exception. -/
def Phase.committed : Phase → Bool
  | .executing _ _ | .verifying _ _ | .returned _ => true
  | _ => false

/-- What a step of a call does to the trails. -/
structure TrailStep (m m' : InMemoryStore) (env : Env) (req : Request) (ph' : Phase) : Prop where
  ok : TrailOk m'
  events : EventsOk req ph'
  quiet : ph'.committed = false → (∀ e, env.storage ≠ some (.after e)) → m'.audit = m.audit

/-- The empty store has no trails. -/
lemma TrailOk.empty : TrailOk {} := fun _ => rfl

/-- Appending the entries of a status change. -/
lemma TrailOk.append {rid rec events entries} (h : TrailOk m)
    (audit : m'.audit = m.audit ++ events)
    (get : ∀ r, m'.get r = if r = rid then some rec else m.get r)
    (new : Records events rid entries)
    (next : trailOf rec.status = expectedTrail (m.get rid) ++ entries) : TrailOk m' := by
  intro r
  have split : m'.trail r = m.trail r ++ events.filter fun e => decide (e.val.remediationId = r) := by
    unfold InMemoryStore.trail
    rw [audit, List.filter_append]
  rw [split, List.map_append, h r, get]
  by_cases e : r = rid
  · subst e
    have all : events.filter (fun e => decide (e.val.remediationId = r)) = events := by
      rw [List.filter_eq_self]
      intro x hx
      exact decide_eq_true (new.own x hx)
    rw [all, new.entries, if_pos rfl]
    exact next.symm
  · have none : events.filter (fun e => decide (e.val.remediationId = r)) = [] := by
      rw [List.filter_eq_nil_iff]
      intro x hx hr
      exact e ((of_decide_eq_true hr).symm.trans (new.own x hx))
    rw [none, if_neg e]
    simp

/-- A transaction that the call sees fail took effect only when the failure came after it. -/
lemma commit_error {σ α : Type} {fault} {store store' : σ} {run : Except Error (σ × α)} {e}
    (h : commit fault store run = (store', .error e)) :
    store' = store ∨ ∃ x, fault = some (.after x) := by
  unfold commit at h
  split at h
  · cases h
    exact .inl rfl
  · cases h
    exact .inl rfl
  · rename_i x _ _
    exact .inr ⟨x, rfl⟩
  · cases h

namespace TrailStep

variable {env : Env} {req : Request} {ph' : Phase}

/-- A step that leaves the store alone. -/
lemma same (h : TrailOk m) (events : EventsOk req ph') : TrailStep m m env req ph' where
  ok := h
  events := events
  quiet _ _ := rfl

/-- A computation that leads to a phase with its events in order, or to an exception. -/
lemma settled (h : TrailOk m) {x : Except Error Phase}
    (events : ∀ p, x = .ok p → EventsOk req p) : TrailStep m m env req (settle id x) := by
  cases x with
  | ok p => exact .same h (events p rfl)
  | error e => exact .same h (by cases req <;> exact trivial)

/-- A transaction that appends the entries of the status change it makes. -/
lemma commit {run : Except Error (InMemoryStore × RemediationRecord)} {out}
    {f : RemediationRecord → Phase} (h : TrailOk m)
    (e : Remediation.commit env.storage m run = (m', out))
    (applied : ∀ rec, run = .ok (m', rec) → TrailOk m')
    (events : ∀ rec, EventsOk req (f rec)) (committed : ∀ rec, (f rec).committed = true) :
    TrailStep m m' env req (settle f out) := by
  have ok : TrailOk m' := by
    rcases commit_cases e with ⟨rfl, _⟩ | ⟨rec, hrun, _⟩
    · exact h
    · exact applied rec hrun
  cases out with
  | ok rec =>
    refine ⟨ok, events rec, ?_⟩
    intro hc
    rw [settle, committed rec] at hc
    cases hc
  | error x =>
    refine ⟨ok, by cases req <;> exact trivial, ?_⟩
    intro _ noFault
    rcases commit_error e with rfl | ⟨y, hy⟩
    · rfl
    · exact absurd hy (noFault y)

end TrailStep

/-- The `create` of a proposal appends its first entries. -/
lemma TrailOk.create {rid rec events r} (h : TrailOk m) (own : rec.remediationId = rid)
    (new : Records events rid (trailOf rec.status))
    (run : InMemoryStore.create m rec events = .ok (m', r)) : TrailOk m' := by
  obtain ⟨absent, _, rfl⟩ := InMemoryStore.create_ok run
  rw [own] at absent
  refine @TrailOk.append _ _ rid rec _ _ h rfl ?_ new ?_
  · intro r
    rw [← own]
    exact Dict.get?_set
  · have none : m.get rid = none := absent
    rw [none]
    rfl

/-- A decision appends its entry. -/
lemma TrailOk.recordDecision {r : DecideRequest} {np a events rec'} (store : StoreOk m)
    (h : TrailOk m) (call : CallOk cfg m (.decide r) (.deciding np a events))
    (new : Records events r.remediationId [decisionEntry r.decision])
    (run : InMemoryStore.recordDecision m r.remediationId np a events = .ok (m', rec')) :
    TrailOk m' := by
  obtain ⟨rec, found, undecided, rfl, rfl⟩ := InMemoryStore.recordDecision_ok run
  obtain ⟨rec0, found0, ready⟩ := call
  cases Option.some.inj (found0.symm.trans found)
  have ok := store.records _ _ found
  have pending : rec.status = .pendingApproval := by
    rcases ok.undecided.mp undecided with st | st
    · exact st
    · have pol := ok.policy
      rw [if_pos st, ready.policy] at pol
      cases pol
  refine h.append rfl (fun _ => Dict.get?_set) new ?_
  have now : m.get r.remediationId = some rec := found
  have then' : ({ rec with proposal := np, approval := some a } : RemediationRecord).status =
      r.target := by
    change np.val.status = _
    rw [ready.proposal]
    rfl
  rw [now, then']
  change _ = trailOf rec.status ++ _
  rw [pending]
  unfold DecideRequest.target
  cases r.decision <;> rfl

/-- A claimed execution appends its entries. -/
lemma TrailOk.beginExecution {rid pending events rec'} (h : TrailOk m)
    (new : Records events rid claimEntries)
    (run : InMemoryStore.beginExecution m rid pending events = .ok (m', rec')) : TrailOk m' := by
  obtain ⟨rec, found, approved, _, rfl, rfl⟩ := InMemoryStore.beginExecution_ok run
  refine h.append rfl (fun _ => Dict.get?_set) new ?_
  have now : m.get rid = some rec := found
  rw [now]
  change _ = trailOf rec.status ++ _
  rw [approved]
  rfl

/-- A finished execution appends its entry. -/
lemma TrailOk.finishExecution {rid result final events rec'} (eid : String) (h : TrailOk m)
    (new : Records events rid [executionEntry final])
    (run : InMemoryStore.finishExecution m rid eid result final events = .ok (m', rec')) :
    TrailOk m' := by
  obtain ⟨rec, found, executing, edge, rfl, rfl⟩ := InMemoryStore.finishExecution_ok run
  refine h.append rfl (fun _ => Dict.get?_set) new ?_
  have now : m.get rid = some rec := found
  rw [now]
  change trailOf final = trailOf rec.status ++ _
  rw [executing]
  cases final <;> first | rfl | cases edge

/-- A claimed verification appends its entry. -/
lemma TrailOk.beginVerification {rid pending events rec'} (h : TrailOk m)
    (new : Records events rid [verificationEntry])
    (run : InMemoryStore.beginVerification m rid pending events = .ok (m', rec')) : TrailOk m' := by
  obtain ⟨rec, found, executed, _, rfl, rfl⟩ := InMemoryStore.beginVerification_ok run
  refine h.append rfl (fun _ => Dict.get?_set) new ?_
  have now : m.get rid = some rec := found
  rw [now]
  change _ = trailOf rec.status ++ _
  rw [executed]
  rfl

/-- A finished verification appends its entry. -/
lemma TrailOk.finishVerification {rid result final events rec'} (vid : String) (h : TrailOk m)
    (new : Records events rid [verdictEntry final])
    (run : InMemoryStore.finishVerification m rid vid result final events = .ok (m', rec')) :
    TrailOk m' := by
  obtain ⟨rec, found, verifying, edge, rfl, rfl⟩ := InMemoryStore.finishVerification_ok run
  refine h.append rfl (fun _ => Dict.get?_set) new ?_
  have now : m.get rid = some rec := found
  rw [now]
  change trailOf final = trailOf rec.status ++ _
  rw [verifying]
  cases final <;> first | rfl | cases edge

/-- A record that `get` returns has the id it was asked for. -/
lemma StoreOk.read_keyed (h : StoreOk m) {rid} :
    ∀ rec, InMemoryStore.repository.get m rid = .ok (some rec) → rec.remediationId = rid :=
  fun _ e => h.keyed _ _ (get_repository e)

/-- The first step of an `execute` call leaves the trails alone. -/
lemma TrailStep.execute {r : ExecuteRequest} {env} {w : World InMemoryStore} (store : StoreOk w.store)
    (h : TrailOk w.store) :
    TrailStep w.store (stepExecuteStart InMemoryStore.repository r env w).store env (.execute r)
      (stepExecuteStart InMemoryStore.repository r env w).phase := by
  unfold stepExecuteStart
  dsimp only
  split
  · exact .same h trivial
  · rename_i record checked
    obtain ⟨rec, hread, checked⟩ := Except.bind_eq_ok.mp checked
    obtain ⟨_, _, checked⟩ := Except.bind_eq_ok.mp checked
    cases checked
    split
    · split
      · exact .same h trivial
      · exact .same h trivial
    · apply TrailStep.settled h
      intro p hp
      exact executeStart_events (store.read_keyed _ (readRecord_ok hread)) hp

/-- The step of a call keeps the trails in agreement, wherever the call stands. -/
lemma stepCall_trail {env} {w : World InMemoryStore} {req ph out} (store : StoreOk w.store)
    (call : CallOk cfg w.store req ph) (h : TrailOk w.store) (events : EventsOk req ph)
    (e : stepCall cfg InMemoryStore.repository env w req ph = some out) :
    TrailStep w.store out.store env req out.phase := by
  cases stepCall_stepped e with
  | propose => exact .settled h fun _ hp => proposeStart_events hp
  | decide => exact .settled h fun _ hp => decideStart_events store.read_keyed hp
  | execute => exact .execute store h
  | verifyRecovery => exact .settled h fun _ hp => verifyStart_events store.read_keyed hp
  | create done =>
    have fresh : FreshRecord _ _ := call
    exact .commit h done (fun _ run => h.create fresh.own events run) (fun _ => trivial) fun _ => rfl
  | recordDecision done =>
    exact .commit h done (fun _ run => h.recordDecision store call events run) (fun _ => trivial)
      fun _ => rfl
  | beginExecution done =>
    exact .commit h done (fun _ run => h.beginExecution events run) (fun _ => trivial) fun _ => rfl
  | executor =>
    apply TrailStep.settled h
    intro p hp
    obtain ⟨⟨result, final⟩, _, hp⟩ := Except.bind_eq_ok.mp hp
    exact executeFinish_events (store.keyed _ _ call.1.2.1) hp
  | @finishExecution r _ _ _ _ _ done =>
    exact .commit h done (fun _ run => h.finishExecution (newExecutionId r.token) events run)
      (fun _ => trivial) fun _ => rfl
  | beginVerification done =>
    exact .commit h done (fun _ run => h.beginVerification events run) (fun _ => trivial) fun _ => rfl
  | verifier =>
    apply TrailStep.settled h
    intro p hp
    obtain ⟨outcome, _, hp⟩ := Except.bind_eq_ok.mp hp
    exact verifyFinish_events (store.keyed _ _ call.1) hp
  | @finishVerification r _ _ _ _ _ done =>
    exact .commit h done (fun _ run => h.finishVerification (newVerificationId r.token) events run)
      (fun _ => trivial) fun _ => rfl

/-- The trails of a world agree with its records, and its calls go on to append what they must. -/
structure TrailInv (w : World InMemoryStore) : Prop where
  ok : TrailOk w.store
  calls : ∀ (i : Nat) (c : Call), w.calls[i]? = some c → EventsOk c.request c.phase

/-- A world before any call has its trails in agreement. -/
lemma TrailInv.init {w} (h : (service cfg InMemoryStore.repository).init w) : TrailInv w := by
  obtain ⟨hs, hc, _⟩ := h
  have store : w.store = {} := hs
  refine ⟨store ▸ .empty, ?_⟩
  intro i c hi
  rw [hc] at hi
  cases hi

/-- Every step of the service keeps the trails in agreement. -/
theorem TrailInv.step {w w' : World InMemoryStore} {l} (inv : Inv cfg w) (h : TrailInv w)
    (e : Remediation.step cfg InMemoryStore.repository w l = some w') : TrailInv w' := by
  rcases step_cases e with ⟨r, rfl, rfl⟩ | ⟨i, env, c, out, rfl, hc, ho, rfl⟩
  · refine ⟨h.ok, ?_⟩
    intro j d hd
    rw [List.getElem?_append] at hd
    split at hd
    · exact h.calls j d hd
    · rw [List.getElem?_singleton] at hd
      split at hd
      · cases hd
        cases r <;> exact trivial
      · cases hd
  · have st := stepCall_trail inv.store (inv.calls i c hc) h.ok (h.calls i c hc) ho
    refine ⟨st.ok, ?_⟩
    intro j d hd
    rw [List.getElem?_set] at hd
    split at hd
    · split at hd
      · cases hd
        exact st.events
      · cases hd
    · exact h.calls j d hd

/-- The trails of every reachable world agree with its records. -/
theorem trailInv_of_reachable {w} (h : (service cfg InMemoryStore.repository).Reachable w) :
    TrailInv w :=
  h.invariant' (fun _ => inv_of_reachable) (fun _ => .init) fun _ _ _ inv ht st => ht.step inv st

/-- The audit trail of a remediation, as `list_audit_events` reads it without a limit. -/
def Backend.trail : (b : Backend) → b.Store → String → Except Error (List RemediationAuditEvent)
  | .inMemory, m, rid => .ok (m.trail rid)
  | .sql, s, rid => (s.auditOf rid).mapM rowToAudit

/-- Either repository reads the trail of the dictionaries. -/
lemma Backend.Rel.trail {b : Backend} {w : World b.Store} {v rid} (h : b.Rel w v) :
    b.trail w.store rid = .ok (v.store.trail rid) := by
  cases b with
  | inMemory =>
    cases h
    rfl
  | sql =>
    have rel : SqlRel w.store v.store := h.store
    change (w.store.auditOf rid).mapM rowToAudit = _
    rw [rel.auditOf, mapM_rowToAudit]

/-- A part of the trail that may be missing. -/
def optionally (r : RegularExpression AuditEventType) : RegularExpression AuditEventType := 1 + r

open RegularExpression in
/-- The language of the audit trails. -/
def trailLanguage : RegularExpression AuditEventType :=
  char .proposalCreated * char .policyEvaluated *
    (char .remediationBlocked + optionally (char .rejected + char .approved *
      optionally (char .executionRequested * char .executionStarted *
        optionally (char .executionFailed + char .executionSucceeded *
          optionally (char .verificationStarted *
            optionally (char .verificationSucceeded + char .verificationFailed))))))

/-- The trail of a stored status is a word of the language. -/
lemma trailOf_language {s} (h : s ∈ storedStatuses) :
    (trailOf s).map Prod.fst ∈ trailLanguage.matches' := by
  rw [← RegularExpression.rmatch_iff_matches']
  revert s
  decide

/-- The trail of a stored status ends in that status. -/
lemma trailOf_last {s} (h : s ∈ storedStatuses) :
    (trailOf s).getLast?.bind (·.2.2) = some s := by
  revert s
  decide

/-- Every move in the trail of a status is an edge of the lifecycle. -/
lemma trailOf_edges {s e p} (h : e ∈ trailOf s) (previous : e.2.1 = some p) :
    ∃ t, e.2.2 = some t ∧ (p ≠ t → canTransition p t = true) := by
  have all : ∀ e ∈ trailOf s, e.2.1.all (fun p => e.2.2.any fun t =>
      decide (p ≠ t → canTransition p t = true)) = true := by
    cases s <;> decide
  have one := all e h
  rw [previous] at one
  obtain ⟨t, ht, edge⟩ := (Option.any_eq_true _ _).mp one
  exact ⟨t, ht, of_decide_eq_true edge⟩

/-- The audit trail of a record agrees with it. -/
structure TrailAgrees (trail : List RemediationAuditEvent) (rec : RemediationRecord) : Prop where
  word : trail.map (·.val.eventType) ∈ trailLanguage.matches'
  last : trail.getLast?.bind (·.val.newState) = some rec.status
  edges : ∀ e ∈ trail, ∀ p, e.val.previousState = some p →
    ∃ t, e.val.newState = some t ∧ (p ≠ t → canTransition p t = true)

/-- A trail with the entries its status calls for agrees with the record. -/
lemma TrailAgrees.of_entries {trail rec} (ok : RecordOk rec)
    (h : trail.map entryOf = trailOf rec.status) : TrailAgrees trail rec where
  word := by
    have word := trailOf_language ok.stored
    rw [← h, List.map_map] at word
    exact word
  last := by
    have last := trailOf_last ok.stored
    rw [← h, List.getLast?_map, Option.bind_map] at last
    exact last
  edges e he p hp := by
    have there : entryOf e ∈ trailOf rec.status := h ▸ List.mem_map_of_mem he
    exact trailOf_edges there hp

/-- The audit trail of every remediation agrees with its stored record in every reachable state, and
a step that leaves its call refused, beaten or still undecided appends nothing. -/
theorem audit_trail_agrees (b : Backend) (cfg : ServiceConfig) (w : World b.Store)
    (reach : (b.service cfg).Reachable w) :
    (∀ rid, ∃ found trail, b.lookup w.store rid = .ok found ∧ b.trail w.store rid = .ok trail ∧
      (found = none → trail = []) ∧ ∀ rec ∈ found, TrailAgrees trail rec) ∧
    ∀ i env w' c, (b.service cfg).step w (.advance i env) = some w' → w'.calls[i]? = some c →
      c.phase.committed = false → (∀ e, env.storage ≠ some (.after e)) →
      ∀ rid, b.trail w'.store rid = b.trail w.store rid := by
  obtain ⟨v, rel, inv, reach'⟩ := Backend.related_of_reachable reach
  have abs := rel.abstracts inv
  have trails := trailInv_of_reachable reach'
  constructor
  · intro rid
    refine ⟨v.store.get rid, v.store.trail rid, abs.lookup rid, rel.trail, ?_, ?_⟩
    · intro absent
      have none := trails.ok rid
      rw [absent] at none
      exact List.map_eq_nil_iff.mp none
    · intro rec found
      have entries := trails.ok rid
      rw [found] at entries
      exact .of_entries (inv.store.records rid rec found) entries
  · intro i env w' c st hc quiet noFault rid
    obtain ⟨k, v', hk, st', rel'⟩ := rel.step inv st
    rw [rel.trail, rel'.trail]
    obtain ⟨env', rfl⟩ := hk.advanced rfl
    have next : step cfg InMemoryStore.repository v (.advance i env') = some v' := st'
    rcases step_cases next with ⟨r, e, _⟩ | ⟨j, env1, d, out, e, hd, ho, rfl⟩
    · cases e
    cases e
    have moved := stepCall_trail inv.store (inv.calls i d hd) trails.ok (trails.calls i d hd) ho
    have calls := (rel'.abstracts (inv.step next)).calls
    rw [calls] at hc
    have phase : c.phase = out.phase := by
      change (v.calls.set i _)[i]? = some c at hc
      rw [List.getElem?_set_self (by rw [List.getElem?_eq_some_iff] at hd; exact hd.1)] at hc
      cases hc
      rfl
    rw [phase] at quiet
    have noFault' : ∀ e, env'.storage ≠ some (.after e) := by
      intro x hx
      rcases hk with hk | ⟨_, _, y, _, hk⟩
      · cases hk
        exact noFault x hx
      · cases hk
        cases hx
    unfold InMemoryStore.trail
    rw [moved.quiet quiet noFault']

/-- A restart is proposed; an approval and a rejection both read it as pending, and the approval is
recorded first. -/
def decisionRace : List Label :=
  alone 0 (proposeRestart "inc_000000000000000a" 0 0) 2 ++
    [.call (decideOn 0 .approve 10), .call (decideOn 0 .reject 11), .advance 1 {}, .advance 2 {},
      .advance 1 {}]

set_option maxRecDepth 10000 in
/-- The rejection then loses. -/
lemma decisionRace_states :
    ((Backend.inMemory.service asciiConfig).exec (emptyWorld .inMemory) decisionRace).any
      (fun w => Backend.inMemory.statusOf w.store "rem_0000000000000000" = some .approved ∧
        ((Backend.inMemory.service asciiConfig).step w (.advance 2 {})).any
          (fun w' => w'.calls[2]?.any (fun c => !c.phase.committed) = true) = true) = true := by
  decide +kernel

/-- The trail of the restart agrees with its approval, and the rejection that lost appended
nothing. -/
theorem audit_trail_agrees_decisionRace :
    ∃ w w' rec trail, (Backend.inMemory.service asciiConfig).Run (emptyWorld .inMemory)
        decisionRace w ∧
      Backend.inMemory.lookup w.store "rem_0000000000000000" = .ok (some rec) ∧
      rec.status = .approved ∧
      Backend.inMemory.trail w.store "rem_0000000000000000" = .ok trail ∧
      TrailAgrees trail rec ∧
      (Backend.inMemory.service asciiConfig).step w (.advance 2 {}) = some w' ∧
      Backend.inMemory.trail w'.store "rem_0000000000000000" = .ok trail := by
  obtain ⟨w, run, facts⟩ := (Option.any_eq_true _ _).mp decisionRace_states
  obtain ⟨approved, lost⟩ := of_decide_eq_true facts
  obtain ⟨w', st, lost⟩ := (Option.any_eq_true _ _).mp lost
  obtain ⟨c, hc, quiet⟩ := (Option.any_eq_true _ _).mp (of_decide_eq_true lost)
  have r := Machine.run_iff_exec.mpr run
  have reach : (Backend.inMemory.service asciiConfig).Reachable w :=
    (Machine.Reachable.init emptyWorld_init).run r
  obtain ⟨rec, found, st1⟩ := Backend.statusOf_eq_some approved
  obtain ⟨agrees, silent⟩ := audit_trail_agrees .inMemory asciiConfig w reach
  obtain ⟨found', trail, look, read, _, agree⟩ := agrees "rem_0000000000000000"
  have same : found' = some rec := Except.ok.inj (look.symm.trans found)
  have still := silent 2 {} w' c st hc (by simpa using quiet) (by intro e h; cases h)
    "rem_0000000000000000"
  exact ⟨w, w', rec, trail, r, found, st1, read, agree rec same, st, still.trans read⟩

end SentinelOps.Remediation
