import SentinelOps.Remediation.Invariant

/-!
# Every step keeps the lifecycle invariant

An operation of the store replaces one record (`Update`) by a later version of it, and the new
version agrees with its status (`RecordOk`) because the operation's own check, made under the lock,
fixes the status it starts from. `StepOk` says what a step of one call means for the others: records
evolve, and a record changes only when the call names it and nobody else has a claim on it. From it
`Inv.advance` rebuilds the invariant for all calls.
-/

namespace SentinelOps.Remediation

/-- One record of the store is replaced; nothing else that the invariant looks at changes. -/
structure Update (m m' : InMemoryStore) (rid : String) (rec : RemediationRecord) : Prop where
  get : ∀ r, m'.get r = if r = rid then some rec else m.get r
  executions : ∀ r, m'.executions.get? r = if r = rid then rec.execution else m.executions.get? r
  verifications : ∀ r,
    m'.verifications.get? r = if r = rid then rec.verification else m.verifications.get? r

/-- An update by a record that agrees with its status keeps the store in order. -/
lemma StoreOk.update {m m' rid rec} (h : StoreOk m) (up : Update m m' rid rec)
    (own : rec.remediationId = rid) (ok : RecordOk rec) : StoreOk m' where
  keyed r x hx := by
    rw [up.get] at hx
    split at hx
    · rename_i e
      cases hx
      exact own.trans e.symm
    · exact h.keyed r x hx
  records r x hx := by
    rw [up.get] at hx
    split at hx
    · cases hx
      exact ok
    · exact h.records r x hx
  executions r := by
    rw [up.executions, up.get]
    split
    · rfl
    · exact h.executions r
  verifications r := by
    rw [up.verifications, up.get]
    split
    · rfl
    · exact h.verifications r

/-- After an update of a stored record, every record has evolved. -/
lemma Update.evolves {m m' rid old rec} (up : Update m m' rid rec) (found : m.get rid = some old)
    (ev : Evolves old rec) :
    ∀ r x, m.get r = some x → ∃ x', m'.get r = some x' ∧ Evolves x x' := by
  intro r x hx
  rw [up.get]
  split
  · rename_i e
    rw [e, found] at hx
    cases hx
    exact ⟨rec, rfl, ev⟩
  · exact ⟨x, hx, .refl⟩

/-- After an update at a fresh id, every record is still there. -/
lemma Update.evolves_fresh {m m' rid rec} (up : Update m m' rid rec) (absent : m.get rid = none) :
    ∀ r x, m.get r = some x → ∃ x', m'.get r = some x' ∧ Evolves x x' := by
  intro r x hx
  rw [up.get]
  split
  · rename_i e
    rw [e, absent] at hx
    cases hx
  · exact ⟨x, hx, .refl⟩

/-- A record without an execution or verification is stored by writing it alone. -/
lemma Update.put {m rid rec m'} (h : StoreOk m) (records : m'.records = m.records.set rid rec)
    (executions : m'.executions = m.executions) (verifications : m'.verifications = m.verifications)
    (e : rec.execution = (m.get rid).bind (·.execution))
    (v : rec.verification = (m.get rid).bind (·.verification)) : Update m m' rid rec where
  get r := by
    unfold InMemoryStore.get
    rw [records, Dict.get?_set]
  executions r := by
    rw [executions]
    split
    · rename_i er
      rw [er, h.executions, e]
    · rfl
  verifications r := by
    rw [verifications]
    split
    · rename_i er
      rw [er, h.verifications, v]
    · rfl

/-- A record with a new execution is stored with the dictionary of the executions. -/
lemma Update.putExecution {m : InMemoryStore} {x} (h : StoreOk m) (rid : String)
    (rec : RemediationRecord) (events : List RemediationAuditEvent)
    (new : rec.execution = some x)
    (v : rec.verification = (m.get rid).bind (·.verification)) :
    Update m { m.put rid rec events with executions := m.executions.set rid x } rid rec where
  get r := Dict.get?_set
  executions r := by
    rw [new]
    exact Dict.get?_set
  verifications r := by
    change m.verifications.get? r = _
    split
    · rename_i er
      rw [er, h.verifications, v]
    · rfl

/-- A record with a new verification is stored with the dictionary of the verifications. -/
lemma Update.putVerification {m : InMemoryStore} {x} (h : StoreOk m) (rid : String)
    (rec : RemediationRecord) (events : List RemediationAuditEvent)
    (new : rec.verification = some x)
    (e : rec.execution = (m.get rid).bind (·.execution)) :
    Update m { m.put rid rec events with verifications := m.verifications.set rid x } rid rec where
  get r := Dict.get?_set
  executions r := by
    change m.executions.get? r = _
    split
    · rename_i er
      rw [er, h.executions, e]
    · rfl
  verifications r := by
    rw [new]
    exact Dict.get?_set

/-- A single transition leads from one status to the next. -/
lemma LeadsTo.edge {s t} (h : canTransition s t = true) : LeadsTo s t :=
  .single h

/-- Nothing leads out of a terminal status. -/
lemma LeadsTo.of_terminal {s t} (h : LeadsTo s t) (ts : s.isTerminal = true) : t = s := by
  induction h with
  | refl => rfl
  | tail _ edge ih =>
    subst ih
    rw [isTerminal_iff] at ts
    unfold canTransition at edge
    rw [ts] at edge
    cases edge

/-- Moving the status of a stored record along an edge is an evolution. -/
lemma Evolves.move {rec : RemediationRecord} {st x v} (edge : canTransition rec.status st = true) :
    Evolves rec { rec.withStatus st with execution := x, verification := v } where
  proposal := rfl
  policy := rfl
  approval _ h := h
  status := .edge edge

/-- A record that is neither pending nor blocked has the decision its status calls for. -/
lemma RecordOk.decision {rec} (h : RecordOk rec) (h1 : rec.status ≠ .pendingApproval)
    (h2 : rec.status ≠ .blocked) : ∃ a, rec.approval = some a ∧ DecisionOk rec a := by
  cases ha : rec.approval with
  | none =>
    rcases h.undecided.mp ha with e | e
    · exact absurd e h1
    · exact absurd e h2
  | some a => exact ⟨a, rfl, h.decided a ha⟩

/-- A decided record whose status moves on, other than to a refusal, keeps its decision in order. -/
lemma RecordOk.move {rec : RemediationRecord} {st x v} (h : RecordOk rec)
    (from' : rec.status = .approved ∨ rec.status = .executing ∨ rec.status = .executed ∨
      rec.status = .verifying)
    (into : st ∈ storedStatuses) (into' : st ≠ .pendingApproval ∧ st ≠ .blocked ∧ st ≠ .rejected)
    (hx : x.map (·.val.status) = executionStatusOf st)
    (hv : v.map (·.val.status) = verificationStatusOf st) :
    RecordOk { rec.withStatus st with execution := x, verification := v } := by
  have live : rec.status ≠ .pendingApproval ∧ rec.status ≠ .blocked ∧ rec.status ≠ .rejected := by
    rcases from' with e | e | e | e <;> simp [e]
  obtain ⟨a, ha, dec⟩ := h.decision live.1 live.2.1
  refine ⟨into, ?_, ?_, ?_, hx, hv⟩
  · have pol := h.policy
    rw [if_neg live.2.1] at pol
    change rec.policyDecision.outcome = if st = .blocked then .deny else .allow
    rw [if_neg into'.2.1, pol]
  · change rec.approval = none ↔ st = .pendingApproval ∨ st = .blocked
    simp [ha, into'.1, into'.2.1]
  · intro b hb
    have hb' : rec.approval = some b := hb
    rw [ha] at hb'
    cases hb'
    refine ⟨dec.own, ?_, dec.role, dec.inTime⟩
    have d := dec.decision
    rw [if_neg live.2.2] at d
    change a.val.decision = if st = .rejected then .reject else .approve
    rw [if_neg into'.2.2, d]

/-- What one step of a call means for the store and for the others. -/
structure StepOk (cfg : ServiceConfig) (m m' : InMemoryStore) (req : Request) (ph ph' : Phase) :
    Prop where
  store : StoreOk m'
  call : CallOk cfg m' req ph'
  evolves : ∀ rid rec, m.get rid = some rec → ∃ rec', m'.get rid = some rec' ∧ Evolves rec rec'
  frame : ∀ rid, m'.get rid ≠ m.get rid → rid = req.target ∧
    ∀ rec, m.get rid = some rec → rec.status = .executing ∨ rec.status = .verifying →
      ph.holdsClaim = true
  claim : ph'.holdsClaim = true → ph.holdsClaim = true ∨
    ∀ rec, m.get req.target = some rec → rec.status ≠ .executing ∧ rec.status ≠ .verifying

namespace StepOk

variable {cfg : ServiceConfig} {m m' : InMemoryStore} {req : Request} {ph ph' : Phase}

/-- A step that leaves the store alone. -/
lemma same (h : StoreOk m) (call : CallOk cfg m req ph')
    (claim : ph'.holdsClaim = true → ph.holdsClaim = true) : StepOk cfg m m req ph ph' where
  store := h
  call := call
  evolves _ rec hr := ⟨rec, hr, .refl⟩
  frame _ ne := absurd rfl ne
  claim hc := .inl (claim hc)

/-- A step that ends in an exception and leaves the store alone. -/
lemma raised (h : StoreOk m) {e} : StepOk cfg m m req ph (.raised e) :=
  same h (by cases req <;> exact trivial) (by intro hc; cases hc)

/-- A step that replaces the record the call names by a later version. -/
lemma update {old rec} (h : StoreOk m) (up : Update m m' req.target rec)
    (found : m.get req.target = some old) (ev : Evolves old rec) (ok : RecordOk rec)
    (call : CallOk cfg m' req ph')
    (frame : old.status = .executing ∨ old.status = .verifying → ph.holdsClaim = true)
    (claim : ph'.holdsClaim = true → old.status ≠ .executing ∧ old.status ≠ .verifying) :
    StepOk cfg m m' req ph ph' where
  store := h.update up (ev.remediationId.trans (h.keyed _ _ found)) ok
  call := call
  evolves := up.evolves found ev
  frame rid ne := by
    rw [up.get] at ne
    split at ne
    · rename_i e
      refine ⟨e, ?_⟩
      intro x hx
      rw [e, found] at hx
      cases hx
      exact frame
    · exact absurd rfl ne
  claim hc := by
    refine .inr ?_
    intro x hx
    rw [found] at hx
    cases hx
    exact claim hc

end StepOk

/-- The step of one call, with what it means for the others, keeps the invariant of the world. -/
lemma Inv.advance {cfg} {w : World InMemoryStore} {i : Nat} {c : Call} {m' sim' ph' inv'}
    (h : Inv cfg w) (at_i : w.calls[i]? = some c)
    (st : StepOk cfg w.store m' c.request c.phase ph') :
    Inv cfg { store := m', sim := sim', calls := w.calls.set i { c with phase := ph' }
              invocations := inv' } := by
  have bound : i < w.calls.length := by
    rw [List.getElem?_eq_some_iff] at at_i
    exact at_i.1
  have calls_at : ∀ (j : Nat) (d : Call),
      (w.calls.set i { c with phase := ph' })[j]? = some d →
        (j = i ∧ d = { c with phase := ph' }) ∨ (j ≠ i ∧ w.calls[j]? = some d) := by
    intro j d hd
    rw [List.getElem?_set] at hd
    split at hd
    · rename_i e
      subst e
      exact .inl ⟨rfl, (Option.some.inj hd).symm⟩
    · rename_i ne
      exact .inr ⟨fun e => ne e.symm, hd⟩
  -- a call that already had a claim on the record in question is the one that moves
  have foreign : ∀ (j : Nat) (d : Call), w.calls[j]? = some d → j ≠ i →
      d.phase.holdsClaim = true → d.request.target = c.request.target →
      ¬ (c.phase.holdsClaim = true) := by
    intro j d hd ne hj et hc
    exact ne (h.unique j i d c hd at_i hj hc et)
  refine ⟨st.store, ?_, ?_⟩
  · intro j d hd
    rcases calls_at j d hd with ⟨_, rfl⟩ | ⟨ne, hd⟩
    · exact st.call
    · have ok := h.calls j d hd
      refine ok.mono st.evolves ?_
      intro hj
      by_contra changed
      obtain ⟨et, only⟩ := st.frame _ changed
      obtain ⟨rec, found, claimed⟩ := ok.claimed hj
      exact foreign j d hd ne hj et (only rec found claimed)
  · have clash : ∀ (j : Nat) (d : Call), w.calls[j]? = some d → j ≠ i →
        d.phase.holdsClaim = true → ph'.holdsClaim = true →
        d.request.target ≠ c.request.target := by
      intro j d hd ne hj hc et
      rcases st.claim hc with had | free
      · exact foreign j d hd ne hj et had
      · obtain ⟨rec, found, claimed⟩ := (h.calls j d hd).claimed hj
        rw [et] at found
        rcases claimed with e | e
        · exact (free rec found).1 e
        · exact (free rec found).2 e
    intro j k d e hd he hcd hce et
    rcases calls_at j d hd with ⟨ej, rfl⟩ | ⟨nej, hd'⟩
    · rcases calls_at k e he with ⟨ek, rfl⟩ | ⟨nek, he'⟩
      · rw [ej, ek]
      · exact absurd et.symm (clash k e he' nek hce hcd)
    · rcases calls_at k e he with ⟨ek, rfl⟩ | ⟨nek, he'⟩
      · exact absurd et (clash j d hd' nej hcd hce)
      · exact h.unique j k d e hd' he' hcd hce et

end SentinelOps.Remediation
