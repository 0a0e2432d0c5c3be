import SentinelOps.Remediation.Routes
import SentinelOps.Remediation.Stranded

/-!
# Concurrent decisions

Several approvals and rejections of one pending remediation, interleaved in any way. A request that
finds the remediation decided when it reads it is answered with 409; one that loses under the lock
raises `RemediationAlreadyDecidedError`, which `_decide` does not catch. `one_decision_iff` gives the
exact condition of a run under which there is one winner and every other request is answered with
409.
-/

namespace SentinelOps.Remediation

variable {cfg : ServiceConfig}

/-- A name that an approval accepts. -/
def WellNamed (username : String) : Prop :=
  (1 ≤ username.length ∧ username.length ≤ 128) ∧ Py.strip username ≠ ""

instance {username} : Decidable (WellNamed username) := inferInstanceAs (Decidable (_ ∧ _))

section
variable {σ : Type} {repo : Repository σ}

/-- The audit event of a decision is accepted. -/
lemma decisionEvent_total {isWord proposal approval previous} {ctx : AuditContext}
    (fits : ∀ c ∈ ctx.correlationId, c.length ≤ 64) :
    ∃ e, decisionEvent isWord proposal approval previous ctx = .ok e := by
  unfold decisionEvent
  refine buildEvent_total rfl ?_ rfl rfl rfl ?_ fits
  · dsimp only
    exact length_redactIdentity
  · dsimp only
    exact length_redactText_le

/-- The read of a request by an authorized user in time: a decided remediation is refused as such, an
undecided one is refused only for the name of the user. -/
lemma decideStart_cases {r store rec} (read : repo.get store r.remediationId = .ok (some rec))
    (own : rec.remediationId = r.remediationId)
    (pending : rec.approval = none → rec.status = .pendingApproval)
    (allowed : rec.status = .pendingApproval → rec.policyDecision.outcome = .allow)
    (inTime : r.now < rec.proposal.val.expiresAt)
    (role : r.decision = .approve → canApprove r.approverRole rec.proposal.val.actionType = true)
    (reason : r.reason.length ≤ 1000) (fits : ∀ c ∈ r.correlationId, c.length ≤ 64) :
    (rec.approval ≠ none ∧
      ∃ e, decideStart cfg repo r none store = .error e ∧ e.cls = .invalidState) ∨
    (rec.approval = none ∧ WellNamed r.approverIdentity ∧
      ∃ np a es, decideStart cfg repo r none store = .ok (.deciding np a es)) ∨
    (rec.approval = none ∧ ¬ WellNamed r.approverIdentity ∧
      ∃ e, decideStart cfg repo r none store = .error e ∧ e.cls = .validation) := by
  have readRec : readRecord repo r.remediationId none store = .ok rec := by
    unfold readRecord readStorage
    dsimp only
    rw [read, Except.ok_bind]
    rfl
  unfold decideStart
  rw [readRec, Except.ok_bind]
  by_cases undecided : rec.approval = none
  · have st := pending undecided
    have checked : checkDecidable rec r.decision r.approverRole r.now = .ok () := by
      unfold checkDecidable
      have st' : rec.proposal.val.status = .pendingApproval := st
      dsimp only
      rw [ensure_of (Option.isNone_iff_eq_none.mpr undecided), Except.ok_bind, ensure_of st',
        Except.ok_bind, ensure_of (allowed st), Except.ok_bind, ensure_of inTime, Except.ok_bind,
        ensure_of role]
    have moves : validateTransition rec.status
        (if r.decision = .approve then .approved else .rejected) = .ok () := by
      rw [st]
      apply ensure_of
      split <;> rfl
    rw [checked, Except.ok_bind]
    dsimp only
    rw [moves, Except.ok_bind]
    refine .inr ?_
    by_cases named : WellNamed r.approverIdentity
    · have valid : Schema.Valid r.approvalFields := by
        refine ⟨matchesId_token, ?_, named.1, named.2, reason⟩
        change isRemediationId r.remediationId = true
        rw [← own]
        exact rec.proposal.valid.1.1
      have built : constructOr "RemediationApproval" r.approvalFields = .ok ⟨_, valid⟩ :=
        constructOr_eq_ok.mpr rfl
      obtain ⟨e, he⟩ := @decisionEvent_total cfg.isWord rec.proposal ⟨_, valid⟩ rec.status
        ⟨r.decidedToken, r.correlationId, r.now⟩ fits
      refine .inl ⟨undecided, named, rec.proposal.withStatus r.target, ⟨_, valid⟩, [e], ?_⟩
      change (constructOr "RemediationApproval" r.approvalFields >>= fun a => _) = _
      rw [built, Except.ok_bind, he, Except.ok_bind]
      rfl
    -- the name is checked last, when the approval is constructed
    · refine .inr ⟨undecided, named, ⟨.validation, "RemediationApproval"⟩, ?_, rfl⟩
      have refused : constructOr "RemediationApproval" r.approvalFields =
          .error ⟨.validation, "RemediationApproval"⟩ := by
        unfold constructOr
        rw [construct_eq_none.mpr]
        rintro ⟨_, _, len, blank, _⟩
        exact named ⟨len, blank⟩
      change (constructOr "RemediationApproval" r.approvalFields >>= fun a => _) = _
      rw [refused]
      rfl
  · refine .inl ⟨undecided, ⟨.invalidState, s!"remediation {rec.proposal.val.remediationId} already has a "
      ++ rec.approval.elim "" (fun a => str a.val.decision) ++ " decision"⟩, ?_, rfl⟩
    unfold checkDecidable
    dsimp only
    rw [ensure_of_not (fun h => undecided (Option.isNone_iff_eq_none.mp h))]
    rfl

end

/-- Whether a repository knows an approval by an id. -/
def Backend.knowsApproval : (b : Backend) → b.Store → String → Prop
  | .inMemory, m, id => ∃ rid rec a, m.get rid = some rec ∧ rec.approval = some a ∧ a.val.approvalId = id
  | .sql, s, id => s.approvals.get? id ≠ none

/-- A healthy step whose approval, if it records one, has a new id. -/
def HealthyDecision (b : Backend) (w : World b.Store) (l : Label) (w' : World b.Store) : Prop :=
  Healthy b w l w' ∧ ∀ i env (c : Call) np a es, l = .advance i env → w.calls[i]? = some c →
    c.phase = .deciding np a es → ¬ b.knowsApproval w.store a.val.approvalId

section
variable {b : Backend} {w : World b.Store} {v : World InMemoryStore}

/-- Both repositories record the first decision on a remediation. -/
lemma Backend.recordDecision_run {r : DecideRequest} {np a es rec} (rel : b.Rel w v)
    (reach : (b.service cfg).Reachable w) (call : CallOk cfg v.store (.decide r) (.deciding np a es))
    (new : EventsOk (.decide r) (.deciding np a es))
    (unknown : ∀ e ∈ es, e.val.auditId ∉ b.auditIds w.store)
    (fresh : ¬ b.knowsApproval w.store a.val.approvalId)
    (found : v.store.get r.remediationId = some rec) (undecided : rec.approval = none) :
    ∃ s', b.repository.recordDecision w.store r.remediationId np a es =
        .ok (s', { rec with proposal := np, approval := some a }) ∧
      b.lookup s' r.remediationId = .ok (some { rec with proposal := np, approval := some a }) := by
  obtain ⟨rec', found', ready⟩ := call
  cases Option.some.inj (found.symm.trans found')
  cases b with
  | inMemory =>
    have same : w = v := rel
    subst same
    have there : w.store.records.get? r.remediationId = some rec := found
    refine ⟨w.store.put r.remediationId { rec with proposal := np, approval := some a } es, ?_,
      congrArg Except.ok get_put⟩
    change InMemoryStore.recordDecision _ _ _ _ _ = _
    unfold InMemoryStore.recordDecision
    rw [there]
    dsimp only
    rw [ensure_of (Option.isNone_iff_eq_none.mpr undecided), Except.ok_bind]
    rfl
  | sql =>
    have tables : SqlRel w.store v.store := rel.store
    have same : np = rec.proposal.withStatus np.val.status := by
      rw [ready.proposal]
      rfl
    have own : a.val.remediationId = r.remediationId := by
      rw [ready.approval]
      rfl
    obtain ⟨s', run, _, tables'⟩ := tables.recordDecision_run (tables.apart (apart_of_reachable reach))
      (by_contra fresh) found undecided same own
      (.of_records new fun e he => rel.unknown (unknown e he))
    refine ⟨s', run, ?_⟩
    change SqlStore.get s' _ = _
    rw [tables'.get]
    exact congrArg Except.ok get_put

/-- Both repositories refuse a second decision. -/
lemma Backend.recordDecision_refused {rid rec} (np a es) (rel : b.Rel w v)
    (found : v.store.get rid = some rec) (decided : rec.approval ≠ none) :
    b.repository.recordDecision w.store rid np a es = .error ⟨.alreadyDecided, rid⟩ := by
  have there : v.store.records.get? rid = some rec := found
  cases b with
  | inMemory =>
    have same : w = v := rel
    subst same
    change InMemoryStore.recordDecision _ _ _ _ _ = _
    unfold InMemoryStore.recordDecision
    rw [there]
    dsimp only
    rw [ensure_of_not (fun h => decided (Option.isNone_iff_eq_none.mp h))]
    rfl
  | sql =>
    have tables : SqlRel w.store v.store := rel.store
    change SqlStore.recordDecision _ _ _ _ _ = _
    unfold SqlStore.recordDecision
    rw [tables.lockRow, found, Option.elim_some, Except.ok_bind, tables.approvals, there,
      Option.bind_some]
    obtain ⟨x, hx⟩ := Option.ne_none_iff_exists'.mp decided
    rw [hx]
    rfl

/-- The write of a request: the first decision is recorded, any other is refused under the lock. -/
lemma deciding_step {w' : World b.Store} {i env} {r : DecideRequest} {np a es rec}
    (reach : (b.service cfg).Reachable w) (st : (b.service cfg).step w (.advance i env) = some w')
    (healthy : HealthyDecision b w (.advance i env) w')
    (hc : w.calls[i]? = some ⟨.decide r, .deciding np a es⟩)
    (look : b.lookup w.store r.remediationId = .ok (some rec)) :
    (rec.approval = none ∧ a.val = r.approvalFields ∧ ∃ rec',
      w'.calls[i]? = some ⟨.decide r, .returned (.record rec')⟩ ∧
      b.lookup w'.store r.remediationId = .ok (some rec') ∧ rec'.approval = some a) ∨
    (rec.approval ≠ none ∧ w'.store = w.store ∧
      w'.calls[i]? = some ⟨.decide r, .raised ⟨.alreadyDecided, r.remediationId⟩⟩) := by
  obtain ⟨v, rel, inv, reachV⟩ := Backend.related_of_reachable reach
  have abs := rel.abstracts inv
  have found : v.store.get r.remediationId = some rec :=
    Except.ok.inj ((abs.lookup _).symm.trans look)
  have hcV : v.calls[i]? = some ⟨.decide r, .deciding np a es⟩ := abs.calls ▸ hc
  have call := inv.calls i _ hcV
  obtain ⟨⟨quiet, unknown⟩, fresh⟩ := And.intro (healthy.1 i env rfl) healthy.2
  obtain ⟨out, ho, store, _, next⟩ := step_advanced st hc
  have outStore : out.store = (commit env.storage w.store
    (b.repository.recordDecision w.store r.remediationId np a es)).1 := by
    cases ho
    rfl
  have outPhase : out.phase = settle (fun rec => .returned (.record rec)) (commit env.storage w.store
      (b.repository.recordDecision w.store r.remediationId np a es)).2 := by
    cases ho
    rfl
  rw [outPhase] at next
  rw [outStore] at store
  by_cases undecided : rec.approval = none
  · obtain ⟨s', run, look'⟩ := Backend.recordDecision_run rel reach call
      ((trailInv_of_reachable reachV).calls i _ hcV) (unknown _ hc) (fresh i env _ np a es rfl hc rfl)
      found undecided
    obtain ⟨_, _, ready⟩ := call
    rw [quiet, run] at next store
    refine .inl ⟨undecided, ready.approval, _, next, ?_, rfl⟩
    rw [store]
    exact look'
  · have run := Backend.recordDecision_refused np a es rel found undecided
    rw [quiet, run] at next store
    exact .inr ⟨undecided, store, next⟩

/-- What a request of an authorized user in time brings along. -/
def Entitled (rec : RemediationRecord) (r : DecideRequest) : Prop :=
  ∃ p : DecisionPost, r = p.decideCall ∧ requireRole "approver" p.user = true ∧
    (r.decision = .approve → canApprove r.approverRole rec.proposal.val.actionType = true) ∧
    r.now < rec.proposal.val.expiresAt

/-- Nothing leads from a pending remediation to a blocked one. -/
lemma LeadsTo.of_pending {s} (h : LeadsTo .pendingApproval s) : s ≠ .blocked := by
  have stays : s ∉ ([.proposed, .policyEvaluation, .blocked] : List RemediationStatus) := by
    induction h with
    | refl => decide
    | @tail x y _ edge ih =>
      have closed : ∀ x ∉ ([.proposed, .policyEvaluation, .blocked] : List RemediationStatus),
          ∀ y ∈ allowedTransitions x, y ∉ ([.proposed, .policyEvaluation, .blocked] : List _) := by
        intro x
        cases x <;> decide
      exact closed x ih y (of_decide_eq_true edge)
  rintro rfl
  exact stays (by decide)

/-- The read of a request: a decided remediation is refused with a 409, an undecided one leads to a
write, unless the name of the user is no name. -/
lemma started_step {w' : World b.Store} {i env} {r : DecideRequest} {rec0 rec}
    (reach : (b.service cfg).Reachable w) (st : (b.service cfg).step w (.advance i env) = some w')
    (healthy : Healthy b w (.advance i env) w') (hc : w.calls[i]? = some ⟨.decide r, .started⟩)
    (look : b.lookup w.store r.remediationId = .ok (some rec)) (ev : Evolves rec0 rec)
    (pending : rec0.status = .pendingApproval) (entitled : Entitled rec0 r) :
    w'.store = w.store ∧
      ((rec.approval ≠ none ∧ ∃ e, w'.calls[i]? = some ⟨.decide r, .raised e⟩ ∧
        e.cls = .invalidState) ∨
      (rec.approval = none ∧ WellNamed r.approverIdentity ∧
        ∃ np a es, w'.calls[i]? = some ⟨.decide r, .deciding np a es⟩) ∨
      (rec.approval = none ∧ ¬ WellNamed r.approverIdentity ∧
        ∃ e, w'.calls[i]? = some ⟨.decide r, .raised e⟩ ∧ e.cls = .validation)) := by
  obtain ⟨v, rel, inv, _⟩ := Backend.related_of_reachable reach
  have found : v.store.get r.remediationId = some rec :=
    Except.ok.inj (((rel.abstracts inv).lookup _).symm.trans look)
  have ok := inv.store.records _ _ found
  have undecided : rec.approval = none → rec.status = .pendingApproval := by
    intro none'
    rcases ok.undecided.mp none' with st | st
    · exact st
    · exact absurd st (LeadsTo.of_pending (pending ▸ ev.status))
  have allowed : rec.status = .pendingApproval → rec.policyDecision.outcome = .allow := by
    intro st
    have pol := ok.policy
    rw [st] at pol
    exact pol
  obtain ⟨p, hp, _, role, inTime⟩ := entitled
  -- who may decide, and until when, is read from a later version of the record
  have sameAction : rec.proposal.val.actionType = rec0.proposal.val.actionType := by rw [ev.val]
  have sameExpiry : rec.proposal.val.expiresAt = rec0.proposal.val.expiresAt := by rw [ev.val]
  obtain ⟨out, ho, store, _, next⟩ := step_advanced st hc
  have outPhase : out.phase = settle id (decideStart cfg b.repository r env.storage w.store) := by
    cases ho
    rfl
  have same : w'.store = w.store := by
    rw [store]
    cases ho
    rfl
  refine ⟨same, ?_⟩
  rw [outPhase, (healthy i env rfl).1] at next
  have reason : r.reason.length ≤ 1000 := by
    rw [hp]
    exact p.body.valid
  have fits : ∀ c ∈ r.correlationId, c.length ≤ 64 := by
    rw [hp]
    exact length_correlationIdOf_le
  rcases @decideStart_cases cfg _ b.repository r w.store rec look (inv.store.keyed _ _ found) undecided
      allowed (sameExpiry ▸ inTime) (fun h => sameAction ▸ role h) reason fits with
    ⟨decided, e, run, cls⟩ | ⟨free, named, np, a, es, run⟩ | ⟨free, unnamed, e, run, cls⟩
  · rw [run] at next
    exact .inl ⟨decided, e, next, cls⟩
  · rw [run] at next
    exact .inr (.inl ⟨free, named, np, a, es, next⟩)
  · rw [run] at next
    exact .inr (.inr ⟨free, unnamed, e, next, cls⟩)

/-- Only a decision on a remediation changes its decision. -/
lemma stepCall_approval {env req ph out rid rec}
    (e : stepCall cfg InMemoryStore.repository env v req ph = some out)
    (found : v.store.get rid = some rec)
    (other : ∀ r np a es, req = .decide r → r.remediationId = rid → ph ≠ .deciding np a es) :
    ∃ rec', out.store.get rid = some rec' ∧ rec'.approval = rec.approval := by
  rcases stepCall_store e with same | ⟨a, written⟩
  · exact ⟨rec, same ▸ found, rfl⟩
  · rcases written.get with ⟨_, _, _, _, absent, get⟩ | ⟨old, there, get, kept⟩
    · refine ⟨rec, ?_, rfl⟩
      rw [get, if_neg]
      · exact found
      · rintro rfl
        cases absent.symm.trans found
    · rw [get]
      split
      · rename_i named
        rw [named, there] at found
        cases found
        refine ⟨a, rfl, ?_⟩
        rcases kept with same | ⟨np, ap, events, rfl⟩
        · exact same
        · cases written with
          | recordDecision => exact absurd rfl (other _ np ap events rfl named.symm)
      · exact ⟨rec, found, rfl⟩

/-- A step that records no decision on a remediation leaves it a later version with the same
decision. -/
lemma step_approval {w' : World b.Store} {l rid rec} (reach : (b.service cfg).Reachable w)
    (st : (b.service cfg).step w l = some w') (look : b.lookup w.store rid = .ok (some rec)) :
    ∃ rec', b.lookup w'.store rid = .ok (some rec') ∧ Evolves rec rec' ∧
      ((∀ i env r np a es, l = .advance i env → r.remediationId = rid →
        w.calls[i]? ≠ some ⟨.decide r, .deciding np a es⟩) → rec'.approval = rec.approval) := by
  obtain ⟨v, rel, inv, _⟩ := Backend.related_of_reachable reach
  have abs := rel.abstracts inv
  have found : v.store.get rid = some rec := Except.ok.inj ((abs.lookup _).symm.trans look)
  obtain ⟨k, v', matched, stV, rel'⟩ := rel.step inv st
  have moved : step cfg InMemoryStore.repository v k = some v' := stV
  obtain ⟨rec', found', ev⟩ := inv.step_evolves moved found
  have look' := (rel'.abstracts (inv.step moved)).lookup rid
  rw [found'] at look'
  refine ⟨rec', look', ev, ?_⟩
  intro other
  rcases step_cases moved with ⟨r, rfl, rfl⟩ | ⟨i, env, c, out, rfl, hc, ho, rfl⟩
  · cases Option.some.inj (found.symm.trans found')
    rfl
  · obtain ⟨env0, rfl⟩ := matched.advance rfl
    have quiet : ∀ r np a es, c.request = .decide r → r.remediationId = rid →
        c.phase ≠ .deciding np a es := by
      intro r np a es req own ph
      obtain ⟨_, _⟩ := c
      cases req
      cases ph
      exact other i env0 r np a es rfl own (abs.calls ▸ hc)
    obtain ⟨rec1, found1, same⟩ := stepCall_approval ho found quiet
    cases Option.some.inj (found1.symm.trans found')
    exact same

/-- The remediation has no decision yet. -/
def Undecided (b : Backend) (store : b.Store) (rid : String) : Prop :=
  ∃ rec, b.lookup store rid = .ok (some rec) ∧ rec.approval = none

/-- The start of a contest: a pending remediation on which no decision is under way. -/
structure Contest (b : Backend) (cfg : ServiceConfig) (w0 : World b.Store) (rid : String)
    (rec0 : RemediationRecord) : Prop where
  reachable : (b.service cfg).Reachable w0
  found : b.lookup w0.store rid = .ok (some rec0)
  pending : rec0.status = .pendingApproval
  idle : ∀ (i : Nat) (c : Call) r, w0.calls[i]? = some c → c.request = .decide r → r.remediationId = rid →
    c.phase.answer ≠ none

/-- A call is a request of the contest. -/
def Enters (w0 : World b.Store) (rid : String) (i : Nat) (c : Call) (r : DecideRequest) : Prop :=
  w0.calls.length ≤ i ∧ c.request = .decide r ∧ r.remediationId = rid

/-- A step of a request that reads the undecided remediation has a user with a name, and one that
writes finds the remediation still undecided. -/
def Undisturbed (b : Backend) (w0 : World b.Store) (rid : String) (w : World b.Store) (l : Label)
    (_ : World b.Store) : Prop :=
  ∀ i env (c : Call) r, l = .advance i env → w.calls[i]? = some c → Enters w0 rid i c r →
    (c.phase = .started → Undecided b w.store rid → WellNamed r.approverIdentity) ∧
    ∀ np a es, c.phase = .deciding np a es → Undecided b w.store rid

/-- The decision of the remediation is the one the call asked for. -/
def Wins (b : Backend) (store : b.Store) (rid : String) (c : Call) (r : DecideRequest) : Prop :=
  (∃ response, c.phase = .returned response) ∧
    ∃ rec a, b.lookup store rid = .ok (some rec) ∧ rec.approval = some a ∧ a.val = r.approvalFields

/-- Where a contest stands as long as no request of it was disturbed. -/
structure Progress (b : Backend) (w0 : World b.Store) (rid : String) (rec0 : RemediationRecord)
    (w : World b.Store) : Prop where
  record : ∃ rec, b.lookup w.store rid = .ok (some rec) ∧ Evolves rec0 rec
  longer : w0.calls.length ≤ w.calls.length
  idle : ∀ (i : Nat) (c : Call) r, i < w0.calls.length → w.calls[i]? = some c → c.request = .decide r →
    r.remediationId = rid → c.phase.answer ≠ none
  stands : ∀ (i : Nat) (c : Call) r, w.calls[i]? = some c → Enters w0 rid i c r →
    c.phase = .started ∨ (∃ np a es, c.phase = .deciding np a es) ∨
      (c.phase.answer = some 409 ∧ ¬ Undecided b w.store rid) ∨ Wins b w.store rid c r
  one : ∀ (i j : Nat) (c d : Call) r q, w.calls[i]? = some c → w.calls[j]? = some d → Enters w0 rid i c r →
    Enters w0 rid j d q → c.phase.answer = some 200 → d.phase.answer = some 200 → i = j
  won : ¬ Undecided b w.store rid → ∃ (i : Nat) (c : Call) (r : DecideRequest), w.calls[i]? = some c ∧ Enters w0 rid i c r ∧
    c.phase.answer = some 200

/-- An undecided remediation has no winner. -/
lemma Wins.decided {store : b.Store} {rid c r} (h : Wins b store rid c r) :
    ¬ Undecided b store rid := by
  obtain ⟨_, rec, a, look, decision, _⟩ := h
  rintro ⟨rec', look', none'⟩
  cases look.symm.trans look'
  rw [decision] at none'
  cases none'

/-- Whether a known remediation is decided. -/
lemma undecided_iff {store : b.Store} {rid rec} (look : b.lookup store rid = .ok (some rec)) :
    Undecided b store rid ↔ rec.approval = none := by
  constructor
  · rintro ⟨rec', look', none'⟩
    cases look.symm.trans look'
    exact none'
  · exact fun none' => ⟨rec, look, none'⟩

/-- A contest begins with all its requests to come. -/
lemma Progress.begin {w0 : World b.Store} {rid rec0} (h : Contest b cfg w0 rid rec0)
    (undecided : rec0.approval = none) : Progress b w0 rid rec0 w0 where
  record := ⟨rec0, h.found, .refl⟩
  longer := Nat.le_refl _
  idle i c r _ hc req own := h.idle i c r hc req own
  stands i c r hc enters := by
    rw [List.getElem?_eq_none enters.1] at hc
    cases hc
  one i j c d r q hc _ enters := by
    rw [List.getElem?_eq_none enters.1] at hc
    cases hc
  won decided := absurd ⟨rec0, h.found, undecided⟩ decided

/-- A new call does not change where a contest stands. -/
lemma Progress.call {w0 w : World b.Store} {rid rec0 q} (h : Progress b w0 rid rec0 w) :
    Progress b w0 rid rec0 { w with calls := w.calls ++ [{ request := q, phase := .started }] } := by
  have split : ∀ (i : Nat) (c : Call), (w.calls ++ [{ request := q, phase := .started }])[i]? =
      some c → w.calls[i]? = some c ∨ (w.calls.length ≤ i ∧ c.phase = .started) := by
    intro i c hc
    rw [List.getElem?_append] at hc
    split at hc
    · exact .inl hc
    · rename_i large
      rw [List.getElem?_singleton] at hc
      split at hc
      · cases hc
        exact .inr ⟨by omega, rfl⟩
      · cases hc
  refine ⟨h.record, ?_, ?_, ?_, ?_, ?_⟩
  · rw [List.length_append]
    exact h.longer.trans (Nat.le_add_right _ _)
  · intro i c r early hc req own
    rcases split i c hc with hc | ⟨late, _⟩
    · exact h.idle i c r early hc req own
    · exact absurd early (by have := h.longer; omega)
  · intro i c r hc enters
    rcases split i c hc with hc | ⟨_, started⟩
    · exact h.stands i c r hc enters
    · exact .inl started
  · intro i j c d r p hc hd ec ed ac ad
    rcases split i c hc with hc | ⟨_, started⟩
    · rcases split j d hd with hd | ⟨_, started⟩
      · exact h.one i j c d r p hc hd ec ed ac ad
      · rw [started] at ad
        cases ad
    · rw [started] at ac
      cases ac
  · intro decided
    obtain ⟨i, c, r, hc, enters, winner⟩ := h.won decided
    refine ⟨i, c, r, ?_, enters, winner⟩
    change (w.calls ++ _)[i]? = some c
    rw [List.getElem?_append_left]
    · exact hc
    · rw [List.getElem?_eq_some_iff] at hc
      exact hc.1

/-- The calls after one of them has moved. -/
lemma calls_moved {calls : List Call} {i j : Nat} {c d : Call}
    (h : (calls.set i c)[j]? = some d) : (j = i ∧ d = c) ∨ (j ≠ i ∧ calls[j]? = some d) := by
  rw [List.getElem?_set] at h
  split at h
  · rename_i e
    split at h
    · exact .inl ⟨e.symm, (Option.some.inj h).symm⟩
    · cases h
  · rename_i ne
    exact .inr ⟨fun e => ne e.symm, h⟩

/-- A step that records no decision leaves a contest where it stands, apart from the request that
moves. -/
lemma Progress.kept {w0 w w' : World b.Store} {rid rec0 rec rec' i} {c : Call} {ph}
    (h : Progress b w0 rid rec0 w) (look : b.lookup w.store rid = .ok (some rec))
    (look' : b.lookup w'.store rid = .ok (some rec')) (ev : Evolves rec rec')
    (same : rec'.approval = rec.approval) (hc : w.calls[i]? = some c)
    (calls : w'.calls = w.calls.set i { c with phase := ph }) (live : c.phase.answer = none)
    (moves : ∀ r, Enters w0 rid i c r → (∃ np a es, ph = .deciding np a es) ∨
      (ph.answer = some 409 ∧ rec.approval ≠ none)) : Progress b w0 rid rec0 w' := by
  have still : Undecided b w'.store rid ↔ Undecided b w.store rid := by
    rw [undecided_iff look, undecided_iff look', same]
  have wins : ∀ d q, Wins b w.store rid d q → Wins b w'.store rid d q := by
    rintro d q ⟨returned, x, a, lookx, decision, fields⟩
    cases look.symm.trans lookx
    exact ⟨returned, rec', a, look', same.trans decision, fields⟩
  have loses : ∀ r, Enters w0 rid i c r → ph.answer ≠ some 200 := by
    intro r enters
    rcases moves r enters with ⟨np, a, es, rfl⟩ | ⟨answer, _⟩
    · simp [Phase.answer]
    · rw [answer]
      decide
  -- the request that moves had no answer and gets none of 200, so the winner stays who it was
  refine ⟨?_, ?_, ?_, ?_, ?_, ?_⟩
  · obtain ⟨x, lookx, evx⟩ := h.record
    cases look.symm.trans lookx
    exact ⟨rec', look', evx.trans ev⟩
  · rw [calls, List.length_set]
    exact h.longer
  · intro j d r early hd req own
    rw [calls] at hd
    rcases calls_moved hd with ⟨rfl, rfl⟩ | ⟨_, hd⟩
    · exact absurd live (h.idle j c r early hc req own)
    · exact h.idle j d r early hd req own
  · intro j d r hd enters
    rw [calls] at hd
    rcases calls_moved hd with ⟨rfl, rfl⟩ | ⟨_, hd⟩
    · rcases moves r enters with going | ⟨answer, decided⟩
      · exact .inr (.inl going)
      · exact .inr (.inr (.inl ⟨answer, fun u => decided ((undecided_iff look).mp (still.mp u))⟩))
    · rcases h.stands j d r hd enters with s | s | ⟨answer, decided⟩ | winner
      · exact .inl s
      · exact .inr (.inl s)
      · exact .inr (.inr (.inl ⟨answer, fun u => decided (still.mp u)⟩))
      · exact .inr (.inr (.inr (wins d r winner)))
  · intro j k d e r q hd he ed ee ad ae
    rw [calls] at hd he
    rcases calls_moved hd with ⟨rfl, rfl⟩ | ⟨_, hd⟩
    · exact absurd ad (loses r ed)
    · rcases calls_moved he with ⟨rfl, rfl⟩ | ⟨_, he⟩
      · exact absurd ae (loses q ee)
      · exact h.one j k d e r q hd he ed ee ad ae
  · intro decided
    obtain ⟨j, d, r, hd, enters, winner⟩ := h.won fun u => decided (still.mpr u)
    refine ⟨j, d, r, ?_, enters, winner⟩
    rw [calls, List.getElem?_set_ne]
    · exact hd
    · rintro rfl
      cases hc.symm.trans hd
      rw [live] at winner
      cases winner

/-- The step that records the decision makes its request the winner. -/
lemma Progress.win {w0 w w' : World b.Store} {rid rec0 rec rec' i} {r : DecideRequest} {np a es}
    {response} (h : Progress b w0 rid rec0 w) (look : b.lookup w.store rid = .ok (some rec))
    (look' : b.lookup w'.store rid = .ok (some rec')) (ev : Evolves rec rec')
    (undecided : rec.approval = none) (decision : rec'.approval = some a)
    (fields : a.val = r.approvalFields) (hc : w.calls[i]? = some ⟨.decide r, .deciding np a es⟩)
    (calls : w'.calls = w.calls.set i ⟨.decide r, .returned response⟩)
    (enters : Enters w0 rid i ⟨.decide r, .deciding np a es⟩ r) : Progress b w0 rid rec0 w' := by
  have free : Undecided b w.store rid := (undecided_iff look).mpr undecided
  have taken : ¬ Undecided b w'.store rid := by
    rw [undecided_iff look', decision]
    simp
  -- as long as there is no decision, no request has been answered
  have nobody : ∀ j (d : Call) q, w.calls[j]? = some d → Enters w0 rid j d q →
      d.phase = .started ∨ ∃ np a es, d.phase = .deciding np a es := by
    intro j d q hd ed
    rcases h.stands j d q hd ed with s | s | ⟨_, decided⟩ | winner
    · exact .inl s
    · exact .inr s
    · exact absurd free decided
    · exact absurd free winner.decided
  have bound : i < w.calls.length := by
    rw [List.getElem?_eq_some_iff] at hc
    exact hc.1
  refine ⟨?_, ?_, ?_, ?_, ?_, ?_⟩
  · obtain ⟨x, lookx, evx⟩ := h.record
    cases look.symm.trans lookx
    exact ⟨rec', look', evx.trans ev⟩
  · rw [calls, List.length_set]
    exact h.longer
  · intro j d q early hd req own
    rw [calls] at hd
    rcases calls_moved hd with ⟨rfl, rfl⟩ | ⟨_, hd⟩
    · simp [Phase.answer]
    · exact h.idle j d q early hd req own
  · intro j d q hd ed
    rw [calls] at hd
    rcases calls_moved hd with ⟨rfl, rfl⟩ | ⟨_, hd⟩
    · cases ed.2.1
      exact .inr (.inr (.inr ⟨⟨response, rfl⟩, rec', a, look', decision, fields⟩))
    · rcases nobody j d q hd ed with s | s
      · exact .inl s
      · exact .inr (.inl s)
  · have only : ∀ j (d : Call) q, w'.calls[j]? = some d → Enters w0 rid j d q →
        d.phase.answer = some 200 → j = i := by
      intro j d q hd ed ad
      rw [calls] at hd
      rcases calls_moved hd with ⟨rfl, _⟩ | ⟨_, hd⟩
      · rfl
      · rcases nobody j d q hd ed with s | ⟨_, _, _, s⟩ <;> rw [s] at ad <;> cases ad
    intro j k d e q p hd he ed ee ad ae
    rw [only j d q hd ed ad, only k e p he ee ae]
  · intro _
    refine ⟨i, ⟨.decide r, .returned response⟩, r, ?_, ⟨enters.1, rfl, enters.2.2⟩, rfl⟩
    rw [calls]
    exact List.getElem?_set_self bound

/-- A decision call that has not been answered has just started or is about to write. -/
lemma decide_phase {m r ph} (call : CallOk cfg m (.decide r) ph) (live : ph.answer = none) :
    ph = .started ∨ ∃ np a es, ph = .deciding np a es := by
  cases ph with
  | started => exact .inl rfl
  | deciding np a es => exact .inr ⟨np, a, es, rfl⟩
  | returned response => cases live
  | raised e => cases live
  | _ => exact absurd call id

/-- A call that takes a step has not been answered. -/
lemma live_of_step {w' : World b.Store} {i env} {c : Call}
    (st : (b.service cfg).step w (.advance i env) = some w') (hc : w.calls[i]? = some c) :
    c.phase.answer = none := by
  by_contra h
  obtain ⟨out, ho, _⟩ := step_advanced st hc
  rw [stepCall_answered h] at ho
  cases ho

/-- An undisturbed step keeps track of where a contest stands. -/
lemma Progress.step {w0 w' : World b.Store} {rid rec0 l} (h : Progress b w0 rid rec0 w)
    (contest : Contest b cfg w0 rid rec0) (reach : (b.service cfg).Reachable w)
    (st : (b.service cfg).step w l = some w') (healthy : HealthyDecision b w l w')
    (undisturbed : Undisturbed b w0 rid w l w')
    (entitled : ∀ i (c : Call) r, w.calls[i]? = some c → Enters w0 rid i c r → Entitled rec0 r) :
    Progress b w0 rid rec0 w' := by
  obtain ⟨rec, look, ev⟩ := h.record
  obtain ⟨rec', look', ev', same⟩ := step_approval reach st look
  rcases step_cases st with ⟨q, rfl, rfl⟩ | ⟨i, env, c, out, rfl, hc, ho, moved⟩
  · exact h.call
  have live := live_of_step st hc
  have calls : w'.calls = w.calls.set i { c with phase := out.phase } := by
    rw [moved]
  have next : w'.calls[i]? = some { c with phase := out.phase } := by
    rw [calls]
    rw [List.getElem?_eq_some_iff] at hc
    exact List.getElem?_set_self hc.1
  have phase : ∀ {ph}, w'.calls[i]? = some { c with phase := ph } → out.phase = ph :=
    fun e => congrArg Call.phase (Option.some.inj (next.symm.trans e))
  by_cases enters : ∃ r, Enters w0 rid i c r
  · obtain ⟨r, enters⟩ := enters
    obtain ⟨named, free⟩ := undisturbed i env c r rfl hc enters
    have mine := entitled i c r hc enters
    rcases h.stands i c r hc enters with started | ⟨np, a, es, deciding⟩ | ⟨answer, _⟩ | winner
    · obtain ⟨req, ph⟩ := c
      obtain ⟨late, rfl, rfl⟩ := enters
      cases started
      have kept := same fun j env' q np a es e _ hj => by
        cases e
        cases hc.symm.trans hj
      obtain ⟨_, ⟨decided, e, seen, cls⟩ | ⟨undecided, _, np, a, es, seen⟩ | ⟨undecided, unnamed, _⟩⟩ :=
        started_step reach st healthy.1 hc look ev contest.pending mine
      · refine h.kept look look' ev' kept hc calls live fun _ _ => .inr ⟨?_, decided⟩
        rw [phase seen]
        simp [Phase.answer, decisionErrorStatus, cls]
      · exact h.kept look look' ev' kept hc calls live fun _ _ => .inl ⟨np, a, es, phase seen⟩
      · exact absurd (named rfl ((undecided_iff look).mpr undecided)) unnamed
    · obtain ⟨req, ph⟩ := c
      obtain ⟨late, rfl, rfl⟩ := enters
      cases deciding
      obtain ⟨undecided, fields, rec1, seen, look1, decision⟩ | ⟨decided, _⟩ :=
        deciding_step reach st healthy hc look
      · cases look'.symm.trans look1
        rw [phase seen] at calls
        exact h.win look look' ev' undecided decision fields hc calls ⟨late, rfl, rfl⟩
      · exact absurd ((undecided_iff look).mp (free np a es rfl)) decided
    · rw [live] at answer
      cases answer
    · obtain ⟨⟨response, returned⟩, _⟩ := winner
      rw [returned] at live
      cases live
  · refine h.kept look look' ev' (same ?_) hc calls live fun r e => absurd ⟨r, e⟩ enters
    intro j env' q np a es e own hj
    cases e
    cases hc.symm.trans hj
    by_cases late : w0.calls.length ≤ i
    · exact enters ⟨q, late, rfl, own⟩
    · exact h.idle i _ q (by omega) hc rfl own rfl

/-- A call that has been answered stays as it is. -/
lemma answered_stays {w' : World b.Store} {ls} {i : Nat} {c : Call} (r : (b.service cfg).Run w ls w')
    (hc : w.calls[i]? = some c) (answered : c.phase.answer ≠ none) : w'.calls[i]? = some c := by
  induction r with
  | nil => exact hc
  | cons st _ ih =>
    apply ih
    rcases step_cases st with ⟨q, rfl, rfl⟩ | ⟨j, env, d, out, rfl, hd, ho, rfl⟩
    · change (List.append _ _)[i]? = some c
      rw [List.append_eq, List.getElem?_append_left]
      · exact hc
      · rw [List.getElem?_eq_some_iff] at hc
        exact hc.1
    · change (List.set _ j _)[i]? = some c
      rw [List.getElem?_set_ne]
      · exact hc
      · rintro rfl
        cases hc.symm.trans hd
        rw [stepCall_answered answered] at ho
        cases ho

/-- A call keeps its request. -/
lemma request_stays {w' : World b.Store} {ls} {i : Nat} {c : Call} (r : (b.service cfg).Run w ls w')
    (hc : w.calls[i]? = some c) : ∃ d : Call, w'.calls[i]? = some d ∧ d.request = c.request := by
  induction r generalizing c with
  | nil => exact ⟨c, hc, rfl⟩
  | cons st _ ih =>
    have bound := hc
    rw [List.getElem?_eq_some_iff] at bound
    rcases step_cases st with ⟨q, rfl, rfl⟩ | ⟨j, env, d, out, rfl, hd, ho, rfl⟩
    · apply ih
      change (List.append _ _)[i]? = some c
      rw [List.append_eq, List.getElem?_append_left bound.1]
      exact hc
    · by_cases same : j = i
      · subst same
        cases hc.symm.trans hd
        exact @ih { c with phase := out.phase } (List.getElem?_set_self bound.1)
      · apply ih
        change (List.set _ j _)[i]? = some c
        rw [List.getElem?_set_ne same]
        exact hc

/-- An entry that records a decision. -/
def isDecision (e : Entry) : Bool := decide (e.1 = .approved ∨ e.1 = .rejected)

/-- The decision of a call is the one decision of the remediation, with one approval row and one
event in the trail. -/
def Recorded (b : Backend) (store : b.Store) (rid : String) (r : DecideRequest) : Prop :=
  ∃ rec a trail, b.lookup store rid = .ok (some rec) ∧ rec.approval = some a ∧
    a.val = r.approvalFields ∧ b.approvals store rid = [approvalToRow rid a] ∧
    b.trail store rid = .ok trail ∧ (trail.map entryOf).filter isDecision = [decisionEntry r.decision]

/-- A step of a request that does not win leaves the store alone. -/
def Spares {b : Backend} (w0 : World b.Store) (rid : String) (w : World b.Store) (l : Label)
    (w' : World b.Store) : Prop :=
  ∀ i env (c : Call) r, l = .advance i env → w'.calls[i]? = some c → Enters w0 rid i c r →
    c.phase.answer ≠ some 200 → w'.store = w.store

/-- One request of a contest won and is recorded, every other one was answered with 409, and none of
those changed anything. -/
structure OneWinner (b : Backend) (cfg : ServiceConfig) (w0 : World b.Store) (rid : String)
    (ls : List Label) (w : World b.Store) : Prop where
  winner : ∃ (i : Nat) (c : Call) (r : DecideRequest), w.calls[i]? = some c ∧ Enters w0 rid i c r ∧
    c.phase.answer = some 200 ∧ Recorded b w.store rid r ∧
    ∀ (j : Nat) (d : Call) q, w.calls[j]? = some d → Enters w0 rid j d q → j ≠ i →
      d.phase.answer = some 409
  losers : (b.service cfg).EachStep (Spares w0 rid) w0 ls

/-- The decision of a stored remediation is the only one in its trail. -/
lemma trailOf_decision {rec a} (ok : RecordOk rec) (decision : rec.approval = some a) :
    (trailOf rec.status).filter isDecision = [decisionEntry a.val.decision] := by
  have dec := (ok.decided a decision).decision
  have late : ¬ (rec.status = .pendingApproval ∨ rec.status = .blocked) := by
    rw [← ok.undecided, decision]
    simp
  have stored := ok.stored
  rw [dec]
  revert stored late
  generalize rec.status = s
  revert s
  intro s stored late
  have all : ∀ s ∈ storedStatuses, ¬ (s = .pendingApproval ∨ s = .blocked) →
      (trailOf s).filter isDecision = [decisionEntry (if s = .rejected then .reject else .approve)] := by
    decide
  exact all s late stored

/-- The decision of a winner is recorded. -/
lemma Wins.recorded {rid c r} (reach : (b.service cfg).Reachable w)
    (h : Wins b w.store rid c r) : Recorded b w.store rid r := by
  obtain ⟨_, rec, a, look, decision, fields⟩ := h
  obtain ⟨v, rel, inv, reachV⟩ := Backend.related_of_reachable reach
  have abs := rel.abstracts inv
  have found : v.store.get rid = some rec := Except.ok.inj ((abs.lookup _).symm.trans look)
  have rows := abs.approvals rid
  rw [found, Option.bind_some, decision] at rows
  have entries := (trailInv_of_reachable reachV).ok rid
  rw [found] at entries
  refine ⟨rec, a, _, look, decision, fields, rows, rel.trail, ?_⟩
  rw [entries]
  change (trailOf rec.status).filter isDecision = _
  rw [trailOf_decision (inv.store.records _ _ found) decision, fields]
  rfl

/-- A record of a run that starts from a contest is a later version of the contested one. -/
lemma Contest.record {w0 : World b.Store} {rid rec0 ls} (h : Contest b cfg w0 rid rec0)
    (r : (b.service cfg).Run w0 ls w) :
    ∃ rec, b.lookup w.store rid = .ok (some rec) ∧ Evolves rec0 rec := by
  have kept : (b.service cfg).Reachable w ∧
      ∃ rec, b.lookup w.store rid = .ok (some rec) ∧ Evolves rec0 rec := by
    apply r.invariant (I := fun w => (b.service cfg).Reachable w ∧
      ∃ rec, b.lookup w.store rid = .ok (some rec) ∧ Evolves rec0 rec)
    · rintro u l u' ⟨reach, rec, look, ev⟩ st
      obtain ⟨rec', look', ev', _⟩ := step_approval reach st look
      exact ⟨reach.step st, rec', look', ev.trans ev'⟩
    · exact ⟨h.reachable, rec0, h.found, .refl⟩
  exact kept.2

/-- A contested remediation starts undecided. -/
lemma Contest.undecided {w0 : World b.Store} {rid rec0} (h : Contest b cfg w0 rid rec0) :
    rec0.approval = none := by
  obtain ⟨v, rel, inv, _⟩ := Backend.related_of_reachable h.reachable
  have found : v.store.get rid = some rec0 :=
    Except.ok.inj (((rel.abstracts inv).lookup _).symm.trans h.found)
  exact (inv.store.records _ _ found).undecided.mpr (.inl h.pending)

/-- What a step of a request does: it spares the store unless it wins, and where it is disturbed it is
answered with 500. -/
lemma request_step {w0 w' : World b.Store} {rid rec0 rec i env} {c : Call} {r}
    (contest : Contest b cfg w0 rid rec0) (reach : (b.service cfg).Reachable w)
    (st : (b.service cfg).step w (.advance i env) = some w')
    (healthy : HealthyDecision b w (.advance i env) w')
    (look : b.lookup w.store rid = .ok (some rec)) (ev : Evolves rec0 rec)
    (hc : w.calls[i]? = some c) (enters : Enters w0 rid i c r) (entitled : Entitled rec0 r) :
    (w'.store = w.store ∨ ∃ d : Call, w'.calls[i]? = some d ∧ d.phase.answer = some 200) ∧
      (((c.phase = .started → Undecided b w.store rid → WellNamed r.approverIdentity) ∧
        ∀ np a es, c.phase = .deciding np a es → Undecided b w.store rid) ∨
      ∃ d : Call, w'.calls[i]? = some d ∧ d.phase.answer = some 500) := by
  obtain ⟨v, rel, inv, _⟩ := Backend.related_of_reachable reach
  obtain ⟨req, ph⟩ := c
  obtain ⟨late, rfl, rfl⟩ := enters
  have call := inv.calls i _ ((rel.abstracts inv).calls ▸ hc)
  rcases decide_phase call (live_of_step st hc) with started | ⟨np, a, es, deciding⟩
  · cases started
    obtain ⟨same, seen⟩ := started_step reach st healthy.1 hc look ev contest.pending entitled
    refine ⟨.inl same, ?_⟩
    rcases seen with ⟨decided, _⟩ | ⟨_, named, _⟩ | ⟨_, _, e, seen, cls⟩
    · refine .inl ⟨fun _ u => absurd ((undecided_iff look).mp u) decided, ?_⟩
      intro np a es h
      cases h
    · refine .inl ⟨fun _ _ => named, ?_⟩
      intro np a es h
      cases h
    · exact .inr ⟨_, seen, by simp [Phase.answer, decisionErrorStatus, cls]⟩
  · cases deciding
    obtain ⟨undecided, _, rec1, seen, _⟩ | ⟨_, same, seen⟩ := deciding_step reach st healthy hc look
    · refine ⟨.inr ⟨_, seen, rfl⟩, .inl ⟨?_, fun _ _ _ _ => (undecided_iff look).mpr undecided⟩⟩
      intro h
      cases h
    · exact ⟨.inl same, .inr ⟨_, seen, rfl⟩⟩

/-- Concurrent decisions on a pending remediation have one winner, and every other request is
answered with 409 and changes nothing, exactly when no request was disturbed: each one that read the
remediation undecided has a user with a name and finds it still undecided when it writes. -/
theorem one_decision_iff (b : Backend) (cfg : ServiceConfig) (w0 w : World b.Store) (rid : String)
    (rec0 : RemediationRecord) (ls : List Label) (contest : Contest b cfg w0 rid rec0)
    (run : (b.service cfg).Run w0 ls w)
    (healthy : (b.service cfg).EachStep (HealthyDecision b) w0 ls)
    (requests : ∀ (i : Nat) (c : Call) r, w.calls[i]? = some c → Enters w0 rid i c r →
      Entitled rec0 r ∧ c.phase.answer ≠ none)
    (some' : ∃ (i : Nat) (c : Call) (r : DecideRequest), w.calls[i]? = some c ∧ Enters w0 rid i c r) :
    OneWinner b cfg w0 rid ls w ↔ (b.service cfg).EachStep (Undisturbed b w0 rid) w0 ls := by
  -- the requests under way in the middle of the run are those of its end
  have known : ∀ ls1 ls2 u, ls = ls1 ++ ls2 → (b.service cfg).Run w0 ls1 u → ∀ (i : Nat) (c : Call) r,
      u.calls[i]? = some c → Enters w0 rid i c r → Entitled rec0 r := by
    rintro ls1 ls2 u rfl r1 i c r hc enters
    obtain ⟨t, r1', r2⟩ := run.cut
    cases r1.deterministic r1'
    obtain ⟨d, hd, same⟩ := request_stays r2 hc
    exact (requests i d r hd ⟨enters.1, same.trans enters.2.1, enters.2.2⟩).1
  constructor
  · rintro ⟨⟨i, c, r, hc, ec, won, _, others⟩, _⟩ ls1 l ls2 u u' split r1 st j env d q rfl hd ed
    have reach := contest.reachable.run r1
    obtain ⟨rec, look, ev⟩ := contest.record r1
    obtain ⟨_, fine | ⟨e, he, disturbed⟩⟩ := request_step contest reach st
      (healthy ls1 _ ls2 u u' split r1 st) look ev hd ed (known ls1 _ u split r1 j d q hd ed)
    · exact fine
    · subst split
      obtain ⟨t, r1', r2⟩ := run.cut
      cases r1.deterministic r1'
      cases r2 with
      | cons st' r2 =>
        cases st.symm.trans st'
        have last := answered_stays r2 he (by rw [disturbed]; simp)
        obtain ⟨d', hd', same⟩ := request_stays (.cons st r2) hd
        cases last.symm.trans hd'
        have enters : Enters w0 rid j e q := ⟨ed.1, same.trans ed.2.1, ed.2.2⟩
        by_cases ij : j = i
        · subst ij
          cases last.symm.trans hc
          rw [disturbed] at won
          cases won
        · rw [others j e q last enters ij] at disturbed
          cases disturbed
  · intro undisturbed
    have both : (b.service cfg).Reachable w ∧ Progress b w0 rid rec0 w := by
      have each : (b.service cfg).EachStep (fun u l u' => HealthyDecision b u l u' ∧
          Undisturbed b w0 rid u l u' ∧ ∀ (i : Nat) (c : Call) r, u.calls[i]? = some c →
            Enters w0 rid i c r → Entitled rec0 r) w0 ls :=
        fun ls1 l ls2 u u' split r1 st => ⟨healthy ls1 l ls2 u u' split r1 st,
          undisturbed ls1 l ls2 u u' split r1 st, known ls1 _ u split r1⟩
      apply run.invariant_of (I := fun u => (b.service cfg).Reachable u ∧ Progress b w0 rid rec0 u) each
      · rintro u l u' ⟨reach, progress⟩ ⟨sound, free, entitled⟩ st
        exact ⟨reach.step st, progress.step contest reach st sound free entitled⟩
      · exact ⟨contest.reachable, .begin contest contest.undecided⟩
    obtain ⟨reach, progress⟩ := both
    refine ⟨?_, ?_⟩
    · have decided : ¬ Undecided b w.store rid := by
        obtain ⟨i, c, r, hc, enters⟩ := some'
        have answered := (requests i c r hc enters).2
        rcases progress.stands i c r hc enters with s | ⟨_, _, _, s⟩ | ⟨_, decided⟩ | winner
        · rw [s] at answered
          exact absurd rfl answered
        · rw [s] at answered
          exact absurd rfl answered
        · exact decided
        · exact winner.decided
      obtain ⟨i, c, r, hc, enters, won⟩ := progress.won decided
      refine ⟨i, c, r, hc, enters, won, ?_, ?_⟩
      · rcases progress.stands i c r hc enters with s | ⟨_, _, _, s⟩ | ⟨answer, _⟩ | winner
        · rw [s] at won
          cases won
        · rw [s] at won
          cases won
        · rw [answer] at won
          cases won
        · exact winner.recorded reach
      · intro j d q hd ed ne
        have answered := (requests j d q hd ed).2
        rcases progress.stands j d q hd ed with s | ⟨_, _, _, s⟩ | ⟨answer, _⟩ | ⟨⟨response, s⟩, _⟩
        · rw [s] at answered
          exact absurd rfl answered
        · rw [s] at answered
          exact absurd rfl answered
        · exact answer
        · exact absurd (progress.one j i d c q r hd hc ed enters (by rw [s]; rfl) won) ne
    · rintro ls1 l ls2 u u' split r1 st i env d q rfl hd ed lost
      have reach := contest.reachable.run r1
      obtain ⟨rec, look, ev⟩ := contest.record r1
      have there : ∃ c : Call, u.calls[i]? = some c := by
        have moved : step cfg b.repository u (.advance i env) = some u' := st
        rcases step_cases moved with ⟨_, e, _⟩ | ⟨_, _, c, _, e, hc, _⟩
        · cases e
        · cases e
          exact ⟨c, hc⟩
      obtain ⟨c, hc⟩ := there
      obtain ⟨d', hd', same⟩ := request_stays (.single st) hc
      cases hd.symm.trans hd'
      have enters : Enters w0 rid i c q := ⟨ed.1, same.symm.trans ed.2.1, ed.2.2⟩
      obtain ⟨spared | ⟨e, he, won⟩, _⟩ := request_step contest reach st
        (healthy ls1 _ ls2 u u' split r1 st) look ev hc enters (known ls1 _ u split r1 i c q hc enters)
      · exact spared
      · cases hd.symm.trans he
        exact absurd won lost

end

/-- A responder's post to a decision route, at a time in seconds. -/
def postOn (n : Fin 16) (decision : ApprovalDecision) (at' : Int) : DecisionPost where
  remediationId := newRemediationId (.digits 0 n)
  decision
  user := { username := "responder", role := "approver" }
  body := ⟨{}, by decide⟩
  now := seconds at'
  token := .digits (if decision = .approve then 0 else 1) n
  decidedToken := .digits (if decision = .approve then 4 else 10) n

/-- A restart is proposed and waits for its decision. -/
def restartProposed : List Label := alone 0 (proposeRestart "inc_000000000000000a" 0 0) 2

/-- An approval and a rejection of the restart, whose steps follow in the given order. -/
def approvalAndRejection (order : List Nat) : List Label :=
  .call (.decide (postOn 0 .approve 10).decideCall) ::
    .call (.decide (postOn 0 .reject 11).decideCall) :: order.map fun i => .advance i {}

/-- Whether a step is healthy and its approval has a new id. -/
def healthyDecisionTest (w : World InMemoryStore) (l : Label) : Bool :=
  healthyTest .inMemory w l && match l with
    | .call _ => true
    | .advance i _ => w.calls[i]?.all fun c => match c.phase with
      | .deciding _ a _ => w.store.records.values.all fun rec =>
        rec.approval.all fun x => decide (x.val.approvalId ≠ a.val.approvalId)
      | _ => true

/-- A step that passes the test is healthy. -/
lemma healthyDecision_of_test {w w' : World InMemoryStore} {l} (h : healthyDecisionTest w l = true) :
    HealthyDecision .inMemory w l w' := by
  obtain ⟨healthy, fresh⟩ := (Bool.and_eq_true _ _).mp h
  refine ⟨healthy_of_test healthy, ?_⟩
  rintro i env c np a es rfl hc deciding ⟨rid, rec, x, found, decision, same⟩
  dsimp only at fresh
  rw [hc, Option.all_some, deciding] at fresh
  have one := List.all_eq_true.mp fresh rec (Dict.mem_values_iff.mpr ⟨rid, found⟩)
  rw [decision] at one
  exact of_decide_eq_true one same

/-- Whether a step of a request is undisturbed. -/
def undisturbedTest (w : World InMemoryStore) : Label → Bool
  | .call _ => true
  | .advance i _ => w.calls[i]?.all fun c => match c.request, c.phase with
    | .decide r, .started => decide (WellNamed r.approverIdentity)
    | .decide r, .deciding _ _ _ => (w.store.get r.remediationId).any fun rec => rec.approval.isNone
    | _, _ => true

/-- A step that passes the test is undisturbed. -/
lemma undisturbed_of_test {w0 w w' : World (Backend.Store .inMemory)} {rid l} (h : undisturbedTest w l = true) :
    Undisturbed .inMemory w0 rid w l w' := by
  rintro i env c r rfl hc ⟨_, req, rfl⟩
  unfold undisturbedTest at h
  dsimp only at h
  rw [hc, Option.all_some, req] at h
  constructor
  · intro started _
    rw [started] at h
    exact of_decide_eq_true h
  · intro np a es deciding
    rw [deciding] at h
    obtain ⟨rec, found, free⟩ := (Option.any_eq_true _ _).mp h
    exact ⟨rec, congrArg Except.ok found, Option.isNone_iff_eq_none.mp free⟩

/-- The only call is a proposal, and the restart it proposed is pending. -/
def onlyProposed (w : World InMemoryStore) : Bool :=
  decide (w.calls.length = 1) && (w.calls.all fun c => c.phase.answer.isSome) &&
    (w.store.get "rem_0000000000000000").any fun rec =>
      decide (rec.status = .pendingApproval) &&
      (decide (canApprove .incidentResponder rec.proposal.val.actionType = true) &&
        decide (seconds 11 < rec.proposal.val.expiresAt))

/-- Whether the approval and the rejection are answered with the given statuses. -/
def answered (first second : Nat) (w : World InMemoryStore) : Bool :=
  decide (w.calls.length = 3) &&
    decide (w.calls[1]?.map (·.phase.answer) = some (some first) ∧
      w.calls[2]?.map (·.phase.answer) = some (some second))

/-- Both requests are in the calls of the run they start. -/
lemma requests_started {w0 w : World InMemoryStore} {order}
    (r : (Backend.inMemory.service asciiConfig).Run w0 (approvalAndRejection order) w)
    (count : w0.calls.length = 1) :
    (∃ d : Call, w.calls[1]? = some d ∧ d.request = .decide (postOn 0 .approve 10).decideCall) ∧
      ∃ d : Call, w.calls[2]? = some d ∧ d.request = .decide (postOn 0 .reject 11).decideCall := by
  cases r with
  | cons st r =>
    cases st
    cases r with
    | cons st r =>
      cases st
      refine ⟨request_stays (c := { request := .decide (postOn 0 .approve 10).decideCall
                                    phase := .started }) r ?_,
        request_stays (c := { request := .decide (postOn 0 .reject 11).decideCall
                              phase := .started }) r ?_⟩
      · simp [count]
      · simp [count]

/-- The restart, an approval of it and a rejection, as a contest that ends with the given answers. -/
lemma contest_of_check {w0 w : World (Backend.Store .inMemory)} {order first second}
    (run0 : (Backend.inMemory.service asciiConfig).Run (emptyWorld .inMemory) restartProposed w0)
    (proposed : onlyProposed w0 = true)
    (run : (Backend.inMemory.service asciiConfig).Run w0 (approvalAndRejection order) w)
    (ends : answered first second w = true) :
    ∃ rec0, Contest .inMemory asciiConfig w0 "rem_0000000000000000" rec0 ∧
      (∀ (i : Nat) (c : Call) r, w.calls[i]? = some c → Enters w0 "rem_0000000000000000" i c r →
        Entitled rec0 r ∧ c.phase.answer ≠ none) ∧
      ∃ c d : Call, w.calls[1]? = some c ∧ w.calls[2]? = some d ∧
        Enters w0 "rem_0000000000000000" 1 c (postOn 0 .approve 10).decideCall ∧
        Enters w0 "rem_0000000000000000" 2 d (postOn 0 .reject 11).decideCall ∧
        c.phase.answer = some first ∧ d.phase.answer = some second := by
  unfold onlyProposed at proposed
  obtain ⟨before, pendingRec⟩ := (Bool.and_eq_true _ _).mp proposed
  obtain ⟨count, answered'⟩ := (Bool.and_eq_true _ _).mp before
  have count := of_decide_eq_true count
  obtain ⟨rec0, found, facts⟩ := (Option.any_eq_true _ _).mp pendingRec
  obtain ⟨pending, open'⟩ := (Bool.and_eq_true _ _).mp facts
  obtain ⟨role, inTime⟩ := (Bool.and_eq_true _ _).mp open'
  unfold answered at ends
  obtain ⟨total, answers⟩ := (Bool.and_eq_true _ _).mp ends
  obtain ⟨ac, ad⟩ := of_decide_eq_true answers
  obtain ⟨⟨c, hc, rc⟩, ⟨d, hd, rd⟩⟩ := requests_started run count
  rw [hc] at ac
  rw [hd] at ad
  have ac : c.phase.answer = some first := Option.some.inj ac
  have ad : d.phase.answer = some second := Option.some.inj ad
  refine ⟨rec0, ⟨(Machine.Reachable.init emptyWorld_init).run run0, congrArg Except.ok found,
    of_decide_eq_true pending, ?_⟩, ?_, c, d, hc, hd, ⟨count.le, rc, rfl⟩,
    ⟨count.le.trans (by decide), rd, rfl⟩, ac, ad⟩
  · intro i e r he _ _ none'
    have all := List.all_eq_true.mp answered' e (List.mem_of_getElem? he)
    rw [none'] at all
    cases all
  · intro i e r he enters
    have bound := he
    rw [List.getElem?_eq_some_iff] at bound
    have small : i < 3 := of_decide_eq_true total ▸ bound.1
    have large : 1 ≤ i := count ▸ enters.1
    obtain rfl | rfl : i = 1 ∨ i = 2 := by omega
    · cases hc.symm.trans he
      have same : Request.decide r = .decide (postOn 0 .approve 10).decideCall :=
        enters.2.1.symm.trans rc
      cases same
      refine ⟨⟨postOn 0 .approve 10, rfl, by decide, fun _ => of_decide_eq_true role, ?_⟩, by rw [ac]; simp⟩
      exact lt_of_lt_of_le (by decide) (of_decide_eq_true inTime).le
    · cases hd.symm.trans he
      have same : Request.decide r = .decide (postOn 0 .reject 11).decideCall :=
        enters.2.1.symm.trans rd
      cases same
      exact ⟨⟨postOn 0 .reject 11, rfl, by decide, fun _ => of_decide_eq_true role,
        of_decide_eq_true inTime⟩, by rw [ad]; simp⟩

set_option maxRecDepth 10000 in
/-- When both requests read before either writes, the one that writes second is answered with 500. -/
lemma raced_states : (Backend.inMemory.service asciiConfig).check (fun _ _ => true)
    (fun w0 => onlyProposed w0 && (Backend.inMemory.service asciiConfig).check healthyDecisionTest
      (answered 200 500) w0 (approvalAndRejection [1, 2, 1, 2])) (emptyWorld .inMemory)
    restartProposed = true := by
  decide +kernel

/-- An approval and a rejection that both read the pending restart: the loser is answered with
500. -/
theorem decision_race_loses_500 :
    ∃ w0 w rec0, Contest .inMemory asciiConfig w0 "rem_0000000000000000" rec0 ∧
      (Backend.inMemory.service asciiConfig).Run w0 (approvalAndRejection [1, 2, 1, 2]) w ∧
      (Backend.inMemory.service asciiConfig).EachStep (HealthyDecision .inMemory) w0
        (approvalAndRejection [1, 2, 1, 2]) ∧
      (∀ (i : Nat) (c : Call) r, w.calls[i]? = some c → Enters w0 "rem_0000000000000000" i c r →
        Entitled rec0 r ∧ c.phase.answer ≠ none) ∧
      (∃ d : Call, w.calls[2]? = some d ∧
        Enters w0 "rem_0000000000000000" 2 d (postOn 0 .reject 11).decideCall ∧
        d.phase.answer = some 500) ∧
      ¬ OneWinner .inMemory asciiConfig w0 "rem_0000000000000000" (approvalAndRejection [1, 2, 1, 2])
        w := by
  obtain ⟨w0, run0, both, _⟩ := Machine.run_of_check (Q := fun _ _ _ => True) (fun _ _ _ _ => trivial)
    raced_states
  obtain ⟨proposed, later⟩ := (Bool.and_eq_true _ _).mp both
  obtain ⟨w, run, ends, healthy⟩ := Machine.run_of_check (fun _ _ _ => healthyDecision_of_test) later
  obtain ⟨rec0, contest, requests, c, d, hc, hd, ec, ed, ac, ad⟩ :=
    contest_of_check run0 proposed run ends
  refine ⟨w0, w, rec0, contest, run, healthy, requests, ⟨d, hd, ed, ad⟩, ?_⟩
  rintro ⟨⟨i, _, _, _, _, _, _, others⟩, _⟩
  by_cases first : i = 1
  · have lost := others 2 d _ hd ed (by omega)
    rw [ad] at lost
    cases lost
  · have lost := others 1 c _ hc ec (fun e => first e.symm)
    rw [ac] at lost
    cases lost

set_option maxRecDepth 10000 in
/-- When the rejection reads after the approval is recorded, it is answered with 409. -/
lemma queued_states : (Backend.inMemory.service asciiConfig).check (fun _ _ => true)
    (fun w0 => onlyProposed w0 && (Backend.inMemory.service asciiConfig).check
      (fun w l => healthyDecisionTest w l && undisturbedTest w l) (answered 200 409) w0
      (approvalAndRejection [1, 1, 2])) (emptyWorld .inMemory) restartProposed = true := by
  decide +kernel

/-- An approval and a rejection one after the other: the approval wins. -/
theorem one_decision_iff_queued :
    ∃ w0 w, (Backend.inMemory.service asciiConfig).Run w0 (approvalAndRejection [1, 1, 2]) w ∧
      OneWinner .inMemory asciiConfig w0 "rem_0000000000000000" (approvalAndRejection [1, 1, 2]) w := by
  obtain ⟨w0, run0, both, _⟩ := Machine.run_of_check (Q := fun _ _ _ => True) (fun _ _ _ _ => trivial)
    queued_states
  obtain ⟨proposed, later⟩ := (Bool.and_eq_true _ _).mp both
  obtain ⟨w, run, ends, steps⟩ := Machine.run_of_check
    (Q := fun u l u' => HealthyDecision .inMemory u l u' ∧
      Undisturbed .inMemory w0 "rem_0000000000000000" u l u')
    (fun _ _ _ h => ⟨healthyDecision_of_test ((Bool.and_eq_true _ _).mp h).1,
      undisturbed_of_test ((Bool.and_eq_true _ _).mp h).2⟩) later
  obtain ⟨rec0, contest, requests, c, _, hc, _, ec, _⟩ := contest_of_check run0 proposed run ends
  exact ⟨w0, w, run, (one_decision_iff .inMemory asciiConfig w0 w "rem_0000000000000000" rec0 _ contest
    run (fun ls1 l ls2 u u' split r st => (steps ls1 l ls2 u u' split r st).1) requests
    ⟨1, c, _, hc, ec⟩).mpr fun ls1 l ls2 u u' split r st => (steps ls1 l ls2 u u' split r st).2⟩

end SentinelOps.Remediation
