import SentinelOps.Remediation.Duplicate

/-!
# The cooldown over whole runs

A proposal reads the history of its key once and is pending exactly when no rule objects and the key
is not busy: no remediation of it is active or anchors an unexpired cooldown (`Busy`). The anchor
statuses stop at `EXECUTED` and `EXECUTION_FAILED`, so a remediation that went on to a recovery
verdict no longer holds its key: `restart_again_after_recovery` is a run that proposes the action
again within its cooldown. `cooldown_respected_iff` states exactly which runs respect the cooldown.
-/

namespace SentinelOps.Remediation

/-- The statuses of a remediation that was executed. -/
def afterExecution : List RemediationStatus :=
  [.executed, .executionFailed, .verifying, .recovered, .recoveryFailed]

/-- A remediation of a key was executed, and was approved less than the cooldown of its action
ago. -/
def RecentlyExecuted (b : Backend) (w : World b.Store) (key : HistoryKey) (now : Instant)
    (rid : String) (e : RemediationRecord) : Prop :=
  b.lookup w.store rid = .ok (some e) ∧ e.proposal.key = key ∧ e.status ∈ afterExecution ∧
    ∃ a, e.approval = some a ∧
      now - a.val.decidedAt < seconds (actionCatalogue key.actionType).cooldownSeconds

/-- The step is the first of a `propose` call: it reads the history and prepares the record that
the call will create. -/
def Prepares {σ : Type} (u : World σ) (l : Label) (u' : World σ) (r : ProposeRequest)
    (rec : RemediationRecord) : Prop :=
  ∃ i env events, l = .advance i env ∧
    u.calls[i]? = some { request := .propose r, phase := .started } ∧
    u'.calls[i]? = some { request := .propose r, phase := .creating rec events }

/-- No proposal that is made after an execution and within its cooldown is prepared as pending. -/
def CooldownRespected (b : Backend) (cfg : ServiceConfig) (w0 : World b.Store) (ls : List Label) :
    Prop :=
  ∀ ls1 ls2 l ls3 u0 u u', ls = ls1 ++ (ls2 ++ l :: ls3) → (b.service cfg).Run w0 ls1 u0 →
    (b.service cfg).Run u0 ls2 u → (b.service cfg).step u l = some u' →
    ∀ r rec rid e, Prepares u l u' r rec →
      RecentlyExecuted b u0 rec.proposal.key r.now rid e → rec.status ≠ .pendingApproval

/-- A rule other than the cooldown rule objects to a proposal. -/
def OtherRuleObjects (b : Backend) (cfg : ServiceConfig) (u : World b.Store) (r : ProposeRequest) :
    Prop :=
  ∃ p history, proposalFromRca r.recommendation (r.args cfg) = .ok (.proposal p) ∧
    b.repository.historySnapshot u.store p.key = .ok history ∧
    ∃ rule ∈ rules, rule.1 ≠ "cooldown_rule" ∧
      rule.2 p { now := r.now, incidentSeverity := r.incidentSeverity, history } cfg.policy ≠ []

/-- A remediation of the key is active, or anchors a cooldown that has not passed. -/
def Busy (b : Backend) (u : World b.Store) (key : HistoryKey) (now : Instant) : Prop :=
  ∃ rid rec, b.lookup u.store rid = .ok (some rec) ∧ rec.proposal.key = key ∧
    (rec.status ∈ activeStatuses ∨ rec.status ∈ cooldownAnchorStatuses ∧
      ∃ a, rec.approval = some a ∧
        cooldownActive (actionCatalogue key.actionType) now a.val.decidedAt = true)

/-- Every recent execution that a proposal comes after is still seen by it, or the proposal is
refused for another reason. -/
def CooldownSeen (b : Backend) (cfg : ServiceConfig) (u : World b.Store) (l : Label)
    (u' : World b.Store) : Prop :=
  ∀ r rec rid e, Prepares u l u' r rec → RecentlyExecuted b u rec.proposal.key r.now rid e →
    (e.status ≠ .recovered ∧ e.status ≠ .recoveryFailed) ∨ OtherRuleObjects b cfg u r ∨
      Busy b u rec.proposal.key r.now

variable {cfg : ServiceConfig}

/-- What the first step of a `propose` call prepares. -/
lemma prepares_record {σ : Type} {repo : Repository σ} {u u' : World σ} {l r rec}
    (e : step cfg repo u l = some u') (h : Prepares u l u' r rec) :
    ∃ p history, proposalFromRca r.recommendation (r.args cfg) = .ok (.proposal p) ∧
      repo.historySnapshot u.store p.key = .ok history ∧ rec = r.record cfg p history := by
  obtain ⟨i, env, events, rfl, hc, hc'⟩ := h
  rcases step_cases e with ⟨_, hl, _⟩ | ⟨j, env', c, out, hl, hcj, ho, rfl⟩
  · cases hl
  · cases hl
    cases hc.symm.trans hcj
    rcases getElem?_set_call hc' with ⟨_, same⟩ | ⟨ne, _⟩
    · cases ho
      have hp : Phase.creating rec events =
          settle id (proposeStart cfg repo r env.storage u.store) := congrArg Call.phase same
      rcases settle_cases hp.symm with ⟨p, ok, hid⟩ | ⟨x, _, hx⟩
      · obtain ⟨proposal, history, _, mapped, read, rfl⟩ := proposeStart_ok ok
        cases hid
        exact ⟨proposal, history, mapped, read, rfl⟩
      · cases hx
    · exact absurd rfl ne

/-- A record is prepared as pending exactly when every rule passes. -/
lemma record_pending_iff {r : ProposeRequest} {p history} :
    (r.record cfg p history).status = .pendingApproval ↔ ∀ rule ∈ rules,
      rule.2 p { now := r.now, incidentSeverity := r.incidentSeverity, history } cfg.policy = [] := by
  have status : (r.record cfg p history).status =
      if (r.decision cfg p history).outcome = .allow then .pendingApproval else .blocked := rfl
  rw [status, ← allViolations_eq_nil, ← evaluate_allow_iff]
  change _ ↔ (r.decision cfg p history).outcome = .allow
  by_cases h : (r.decision cfg p history).outcome = .allow <;> simp [h]

/-- The cooldown rule passes exactly when the key is not busy. -/
lemma cooldownRule_iff (cfg : ServiceConfig) (severity : Option String) {b : Backend}
    {u : World b.Store} {v} {p : RemediationProposal} {now history} (abs : b.Abstracts u v)
    (read : b.repository.historySnapshot u.store p.key = .ok history) :
    cooldownRule p { now, incidentSeverity := severity, history } cfg.policy = [] ↔
      ¬ Busy b u p.key now := by
  have same : history = v.store.historySnapshot p.key :=
    Except.ok.inj (read.symm.trans (congrFun abs.history _))
  obtain ⟨low, up⟩ := @InMemoryStore.historySnapshot_last v.store p.key
  rw [cooldownRule_eq_nil, same]
  constructor
  · rintro ⟨idle, passed⟩ ⟨rid, rec, found, key, busy⟩
    rw [abs.lookup] at found
    have found' : v.store.get rid = some rec := Except.ok.inj found
    rcases busy with active | ⟨anchor, a, ha, running⟩
    · have act := InMemoryStore.historySnapshot_active.mpr ⟨rid, rec, found', key, active⟩
      exact absurd (act.symm.trans idle) (by simp)
    · obtain ⟨x, hx, le⟩ := low rid rec _ found' ⟨key, anchor, a, ha, rfl⟩
      have passed := passed x hx
      unfold cooldownActive at running passed
      rw [decide_eq_true_eq] at running
      rw [decide_eq_false_iff_not] at passed
      apply passed
      exact lt_of_le_of_lt (sub_le_sub_left le _) running
  · intro free
    refine ⟨?_, ?_⟩
    · by_contra act
      rw [Bool.not_eq_false, InMemoryStore.historySnapshot_active] at act
      obtain ⟨rid, rec, found, key, active⟩ := act
      exact free ⟨rid, rec, by rw [abs.lookup, found], key, .inl active⟩
    · intro last hlast
      by_contra running
      rw [Bool.not_eq_false] at running
      obtain ⟨rid, rec, found, key, anchor, a, ha, rfl⟩ := up last hlast
      exact free ⟨rid, rec, by rw [abs.lookup, found], key, .inr ⟨anchor, a, ha, running⟩⟩

/-- A record is prepared as pending exactly when no other rule objects and the key is not busy. -/
lemma prepared_pending_iff {b : Backend} {u u' : World b.Store} {l r rec}
    (reach : (b.service cfg).Reachable u) (e : (b.service cfg).step u l = some u')
    (h : Prepares u l u' r rec) : rec.status = .pendingApproval ↔
      ¬ OtherRuleObjects b cfg u r ∧ ¬ Busy b u rec.proposal.key r.now := by
  obtain ⟨v, rel, inv, _⟩ := Backend.related_of_reachable reach
  have st : step cfg b.repository u l = some u' := e
  obtain ⟨p, history, mapped, read, rfl⟩ := prepares_record st h
  have key : (r.record cfg p history).proposal.key = p.key := rfl
  rw [record_pending_iff, key, ← cooldownRule_iff cfg r.incidentSeverity (rel.abstracts inv) read]
  constructor
  · intro pass
    refine ⟨?_, pass ("cooldown_rule", cooldownRule) (by simp [rules])⟩
    rintro ⟨p', history', mapped', read', rule, mem, _, objects⟩
    cases mapped.symm.trans mapped'
    cases read.symm.trans read'
    exact objects (pass rule mem)
  · rintro ⟨others, cooldown⟩ rule mem
    by_cases name : rule.1 = "cooldown_rule"
    · have only : ∀ x ∈ rules, x.1 = "cooldown_rule" → x = ("cooldown_rule", cooldownRule) := by
        simp [rules]
      rw [only rule mem name]
      exact cooldown
    · by_contra objects
      exact others ⟨p, history, mapped, read, rule, mem, name, objects⟩

/-- Nothing leads back from a finished execution. -/
lemma LeadsTo.afterExecution {s t} (h : LeadsTo s t) (hs : s ∈ afterExecution) :
    t ∈ Remediation.afterExecution := by
  have closed : ∀ s ∈ Remediation.afterExecution, ∀ t ∈ allowedTransitions s,
      t ∈ Remediation.afterExecution := by
    decide
  induction h with
  | refl => exact hs
  | tail _ edge ih => exact closed _ ih _ (of_decide_eq_true edge)

/-- An executed remediation stays executed, with its approval. -/
lemma RecentlyExecuted.later {b : Backend} {u0 u : World b.Store} {ls key now rid e}
    (h : RecentlyExecuted b u0 key now rid e) (reach : (b.service cfg).Reachable u0)
    (run : (b.service cfg).Run u0 ls u) : ∃ e', RecentlyExecuted b u key now rid e' := by
  obtain ⟨found, hk, executed, a, ha, recent⟩ := h
  obtain ⟨v0, rel, inv, _⟩ := Backend.related_of_reachable reach
  obtain ⟨ks, v, _, run', rel', inv'⟩ := rel.run inv run
  have found0 : v0.store.get rid = some e :=
    Except.ok.inj (((rel.abstracts inv).lookup rid).symm.trans found)
  obtain ⟨e', found', ev⟩ := inv.run_evolves run' found0
  refine ⟨e', ?_, ?_, ev.status.afterExecution executed, a, ev.approval a ha, recent⟩
  · rw [(rel'.abstracts inv').lookup, found']
  · rw [ev.proposal, RemediationProposal.key_withStatus, hk]

/-- An executed remediation without a recovery verdict keeps its key busy for its cooldown. -/
lemma RecentlyExecuted.busy {b : Backend} {u : World b.Store} {key now rid e}
    (h : RecentlyExecuted b u key now rid e)
    (unverified : e.status ≠ .recovered ∧ e.status ≠ .recoveryFailed) : Busy b u key now := by
  obtain ⟨found, hk, executed, a, ha, recent⟩ := h
  refine ⟨rid, e, found, hk, ?_⟩
  have cases' : e.status ∈ activeStatuses ∨ e.status ∈ cooldownAnchorStatuses := by
    revert executed unverified
    cases e.status <;> decide
  rcases cases' with active | anchor
  · exact .inl active
  · exact .inr ⟨anchor, a, ha, decide_eq_true recent⟩

/-- Over every run the cooldown is respected exactly when every recent execution that a proposal
comes after is still seen by it, or the proposal is refused for another reason. -/
theorem cooldown_respected_iff (b : Backend) (cfg : ServiceConfig) {w0 : World b.Store}
    {ls : List Label} (init : (b.service cfg).init w0) :
    CooldownRespected b cfg w0 ls ↔ (b.service cfg).EachStep (CooldownSeen b cfg) w0 ls := by
  constructor
  · intro respected ls1 l ls2 u u' e run st r rec rid x prep recent
    have reach : (b.service cfg).Reachable u := ⟨w0, ls1, init, run⟩
    have refused := respected ls1 [] l ls2 u u u' e run .nil st r rec rid x prep recent
    by_contra free
    obtain ⟨_, free⟩ := not_or.mp free
    exact refused ((prepared_pending_iff reach st prep).mpr (not_or.mp free))
  · intro seen ls1 ls2 l ls3 u0 u u' e run run' st r rec rid x prep recent pending
    have reach0 : (b.service cfg).Reachable u0 := ⟨w0, ls1, init, run⟩
    obtain ⟨x', recent'⟩ := recent.later reach0 run'
    obtain ⟨others, free⟩ := (prepared_pending_iff (reach0.run run') st prep).mp pending
    have split : ls = (ls1 ++ ls2) ++ l :: ls3 := by rw [e, List.append_assoc]
    rcases seen _ l ls3 u u' split (run.append run') st r rec rid x' prep recent' with
      unverified | objects | busy
    · exact free (recent'.busy unverified)
    · exact others objects
    · exact free busy

/-- A restart is proposed, approved, executed and verified. -/
def restartAndVerify : List Label :=
  alone 0 (proposeRestart "inc_000000000000000a" 0 0) 2 ++ alone 1 (decideOn 0 .approve 10) 2 ++
    alone 2 (executeOn 0 false 20) 4 ++ alone 3 (verifyOn 0 30) 4

/-- The same restart is proposed again, fifty seconds after its approval. -/
def restartAgain : Request := proposeRestart "inc_000000000000000a" 1 60

/-- The first restart has recovered its service and was approved at ten seconds. -/
def recoveredAt (w : World InMemoryStore) (key : HistoryKey) : Bool :=
  match w.store.get "rem_0000000000000000" with
  | some e => decide (e.proposal.key = key ∧ e.status = .recovered ∧
      e.approval.map (·.val.decidedAt) = some (seconds 10))
  | none => false

/-- A call is about to create a pending record beside the recovered one. -/
def preparesAgain (u u' : World InMemoryStore) : Bool :=
  match (u'.calls[4]?).map Call.phase with
  | some (Phase.creating rec _) =>
    recoveredAt u rec.proposal.key && decide (rec.status = .pendingApproval)
  | _ => false

set_option maxRecDepth 10000 in
/-- The second restart is prepared as pending although the first was approved fifty seconds
before. -/
lemma restartAgain_prepared :
    ((Backend.inMemory.service asciiConfig).exec (emptyWorld .inMemory)
      (restartAndVerify ++ [.call restartAgain])).any (fun u =>
        decide (u.calls.length = 5) &&
        ((Backend.inMemory.service asciiConfig).step u (.advance 4 {})).any
          (preparesAgain u ·)) = true := by
  decide +kernel

/-- In the run that proposes the restart again, the second proposal is prepared as pending although
the first was executed and approved within its cooldown. -/
lemma restartAgain_not_respected : ¬ CooldownRespected .inMemory asciiConfig (emptyWorld .inMemory)
    (restartAndVerify ++ [.call restartAgain] ++ [.advance 4 {}]) := by
  intro respected
  obtain ⟨u, run, facts⟩ := (Option.any_eq_true _ _).mp restartAgain_prepared
  obtain ⟨five, facts⟩ := Bool.and_eq_true_iff.mp facts
  obtain ⟨u', st, prepared⟩ := (Option.any_eq_true _ _).mp facts
  have r := Machine.run_iff_exec.mpr run
  have started := last_call r (of_decide_eq_true five)
  unfold preparesAgain at prepared
  split at prepared
  · rename_i rec events creating
    obtain ⟨recovered, pending⟩ := Bool.and_eq_true_iff.mp prepared
    unfold recoveredAt at recovered
    split at recovered
    · rename_i x found
      obtain ⟨key, status, decided⟩ := of_decide_eq_true recovered
      obtain ⟨a, ha, at10⟩ := Option.map_eq_some_iff.mp decided
      obtain ⟨c, hc, hp⟩ := Option.map_eq_some_iff.mp creating
      have moved : ∃ q, restartAgain = .propose q ∧ q.now = seconds 60 ∧
          c = { request := .propose q, phase := .creating rec events } := by
        have st' : step asciiConfig InMemoryStore.repository u (.advance 4 {}) = some u' := st
        rcases step_cases st' with ⟨_, hl, _⟩ | ⟨j, env, d, out, hl, hd, _, rfl⟩
        · cases hl
        · cases hl
          cases started.symm.trans hd
          rcases getElem?_set_call hc with ⟨_, rfl⟩ | ⟨ne, _⟩
          · have phase : out.phase = .creating rec events := hp
            exact ⟨_, rfl, rfl, by rw [phase]; rfl⟩
          · exact absurd rfl ne
      obtain ⟨q, hq, now, hc'⟩ := moved
      rw [hq] at started
      rw [hc'] at hc
      refine respected (restartAndVerify ++ [.call restartAgain]) [] (.advance 4 {}) [] u u u' rfl r
        .nil st q rec "rem_0000000000000000" x ⟨4, {}, events, rfl, started, hc⟩ ?_
        (of_decide_eq_true pending)
      refine ⟨congrArg Except.ok found, key, by rw [status]; decide, a, ha, ?_⟩
      rw [now, at10]
      cases rec.proposal.key.actionType <;> decide
    · cases recovered
  · cases prepared

/-- The cooldown does not hold over whole runs. -/
theorem restart_again_after_recovery : ∃ w0 ls,
    (Backend.inMemory.service asciiConfig).init w0 ∧
      ¬ CooldownRespected .inMemory asciiConfig w0 ls :=
  ⟨_, _, emptyWorld_init, restartAgain_not_respected⟩

/-- In that run an execution that came before a proposal is no longer seen by it. -/
theorem cooldown_respected_iff_restartAgain :
    ¬ (Backend.inMemory.service asciiConfig).EachStep (CooldownSeen .inMemory asciiConfig)
      (emptyWorld .inMemory) (restartAndVerify ++ [.call restartAgain] ++ [.advance 4 {}]) := by
  rw [← cooldown_respected_iff .inMemory asciiConfig emptyWorld_init]
  exact restartAgain_not_respected

end SentinelOps.Remediation
