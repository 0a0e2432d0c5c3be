import SentinelOps.Remediation.Cooldown
import SentinelOps.Remediation.Routes

/-!
# Remediations past their approval window

`decide` and `execute` refuse a remediation whose window has passed, and no operation moves it to
`EXPIRED`. A remediation that is still `PENDING_APPROVAL` or `APPROVED` then (`Lapsed`) stays as it
is, and it stays active for the duplicate rule: `lapsed_never_released`. `restart_never_again` is a
run that proposes a restart again after the first one has lapsed.
-/

namespace SentinelOps.Remediation

/-- The remediation still waits for its decision or its execution, and its window has passed. -/
structure Lapsed (b : Backend) (w : World b.Store) (now : Instant) (rid : String)
    (e : RemediationRecord) : Prop where
  found : b.lookup w.store rid = .ok (some e)
  waiting : e.status = .pendingApproval ∨ e.status = .approved
  expired : e.proposal.val.expiresAt ≤ now

/-- The policy denied a prepared record as a duplicate. -/
def DuplicateDenied (rec : RemediationRecord) : Prop :=
  rec.status = .blocked ∧ PolicyReasonCode.duplicateActive ∈ rec.policyDecision.reasonCodes

instance {rec} : Decidable (DuplicateDenied rec) := inferInstanceAs (Decidable (_ ∧ _))

/-- No other remediation of the key is active. -/
def NoOther (b : Backend) (u : World b.Store) (key : HistoryKey) (rid : String) : Prop :=
  ∀ rid' e, b.lookup u.store rid' = .ok (some e) → e.proposal.key = key →
    e.status ∈ activeStatuses → rid' = rid

/-- The cooldown of every decided remediation of the key has passed. -/
def CooldownPassed (b : Backend) (u : World b.Store) (key : HistoryKey) (now : Instant) : Prop :=
  ∀ rid e a, b.lookup u.store rid = .ok (some e) → e.proposal.key = key → e.approval = some a →
    cooldownActive (actionCatalogue key.actionType) now a.val.decidedAt = false

/-- A proposal for the key of a lapsed remediation is not denied as a duplicate when nothing else
holds the key. -/
def KeyReleased (b : Backend) (u : World b.Store) (l : Label) (u' : World b.Store) : Prop :=
  ∀ r rec rid e, Prepares u l u' r rec → Lapsed b u r.now rid e →
    e.proposal.key = rec.proposal.key → NoOther b u e.proposal.key rid →
    CooldownPassed b u e.proposal.key r.now → ¬ DuplicateDenied rec

/-- The remediation a `decide` or an `execute` call is for. -/
def Request.acts (rid : String) : Request → Option Instant
  | .decide r => if r.remediationId = rid then some r.now else none
  | .execute r => if r.remediationId = rid then some r.now else none
  | _ => none

/-- No call is about to decide or to claim the remediation, and those that have only just started
came after the end of its window. -/
def Unattended (rid : String) (expiresAt : Instant) (calls : List Call) : Prop :=
  ∀ (i : Nat) (c : Call) at', calls[i]? = some c → c.request.acts rid = some at' →
    (c.phase = .started ∧ expiresAt ≤ at') ∨ c.phase.answer ≠ none

/-- A call that the step starts for the remediation comes after the end of its window. -/
def Late {σ : Type} (rid : String) (expiresAt : Instant) (_ : World σ) (l : Label) (_ : World σ) :
    Prop :=
  ∀ r at', l = .call r → r.acts rid = some at' → expiresAt ≤ at'

variable {cfg : ServiceConfig}

open InMemoryStore (repository)

/-- The duplicate rule objects when a remediation of the key is active. -/
lemma record_denied {r : ProposeRequest} {p history} (active : history.activeExists = true) :
    DuplicateDenied (r.record cfg p history) := by
  have objects : violation .duplicateActive "cooldown"
      "another remediation for this incident/action/target is already in flight" ∈
        allViolations cfg.policy p
          { now := r.now, incidentSeverity := r.incidentSeverity, history } := by
    refine List.mem_flatMap.mpr ⟨("cooldown_rule", cooldownRule), by simp [rules], ?_⟩
    simp [cooldownRule, getActionDefinition, active]
  have some' : allViolations cfg.policy p
      { now := r.now, incidentSeverity := r.incidentSeverity, history } ≠ [] :=
    List.ne_nil_of_mem objects
  have denied : (r.decision cfg p history).outcome = .deny := by
    simp [ProposeRequest.decision, evaluate, some']
  have codes : (r.decision cfg p history).reasonCodes = sortedCodes (allViolations cfg.policy p
      { now := r.now, incidentSeverity := r.incidentSeverity, history }) := by
    simp [ProposeRequest.decision, evaluate, some']
  constructor
  · change (if (r.decision cfg p history).outcome = .allow then RemediationStatus.pendingApproval
      else .blocked) = .blocked
    rw [denied]
    rfl
  · change _ ∈ (r.decision cfg p history).reasonCodes
    rw [codes]
    unfold sortedCodes
    rw [List.mem_mergeSort, List.mem_dedup]
    exact List.mem_map_of_mem objects

/-- A remediation that waits is active for the duplicate rule. -/
lemma Lapsed.active {b : Backend} {w : World b.Store} {now rid e} (h : Lapsed b w now rid e) :
    e.status ∈ activeStatuses := by
  rcases h.waiting with st | st <;> rw [st] <;> decide

/-- A proposal for the key of a lapsed remediation is denied as a duplicate. -/
lemma Lapsed.denies {b : Backend} {w w' : World b.Store} {now rid e l r rec}
    (h : Lapsed b w now rid e) (reach : (b.service cfg).Reachable w)
    (st : (b.service cfg).step w l = some w') (prep : Prepares w l w' r rec)
    (key : e.proposal.key = rec.proposal.key) : DuplicateDenied rec := by
  obtain ⟨v, rel, inv, _⟩ := Backend.related_of_reachable reach
  have abs := rel.abstracts inv
  have moved : step cfg b.repository w l = some w' := st
  obtain ⟨p, history, mapped, read, rfl⟩ := prepares_record moved prep
  have same : history = v.store.historySnapshot p.key :=
    Except.ok.inj (read.symm.trans (congrFun abs.history _))
  apply record_denied
  rw [same]
  refine InMemoryStore.historySnapshot_active.mpr ⟨rid, e, ?_, key, h.active⟩
  exact Except.ok.inj ((abs.lookup rid).symm.trans h.found)

/-- A late decision on the remediation is refused. -/
lemma decideStart_late {m : InMemoryStore} {r : DecideRequest} {fault e}
    (found : m.get r.remediationId = some e) (late : e.proposal.val.expiresAt ≤ r.now) :
    ∃ x, settle id (decideStart cfg repository r fault m) = .raised x := by
  cases h : decideStart cfg repository r fault m with
  | error x => exact ⟨x, rfl⟩
  | ok p =>
    obtain ⟨current, _, _, read, check, _⟩ := decideStart_ok h
    cases Option.some.inj (found.symm.trans (Except.ok.inj read))
    obtain ⟨_, _, _, inTime, _⟩ := checkDecidable_ok check
    exact absurd inTime late.not_gt

/-- A late execution of the remediation is refused. -/
lemma executeStart_late {w : World InMemoryStore} {r : ExecuteRequest} {env e}
    (found : w.store.get r.remediationId = some e) (late : e.proposal.val.expiresAt ≤ r.now) :
    ∃ x, (stepExecuteStart repository r env w).phase = .raised x := by
  unfold stepExecuteStart
  dsimp only
  split
  · exact ⟨_, rfl⟩
  · rename_i record checked
    obtain ⟨current, read, checked⟩ := Except.bind_eq_ok.mp checked
    obtain ⟨_, check, _⟩ := Except.bind_eq_ok.mp checked
    cases Option.some.inj (found.symm.trans (Except.ok.inj (readRecord_ok read)))
    exact absurd (checkExecutable_ok check).2.1 late.not_gt

/-- A step that changes a waiting remediation decides it or claims its execution. -/
lemma stepCall_waiting {w : World InMemoryStore} {env req ph out rid e} (store : StoreOk w.store)
    (call : CallOk cfg w.store req ph) (h : stepCall cfg repository env w req ph = some out)
    (found : w.store.get rid = some e) (waiting : e.status = .pendingApproval ∨ e.status = .approved)
    (changed : out.store.get rid ≠ w.store.get rid) :
    (∃ at', req.acts rid = some at') ∧
      ((∃ np a es, ph = .deciding np a es) ∨ ∃ p es, ph = .claimingExecution p es) := by
  obtain ⟨rfl, _⟩ := (stepCall_ok store call h).frame rid changed
  have unclaimed : ph.holdsClaim ≠ true := by
    intro claims
    obtain ⟨rec, there, claimed⟩ := call.claimed claims
    cases found.symm.trans there
    rcases waiting with st | st <;> rw [st] at claimed <;> simp at claimed
  rcases stepCall_store h with same | ⟨a, written⟩
  · exact absurd (by rw [same]) changed
  -- only two of the six writes are made for a remediation that waits
  cases written with
  | @create r _ _ run =>
    have fresh : FreshRecord r _ := call
    have absent := (InMemoryStore.create_ok run).1
    rw [fresh.own] at absent
    cases absent.symm.trans found
  | @recordDecision r np a es _ => exact ⟨⟨r.now, if_pos rfl⟩, .inl ⟨np, a, es, rfl⟩⟩
  | @beginExecution r p es _ => exact ⟨⟨r.now, if_pos rfl⟩, .inr ⟨p, es, rfl⟩⟩
  | beginVerification run =>
    obtain ⟨old, there, executed, _⟩ := InMemoryStore.beginVerification_ok run
    cases Option.some.inj (found.symm.trans there)
    rcases waiting with st | st <;> rw [st] at executed <;> cases executed
  | finishExecution _ | finishVerification _ => exact absurd rfl unclaimed

/-- A step of an unattended remediation leaves it as it is and unattended. -/
lemma unattended_step {w w' : World InMemoryStore} {l rid e} (inv : Inv cfg w)
    (st : step cfg repository w l = some w') (found : w.store.get rid = some e)
    (waiting : e.status = .pendingApproval ∨ e.status = .approved)
    (quiet : Unattended rid e.proposal.val.expiresAt w.calls)
    (late : Late rid e.proposal.val.expiresAt w l w') :
    w'.store.get rid = some e ∧ Unattended rid e.proposal.val.expiresAt w'.calls := by
  rcases step_cases st with ⟨q, rfl, rfl⟩ | ⟨i, env, c, out, rfl, hc, ho, rfl⟩
  · refine ⟨found, ?_⟩
    intro j d at' hd acts
    change (w.calls ++ _)[j]? = some d at hd
    rw [List.getElem?_append] at hd
    split at hd
    · exact quiet j d at' hd acts
    · rw [List.getElem?_singleton] at hd
      split at hd
      · cases hd
        exact .inl ⟨rfl, late q at' rfl acts⟩
      · cases hd
  · have call := inv.calls i c hc
    refine ⟨?_, ?_⟩
    · by_contra changed
      obtain ⟨⟨at', acts⟩, writes⟩ := stepCall_waiting inv.store call ho found waiting
        (fun same => changed (same.trans found))
      rcases quiet i c at' hc acts with ⟨started, _⟩ | answered
      · rcases writes with ⟨_, _, _, h⟩ | ⟨_, _, h⟩ <;> cases started.symm.trans h
      · cases (stepCall_answered answered).symm.trans ho
    · intro j d at' hd acts
      rcases getElem?_set_call hd with ⟨_, rfl⟩ | ⟨_, hd⟩
      · -- the call that moved had only just started, and is refused
        have acts : c.request.acts rid = some at' := acts
        obtain ⟨req, ph⟩ := c
        have phases := quiet i _ at' hc acts
        dsimp only at phases ho acts
        rcases phases with ⟨rfl, after⟩ | answered
        · refine .inr ?_
          suffices refused : ∃ x, out.phase = .raised x by
            obtain ⟨x, h⟩ := refused
            change out.phase.answer ≠ none
            rw [h]
            simp [Phase.answer]
          cases req with
          | propose r => cases acts
          | verifyRecovery r => cases acts
          | decide r =>
            obtain ⟨own, now⟩ := Option.ite_none_right_eq_some.mp acts
            cases now
            cases own
            cases ho
            exact decideStart_late found after
          | execute r =>
            obtain ⟨own, now⟩ := Option.ite_none_right_eq_some.mp acts
            cases now
            cases own
            cases ho
            exact executeStart_late found after
        · cases (stepCall_answered answered).symm.trans ho
      · exact quiet j d at' hd acts

/-- An unattended remediation that has lapsed stays as it is along every run. -/
lemma Lapsed.stays {b : Backend} {w w' : World b.Store} {now rid e ls}
    (h : Lapsed b w now rid e) (reach : (b.service cfg).Reachable w)
    (quiet : Unattended rid e.proposal.val.expiresAt w.calls) (run : (b.service cfg).Run w ls w')
    (late : (b.service cfg).EachStep (Late rid e.proposal.val.expiresAt) w ls) :
    Lapsed b w' now rid e := by
  have kept : (b.service cfg).Reachable w' ∧ b.lookup w'.store rid = .ok (some e) ∧
      Unattended rid e.proposal.val.expiresAt w'.calls := by
    refine run.invariant_of (I := fun u => (b.service cfg).Reachable u ∧
      b.lookup u.store rid = .ok (some e) ∧ Unattended rid e.proposal.val.expiresAt u.calls) late
      ?_ ⟨reach, h.found, quiet⟩
    rintro u l u' ⟨reachU, found, quietU⟩ lateU st
    obtain ⟨v, rel, inv, _⟩ := Backend.related_of_reachable reachU
    obtain ⟨k, v', hk, stV, rel'⟩ := rel.step inv st
    have moved : step cfg repository v k = some v' := stV
    have abs := rel.abstracts inv
    have abs' := rel'.abstracts (inv.step moved)
    have there : v.store.get rid = some e := Except.ok.inj ((abs.lookup rid).symm.trans found)
    rw [abs.calls] at quietU
    have lateV : Late rid e.proposal.val.expiresAt v k v' := by
      intro r at' hr acts
      rcases hk with rfl | ⟨_, _, _, _, rfl⟩
      · exact lateU r at' hr acts
      · cases hr
    obtain ⟨there', quiet'⟩ := unattended_step inv moved there h.waiting quietU lateV
    refine ⟨reachU.step st, ?_, ?_⟩
    · rw [abs'.lookup, there']
    · rw [abs'.calls]
      exact quiet'
  exact ⟨kept.2.1, h.waiting, h.expired⟩

/-- Every proposal for the key of a lapsed remediation is denied as a duplicate; once no decision
and no claim of it is under way, the remediation stays as it is along every run, and so do the
denials. -/
theorem lapsed_never_released (b : Backend) (cfg : ServiceConfig) (w : World b.Store)
    (reach : (b.service cfg).Reachable w) (now : Instant) (rid : String) (e : RemediationRecord)
    (lapsed : Lapsed b w now rid e) :
    (∀ l u' r rec, (b.service cfg).step w l = some u' → Prepares w l u' r rec →
      e.proposal.key = rec.proposal.key → DuplicateDenied rec) ∧
    (Unattended rid e.proposal.val.expiresAt w.calls → ∀ ls w', (b.service cfg).Run w ls w' →
      (b.service cfg).EachStep (Late rid e.proposal.val.expiresAt) w ls →
      b.lookup w'.store rid = .ok (some e) ∧
      ∀ l u' r rec, (b.service cfg).step w' l = some u' → Prepares w' l u' r rec →
        e.proposal.key = rec.proposal.key → DuplicateDenied rec) := by
  constructor
  · intro l u' r rec st prep key
    exact lapsed.denies reach st prep key
  · intro quiet ls w' run late
    have lapsed' := lapsed.stays reach quiet run late
    refine ⟨lapsed'.found, ?_⟩
    intro l u' r rec st prep key
    exact lapsed'.denies (reach.run run) st prep key

/-- A restart is proposed and approved, and executed in vain more than an hour later. -/
def restartLapses : List Label :=
  alone 0 (proposeRestart "inc_000000000000000a" 0 0) 2 ++ alone 1 (decideOn 0 .approve 10) 2 ++
    alone 2 (executeOn 0 false 4000) 1

/-- The restart is proposed again after that. -/
def restartAnew : Request := proposeRestart "inc_000000000000000a" 1 5000

/-- The approved restart is the only remediation, it has lapsed, and every call for it has been
answered. -/
def lapsedTest (w : World InMemoryStore) : Bool :=
  decide (w.calls.length = 3) && (w.calls.all fun c => c.phase.answer.isSome) &&
    (decide (w.store.records.keys = ["rem_0000000000000000"]) &&
      (w.store.get "rem_0000000000000000").any fun e =>
        decide (e.status = .approved ∧ e.proposal.val.expiresAt ≤ seconds 4000 ∧
          e.approval.map (·.val.decidedAt) = some (seconds 10)))

/-- The fourth call prepares a record for the key of the restart. -/
def preparesAnew (u u' : World InMemoryStore) : Bool :=
  match (u'.calls[3]?).map Call.phase with
  | some (Phase.creating rec _) =>
    (u.store.get "rem_0000000000000000").any fun e => decide (e.proposal.key = rec.proposal.key)
  | _ => false

set_option maxRecDepth 10000 in
/-- The restart lapses, and its second proposal prepares a record. -/
lemma restartLapses_states : (Backend.inMemory.service asciiConfig).check (fun _ _ => true)
    (fun w => lapsedTest w && (Backend.inMemory.service asciiConfig).check (fun _ _ => true)
      (fun u => decide (u.calls.length = 4) &&
        ((Backend.inMemory.service asciiConfig).step u (.advance 3 {})).any (preparesAnew u ·)) w
      [.call restartAnew]) (emptyWorld .inMemory) restartLapses = true := by
  decide +kernel

/-- The run in which the restart lapses and is proposed again. -/
lemma restartLapses_run : ∃ (w u u' : World (Backend.Store .inMemory)) (e : RemediationRecord)
    (q : ProposeRequest) (rec : RemediationRecord),
    (Backend.inMemory.service asciiConfig).Run (emptyWorld .inMemory) restartLapses w ∧
      Lapsed .inMemory w (seconds 4000) "rem_0000000000000000" e ∧
      Unattended "rem_0000000000000000" e.proposal.val.expiresAt w.calls ∧
      w.store.records.keys = ["rem_0000000000000000"] ∧
      e.approval.map (·.val.decidedAt) = some (seconds 10) ∧
      (Backend.inMemory.service asciiConfig).step w (.call restartAnew) = some u ∧
      (Backend.inMemory.service asciiConfig).step u (.advance 3 {}) = some u' ∧
      Prepares u (.advance 3 {}) u' q rec ∧ q.now = seconds 5000 ∧
      e.proposal.key = rec.proposal.key := by
  obtain ⟨w, run, both, _⟩ := Machine.run_of_check (Q := fun _ _ _ => True) (fun _ _ _ _ => trivial)
    restartLapses_states
  obtain ⟨lapsed, later⟩ := (Bool.and_eq_true _ _).mp both
  obtain ⟨u, run', facts, _⟩ := Machine.run_of_check (Q := fun _ _ _ => True)
    (fun _ _ _ _ => trivial) later
  obtain ⟨four, facts⟩ := (Bool.and_eq_true _ _).mp facts
  obtain ⟨u', st', prepared⟩ := (Option.any_eq_true _ _).mp facts
  unfold lapsedTest at lapsed
  obtain ⟨calls, record⟩ := (Bool.and_eq_true _ _).mp lapsed
  obtain ⟨only, record⟩ := (Bool.and_eq_true _ _).mp record
  obtain ⟨_, answered'⟩ := (Bool.and_eq_true _ _).mp calls
  obtain ⟨e, found, facts⟩ := (Option.any_eq_true _ _).mp record
  obtain ⟨approved, expired, decided⟩ := of_decide_eq_true facts
  have started := @last_call .inMemory asciiConfig w u [] restartAnew 3 run' (of_decide_eq_true four)
  cases run' with
  | cons st rest =>
    cases rest
    have same : u.store = w.store := by
      cases st
      rfl
    unfold preparesAnew at prepared
    split at prepared
    · rename_i rec events creating
      obtain ⟨e', found', key⟩ := (Option.any_eq_true _ _).mp prepared
      rw [same] at found'
      cases found.symm.trans found'
      obtain ⟨c, hc, hp⟩ := Option.map_eq_some_iff.mp creating
      have moved : step asciiConfig InMemoryStore.repository u (.advance 3 {}) = some u' := st'
      rcases step_cases moved with ⟨_, hl, _⟩ | ⟨j, env, d, out, hl, hd, _, rfl⟩
      · cases hl
      · cases hl
        cases started.symm.trans hd
        rcases getElem?_set_call hc with ⟨_, rfl⟩ | ⟨ne, _⟩
        · have phase : out.phase = .creating rec events := hp
          refine ⟨w, u, _, e, _, rec, run, ⟨congrArg Except.ok found, .inr approved, expired⟩, ?_,
            of_decide_eq_true only, decided, st, st',
            ⟨3, {}, events, rfl, started, hc.trans (by rw [phase]; rfl)⟩, rfl, of_decide_eq_true key⟩
          intro i c at' hi _
          have all := List.all_eq_true.mp answered' c (List.mem_of_getElem? hi)
          refine .inr ?_
          rw [← Option.isSome_iff_ne_none]
          exact all
        · exact absurd rfl ne
    · cases prepared

/-- A restart that is proposed again after the first one has lapsed is denied as a duplicate,
although nothing else holds its key. -/
theorem restart_never_again : ∃ w0 ls, (Backend.inMemory.service asciiConfig).init w0 ∧
    ¬ (Backend.inMemory.service asciiConfig).EachStep (KeyReleased .inMemory) w0 ls := by
  refine ⟨emptyWorld .inMemory, restartLapses ++ [.call restartAnew] ++ [.advance 3 {}],
    emptyWorld_init, ?_⟩
  intro released
  obtain ⟨w, u, u', e, q, rec, run, lapsed, _, only, decided, st, st', prep, now, key⟩ :=
    restartLapses_run
  have same : u.store = w.store := by
    cases st
    rfl
  have reach : (Backend.inMemory.service asciiConfig).Reachable w :=
    (Machine.Reachable.init emptyWorld_init).run run
  have alone' : ∀ rid' e', Backend.inMemory.lookup u.store rid' = .ok (some e') →
      rid' = "rem_0000000000000000" := by
    intro rid' e' found
    rw [same] at found
    have there : w.store.records.get? rid' = some e' := Except.ok.inj found
    have listed : rid' ∈ w.store.records.keys := by
      by_contra absent
      rw [Dict.get?_eq_none_iff.mpr absent] at there
      cases there
    rw [only] at listed
    exact List.mem_singleton.mp listed
  have lapsed' : Lapsed .inMemory u q.now "rem_0000000000000000" e := by
    refine ⟨by rw [same]; exact lapsed.found, lapsed.waiting, lapsed.expired.trans ?_⟩
    rw [now]
    decide
  refine released _ _ [] u u' rfl (run.snoc st) st' q rec _ e prep lapsed' key
    (fun rid' e' found _ _ => alone' rid' e' found) ?_
    (lapsed'.denies (reach.step st) st' prep key)
  intro rid' e' a found hk ha
  cases alone' rid' e' found
  have them := lapsed'.found.symm.trans found
  cases them
  rw [ha] at decided
  have at10 : a.val.decidedAt = seconds 10 := Option.some.inj decided
  rw [now, at10]
  cases e.proposal.key.actionType <;> decide

/-- The restart that lapsed is still there when it is proposed again, and the second proposal is
denied. -/
theorem lapsed_never_released_restart : ∃ (w u u' : World (Backend.Store .inMemory))
    (e : RemediationRecord) (q : ProposeRequest) (rec : RemediationRecord),
    (Backend.inMemory.service asciiConfig).Run (emptyWorld .inMemory) restartLapses w ∧
      (Backend.inMemory.service asciiConfig).step w (.call restartAnew) = some u ∧
      Backend.inMemory.lookup u.store "rem_0000000000000000" = .ok (some e) ∧
      (Backend.inMemory.service asciiConfig).step u (.advance 3 {}) = some u' ∧
      Prepares u (.advance 3 {}) u' q rec ∧ DuplicateDenied rec := by
  obtain ⟨w, u, u', e, q, rec, run, lapsed, quiet, _, _, st, st', prep, _, key⟩ := restartLapses_run
  have reach : (Backend.inMemory.service asciiConfig).Reachable w :=
    (Machine.Reachable.init emptyWorld_init).run run
  have late : (Backend.inMemory.service asciiConfig).EachStep
      (Late "rem_0000000000000000" e.proposal.val.expiresAt) w [.call restartAnew] := by
    intro ls1 l ls2 v v' split _ _ r at' hr acts
    rcases List.singleton_eq_append_iff.mp split with ⟨_, h⟩ | ⟨_, h⟩
    · cases h
      cases hr
      cases acts
    · cases h
  obtain ⟨_, later⟩ := lapsed_never_released .inMemory asciiConfig w reach (seconds 4000)
    "rem_0000000000000000" e lapsed
  obtain ⟨found, denied⟩ := later quiet _ u (.single st) late
  exact ⟨w, u, u', e, q, rec, run, st, found, st', prep, denied _ _ _ _ st' prep key⟩

end SentinelOps.Remediation
