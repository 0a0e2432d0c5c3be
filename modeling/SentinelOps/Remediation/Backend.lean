import SentinelOps.Remediation.Reachable
import SentinelOps.Remediation.SqlRefinement

/-!
# The service over either repository

`Backend` names the two repositories and the rows each of them keeps for a remediation. A run of the
service over the SQL repository is matched, step by step, by a run over the in-memory one: where the
database refuses what the dictionaries would have accepted, the matching step is one whose storage
failed before it took effect (`Matched`). `Backend.abstraction` and `Backend.abstractStep` are what
the results over both repositories are proved from.
-/

namespace SentinelOps.Remediation

/-- The two repositories. -/
inductive Backend where
  | inMemory
  | sql

namespace Backend

/-- The stores of a repository. -/
abbrev Store : Backend → Type
  | .inMemory => InMemoryStore
  | .sql => SqlStore

/-- The repository itself. -/
def repository : (b : Backend) → Repository b.Store
  | .inMemory => InMemoryStore.repository
  | .sql => SqlStore.repository

/-- The record `get` returns for an id. -/
def lookup (b : Backend) (store : b.Store) (rid : String) : Except Error (Option RemediationRecord) :=
  b.repository.get store rid

/-- The approval rows of a remediation. -/
def approvals : (b : Backend) → b.Store → String → List ApprovalRow
  | .inMemory, m, rid => ((m.get rid).bind (·.approval)).toList.map (approvalToRow rid)
  | .sql, s, rid => s.approvalsOf rid

/-- The execution rows of a remediation. -/
def executions : (b : Backend) → b.Store → String → List ExecutionRow
  | .inMemory, m, rid => (m.executions.get? rid).toList.map executionToRow
  | .sql, s, rid => s.executionsOf rid

/-- The verification rows of a remediation. -/
def verifications : (b : Backend) → b.Store → String → List VerificationRow
  | .inMemory, m, rid => (m.verifications.get? rid).toList.map verificationToRow
  | .sql, s, rid => s.verificationsOf rid

/-- The service over the repository. -/
def service (b : Backend) (cfg : ServiceConfig) : Machine (World b.Store) Label :=
  Remediation.service cfg b.repository

end Backend

variable {cfg : ServiceConfig} {s s' : SqlStore} {m : InMemoryStore}

/-- The environment of the matching step: the same, or one whose storage refuses the step. -/
def EnvMatch (env env' : Env) : Prop :=
  env' = env ∨ ∃ e, env' = { env with storage := some (.before e) }

/-- The label of the matching step. -/
def Matched (l k : Label) : Prop :=
  k = l ∨ ∃ i env e, l = .advance i env ∧ k = .advance i { env with storage := some (.before e) }

/-- A matching step advances the same call. -/
lemma Matched.advance {l k i env'} (h : Matched l k) (e : k = .advance i env') :
    ∃ env, l = .advance i env := by
  rcases h with rfl | ⟨j, env, x, rfl, rfl⟩
  · exact ⟨env', e⟩
  · cases e
    exact ⟨env, rfl⟩

/-- A step that advances a call is matched by one that advances the same call. -/
lemma Matched.advanced {l k i env} (h : Matched l k) (e : l = .advance i env) :
    ∃ env', k = .advance i env' := by
  rcases h with rfl | ⟨j, env', x, rfl, rfl⟩
  · exact ⟨env, e⟩
  · cases e
    exact ⟨_, rfl⟩

/-- Two worlds whose calls and simulation agree and whose stores are related. -/
structure WorldRel (w : World SqlStore) (v : World InMemoryStore) : Prop where
  store : SqlRel w.store v.store
  sim : w.sim = v.sim
  calls : w.calls = v.calls
  invocations : w.invocations = v.invocations

/-- A transaction on the tables is matched by the transaction on the dictionaries, or by one that
fails before it takes effect. -/
lemma commit_match {α : Type} {fault} {runS : Except Error (SqlStore × α)}
    {runM : Except Error (InMemoryStore × α)} {out} (rel : SqlRel s m)
    (refines : ∀ s' a, runS = .ok (s', a) → ∃ m', runM = .ok (m', a) ∧ SqlRel s' m')
    (e : commit fault s runS = (s', out)) :
    ∃ fault' m', (fault' = fault ∨ ∃ x, fault' = some (.before x)) ∧
      commit fault' m runM = (m', out) ∧ SqlRel s' m' := by
  unfold commit at e
  split at e
  · cases e
    exact ⟨_, m, .inl rfl, rfl, rel⟩
  · rename_i x _
    cases e
    exact ⟨some (.before x), m, .inr ⟨x, rfl⟩, rfl, rel⟩
  · cases e
    obtain ⟨m', hm, rel'⟩ := refines _ _ rfl
    rw [hm]
    exact ⟨_, m', .inl rfl, rfl, rel'⟩
  · cases e
    obtain ⟨m', hm, rel'⟩ := refines _ _ rfl
    rw [hm]
    exact ⟨_, m', .inl rfl, rfl, rel'⟩

/-- Both repositories let a call read the same record. -/
lemma readRecord_match (rel : SqlRel s m) {rid fault} :
    readRecord SqlStore.repository rid fault s = readRecord InMemoryStore.repository rid fault m := by
  have read : SqlStore.repository.get s rid = InMemoryStore.repository.get m rid := rel.get
  unfold readRecord
  rw [read]

/-- Both repositories let `propose` prepare the same record. -/
lemma proposeStart_match (rel : SqlRel s m) {r fault} :
    proposeStart cfg SqlStore.repository r fault s =
      proposeStart cfg InMemoryStore.repository r fault m := by
  have read : SqlStore.repository.historySnapshot s = InMemoryStore.repository.historySnapshot m := by
    funext key
    exact congrArg Except.ok rel.historySnapshot
  unfold proposeStart
  rw [read]

/-- Both repositories let `decide` prepare the same decision. -/
lemma decideStart_match (rel : SqlRel s m) {r fault} :
    decideStart cfg SqlStore.repository r fault s =
      decideStart cfg InMemoryStore.repository r fault m := by
  unfold decideStart
  rw [readRecord_match rel]

/-- Both repositories let `verify_recovery` prepare the same claim. -/
lemma verifyStart_match (rel : SqlRel s m) {r fault} :
    verifyStart cfg SqlStore.repository r fault s =
      verifyStart cfg InMemoryStore.repository r fault m := by
  unfold verifyStart
  rw [readRecord_match rel]

/-- The results of two matching steps. -/
structure ResultMatch (out : StepResult SqlStore) (out' : StepResult InMemoryStore) : Prop where
  store : SqlRel out.store out'.store
  sim : out.sim = out'.sim
  phase : out.phase = out'.phase
  invoked : out.invoked = out'.invoked

/-- Both repositories let an `execute` call start in the same way. -/
lemma stepExecuteStart_match {w : World SqlStore} {v : World InMemoryStore} (rel : WorldRel w v)
    {r env} : ResultMatch (stepExecuteStart SqlStore.repository r env w)
      (stepExecuteStart InMemoryStore.repository r env v) := by
  unfold stepExecuteStart
  rw [readRecord_match rel.store, rel.sim]
  dsimp only
  split
  · exact ⟨rel.store, rfl, rfl, rfl⟩
  · split
    · split
      · exact ⟨rel.store, rfl, rfl, rfl⟩
      · exact ⟨rel.store, rfl, rfl, rfl⟩
    · exact ⟨rel.store, rfl, rfl, rfl⟩

/-- What `create` is given has only a proposal and its decision. -/
lemma FreshRecord.bare {r : ProposeRequest} {rec} (h : FreshRecord r rec) :
    rec.approval = none ∧ rec.execution = none ∧ rec.verification = none := by
  refine ⟨h.ok.undecided.mpr h.fresh, ?_, ?_⟩
  · have he := h.ok.execution
    rcases h.fresh with st | st <;> simpa [st, executionStatusOf] using he
  · have hv := h.ok.verification
    rcases h.fresh with st | st <;> simpa [st, verificationStatusOf] using hv

/-- A transaction step is matched. -/
lemma ResultMatch.commit {α : Type} {w : World SqlStore} {v : World InMemoryStore}
    (rel : WorldRel w v) (env : Env) {runS : Except Error (SqlStore × α)}
    {runM : Except Error (InMemoryStore × α)} {f : α → Phase}
    (refines : ∀ s' a, runS = .ok (s', a) → ∃ m', runM = .ok (m', a) ∧ SqlRel s' m') :
    ∃ env', EnvMatch env env' ∧ ResultMatch
      { store := (commit env.storage w.store runS).1
        sim := w.sim
        phase := settle f (commit env.storage w.store runS).2 }
      { store := (commit env'.storage v.store runM).1
        sim := v.sim
        phase := settle f (commit env'.storage v.store runM).2 } := by
  cases e : Remediation.commit env.storage w.store runS with
  | mk s' out =>
    obtain ⟨fault', m', hf, hc, rel'⟩ := commit_match rel.store refines e
    refine ⟨{ env with storage := fault' }, ?_, ?_, rel.sim, ?_, rfl⟩
    · rcases hf with rfl | ⟨x, rfl⟩
      · exact .inl rfl
      · exact .inr ⟨x, rfl⟩
    · rw [hc]
      exact rel'
    · rw [hc]

/-- The step of a call over the tables is matched by a step over the dictionaries. -/
lemma stepCall_match {w : World SqlStore} {v : World InMemoryStore} {env req ph out}
    (rel : WorldRel w v) (call : CallOk cfg v.store req ph)
    (e : stepCall cfg SqlStore.repository env w req ph = some out) :
    ∃ env' out', EnvMatch env env' ∧
      stepCall cfg InMemoryStore.repository env' v req ph = some out' ∧ ResultMatch out out' := by
  cases stepCall_stepped e with
  | propose =>
    rw [proposeStart_match rel.store]
    exact ⟨env, _, .inl rfl, rfl, rel.store, rel.sim, rfl, rfl⟩
  | decide =>
    rw [decideStart_match rel.store]
    exact ⟨env, _, .inl rfl, rfl, rel.store, rel.sim, rfl, rfl⟩
  | execute => exact ⟨env, _, .inl rfl, rfl, stepExecuteStart_match rel⟩
  | verifyRecovery =>
    rw [verifyStart_match rel.store]
    exact ⟨env, _, .inl rfl, rfl, rel.store, rel.sim, rfl, rfl⟩
  | @create r record events _ _ done =>
    obtain ⟨rfl, rfl⟩ := Prod.ext_iff.mp done
    have fresh : FreshRecord r record := call
    obtain ⟨env', he, hr⟩ := ResultMatch.commit rel env
      (fun s' a run => rel.store.create fresh.bare run)
    exact ⟨env', _, he, rfl, hr⟩
  | @recordDecision r np approval events _ _ done =>
    obtain ⟨rfl, rfl⟩ := Prod.ext_iff.mp done
    obtain ⟨rec, found, ready⟩ := call
    have same : ∀ rec', v.store.records.get? r.remediationId = some rec' →
        np = rec'.proposal.withStatus np.val.status := by
      intro rec' found'
      cases Option.some.inj (found.symm.trans found')
      rw [ready.proposal]
      rfl
    obtain ⟨env', he, hr⟩ := ResultMatch.commit rel env
      (fun s' a run => rel.store.recordDecision same (by rw [ready.approval]; rfl) run)
    exact ⟨env', _, he, rfl, hr⟩
  | @beginExecution r pending events _ _ done =>
    obtain ⟨rfl, rfl⟩ := Prod.ext_iff.mp done
    obtain ⟨_, rec, _, own⟩ := call
    have owned : pending.val.remediationId = r.remediationId := by
      rw [own]
      rfl
    obtain ⟨env', he, hr⟩ := ResultMatch.commit rel env
      (fun s' a run => rel.store.beginExecution owned run)
    exact ⟨env', _, he, rfl, hr⟩
  | executor done =>
    obtain ⟨rfl, rfl⟩ := Prod.ext_iff.mp done
    rw [rel.sim]
    exact ⟨env, _, .inl rfl, rfl, rel.store, rfl, rfl, rfl⟩
  | @finishExecution r result final events _ _ done =>
    obtain ⟨rfl, rfl⟩ := Prod.ext_iff.mp done
    obtain ⟨begun, claim, fin, _⟩ := call
    have began : ∀ rec, v.store.records.get? r.remediationId = some rec → rec.status = .executing →
        ∃ x, rec.execution = some x ∧ x.val.executionId = newExecutionId r.token ∧
          FinishesExecution x result := by
      intro rec found _
      cases Option.some.inj (claim.2.1.symm.trans found)
      exact ⟨_, claim.2.2.2, rfl, fin⟩
    obtain ⟨env', he, hr⟩ := ResultMatch.commit rel env
      (fun s' a run => rel.store.finishExecution began run)
    exact ⟨env', _, he, rfl, hr⟩
  | @beginVerification r pending events _ _ done =>
    obtain ⟨rfl, rfl⟩ := Prod.ext_iff.mp done
    obtain ⟨eid, own⟩ := call
    have owned : pending.val.remediationId = r.remediationId := by
      rw [own]
      rfl
    obtain ⟨env', he, hr⟩ := ResultMatch.commit rel env
      (fun s' a run => rel.store.beginVerification owned run)
    exact ⟨env', _, he, rfl, hr⟩
  | verifier =>
    rw [rel.sim]
    exact ⟨env, _, .inl rfl, rfl, rel.store, rfl, rfl, rfl⟩
  | @finishVerification r result final events _ _ done =>
    obtain ⟨rfl, rfl⟩ := Prod.ext_iff.mp done
    obtain ⟨begun, pending, claim, fin, _⟩ := call
    have began : ∀ rec, v.store.records.get? r.remediationId = some rec → rec.status = .verifying →
        ∃ x, rec.verification = some x ∧ x.val.verificationId = newVerificationId r.token ∧
          FinishesVerification x result := by
      intro rec found _
      cases Option.some.inj (claim.1.symm.trans found)
      obtain ⟨eid, own⟩ := claim.2.2.2
      exact ⟨pending, claim.2.2.1, by rw [own]; rfl, fin⟩
    obtain ⟨env', he, hr⟩ := ResultMatch.commit rel env
      (fun s' a run => rel.store.finishVerification began run)
    exact ⟨env', _, he, rfl, hr⟩

/-- A step of the service over the tables is matched by a step over the dictionaries. -/
theorem step_match {w w' : World SqlStore} {v : World InMemoryStore} {l} (rel : WorldRel w v)
    (inv : Inv cfg v) (e : step cfg SqlStore.repository w l = some w') :
    ∃ k v', Matched l k ∧ step cfg InMemoryStore.repository v k = some v' ∧ WorldRel w' v' := by
  rcases step_cases e with ⟨r, rfl, rfl⟩ | ⟨i, env, c, out, rfl, hc, ho, rfl⟩
  · refine ⟨.call r, _, .inl rfl, rfl, rel.store, rel.sim, ?_, rel.invocations⟩
    rw [rel.calls]
  · have hc' : v.calls[i]? = some c := rel.calls ▸ hc
    obtain ⟨env', out', he, ho', hr⟩ := stepCall_match rel (inv.calls i c hc') ho
    refine ⟨.advance i env', _, ?_, step_advance hc' ho', hr.store, hr.sim, ?_, ?_⟩
    · rcases he with rfl | ⟨x, rfl⟩
      · exact .inl rfl
      · exact .inr ⟨i, env, x, rfl, rfl⟩
    · rw [rel.calls, hr.phase]
    · rw [rel.invocations, hr.invoked]

namespace Backend

/-- A world over either repository, looked at as a world over the dictionaries. -/
structure Abstracts (b : Backend) (w : World b.Store) (v : World InMemoryStore) : Prop where
  lookup : ∀ rid, b.lookup w.store rid = .ok (v.store.get rid)
  history : b.repository.historySnapshot w.store = InMemoryStore.repository.historySnapshot v.store
  sim : w.sim = v.sim
  calls : w.calls = v.calls
  invocations : w.invocations = v.invocations
  approvals : ∀ rid, b.approvals w.store rid =
    ((v.store.get rid).bind (·.approval)).toList.map (approvalToRow rid)
  executions : ∀ rid, b.executions w.store rid =
    ((v.store.get rid).bind (·.execution)).toList.map executionToRow
  verifications : ∀ rid, b.verifications w.store rid =
    ((v.store.get rid).bind (·.verification)).toList.map verificationToRow

/-- A world over the dictionaries abstracts itself. -/
lemma Abstracts.inMemory {v} (h : StoreOk v.store) : Abstracts .inMemory v v where
  lookup _ := rfl
  history := rfl
  sim := rfl
  calls := rfl
  invocations := rfl
  approvals _ := rfl
  executions rid := by
    change (v.store.executions.get? rid).toList.map _ = _
    rw [h.executions]
  verifications rid := by
    change (v.store.verifications.get? rid).toList.map _ = _
    rw [h.verifications]

/-- Related worlds abstract each other. -/
lemma Abstracts.sql {w v} (h : WorldRel w v) : Abstracts .sql w v where
  lookup _ := h.store.get
  history := by
    funext key
    exact congrArg Except.ok h.store.historySnapshot
  sim := h.sim
  calls := h.calls
  invocations := h.invocations
  approvals := h.store.approvals
  executions := h.store.executions
  verifications := h.store.verifications

/-- What relates a world over a repository to its abstraction along a run. -/
def Rel : (b : Backend) → World b.Store → World InMemoryStore → Prop
  | .inMemory, w, v => w = v
  | .sql, w, v => WorldRel w v

/-- A related world in order is an abstraction. -/
lemma Rel.abstracts {b w v} (h : Rel b w v) (inv : Inv cfg v) : Abstracts b w v := by
  cases b with
  | inMemory =>
    cases h
    exact .inMemory inv.store
  | sql => exact .sql h

/-- A step over either repository is matched by a step over the dictionaries. -/
theorem Rel.step {b w w' v l} (h : Rel b w v) (inv : Inv cfg v)
    (e : (b.service cfg).step w l = some w') :
    ∃ k v', Matched l k ∧ (Backend.inMemory.service cfg).step v k = some v' ∧ Rel b w' v' := by
  cases b with
  | inMemory =>
    cases h
    exact ⟨l, w', .inl rfl, e, rfl⟩
  | sql => exact step_match h inv e

/-- An initial world is related to an initial world. -/
lemma Rel.init {b w} (h : (service b cfg).init w) :
    ∃ v, (Backend.inMemory.service cfg).init v ∧ Rel b w v := by
  cases b with
  | inMemory => exact ⟨w, h, rfl⟩
  | sql =>
    obtain ⟨hs, hc, hi⟩ := h
    refine ⟨{ store := {}, sim := w.sim }, ⟨rfl, rfl, rfl⟩, ?_, rfl, hc, hi⟩
    have store : w.store = {} := hs
    rw [store]
    exact .empty

/-- A run over either repository is matched by a run over the dictionaries. -/
theorem Rel.run {b w w' v ls} (h : Rel b w v) (inv : Inv cfg v)
    (r : (service b cfg).Run w ls w') :
    ∃ ks v', List.Forall₂ Matched ls ks ∧ (Backend.inMemory.service cfg).Run v ks v' ∧
      Rel b w' v' ∧ Inv cfg v' := by
  refine r.simulate (R := fun w v => Rel b w v ∧ Inv cfg v) ?_ ⟨h, inv⟩
  rintro w l w' v ⟨h, inv⟩ e
  obtain ⟨k, v', hk, e', h'⟩ := h.step inv e
  exact ⟨k, v', hk, e', h', inv.step e'⟩

/-- Every reachable world over either repository has an abstraction that satisfies the lifecycle
invariant. -/
theorem related_of_reachable {b w} (h : (service b cfg).Reachable w) :
    ∃ v, Rel b w v ∧ Inv cfg v ∧ (Backend.inMemory.service cfg).Reachable v := by
  obtain ⟨w0, ls, h0, r⟩ := h
  obtain ⟨v0, hv0, rel⟩ := Rel.init h0
  obtain ⟨ks, v, _, r', rel', inv⟩ := rel.run (.init hv0) r
  exact ⟨v, rel', inv, v0, ks, hv0, r'⟩

end Backend

end SentinelOps.Remediation
