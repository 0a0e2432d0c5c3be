import SentinelOps.Remediation.Lifecycle

/-!
# Execution happens at most once

The executor is really invoked by a call that stands in the phase `executing`, and a call enters
that phase only by a `begin_execution` that found the record `APPROVED`. `InvokedOk` counts: once a
remediation was executed its record is `EXECUTING` or later and no call stands before its execution
any more. `execute_at_most_once` states the guarantee over every run of either repository.
-/

namespace SentinelOps.Remediation

/-- The real executor invocations for a remediation. -/
def realInvocations {σ : Type} (w : World σ) (rid : String) : List Invocation :=
  w.invocations.filter fun x => x.remediationId = rid ∧ x.dryRun = false

/-- A remediation that was executed is claimed for good, and nobody stands before its execution. -/
structure InvokedOk (w : World InMemoryStore) : Prop where
  once : ∀ rid, (realInvocations w rid).length ≤ 1
  claimed : ∀ x ∈ w.invocations, x.dryRun = false →
    ∃ rec, w.store.get x.remediationId = some rec ∧ rec.status ∈ executingOrLater
  ended : ∀ x ∈ w.invocations, x.dryRun = false → ∀ (j : Nat) (d : Call), w.calls[j]? = some d →
    ∀ begun pending, d.phase = .executing begun pending → d.request.target ≠ x.remediationId

variable {cfg : ServiceConfig} {σ : Type} {repo : Repository σ}

/-- The executor is really invoked by a call that has claimed an execution. -/
lemma stepCall_invoked {env} {w : World σ} {req ph out}
    (e : stepCall cfg repo env w req ph = some out) (real : out.invoked = some false) :
    ∃ r begun pending, req = .execute r ∧ ph = .executing begun pending ∧
      out.store = w.store ∧ ∀ b p, out.phase ≠ .executing b p := by
  cases stepCall_stepped e with
  | execute => exact absurd real (stepExecuteStart_cases rfl).2.2.1
  | @executor r begun pending _ _ done =>
    refine ⟨r, begun, pending, rfl, rfl, rfl, ?_⟩
    intro b p hp
    rcases settle_cases hp with ⟨a, ha, hid⟩ | ⟨x, _, hx⟩
    · obtain ⟨x, _, ha⟩ := Except.bind_eq_ok.mp ha
      obtain ⟨events, rfl⟩ := executeFinish_ok ha
      cases hid
    · cases hx
  | _ => cases real

/-- A call that settles by returning a response is not in the phase `executing`. -/
lemma settle_returned_ne {α : Type} {f : α → Response} {x : Except Error α} {b p} :
    settle (fun a => .returned (f a)) x ≠ .executing b p := by
  cases x <;> (intro h; cases h)

/-- A call enters the phase `executing` by a `begin_execution` that took effect. -/
lemma stepCall_executing {env} {w : World σ} {req ph out begun pending}
    (e : stepCall cfg repo env w req ph = some out) (hp : out.phase = .executing begun pending) :
    ∃ r events, req = .execute r ∧ ph = .claimingExecution pending events ∧
      out.invoked = none ∧
      repo.beginExecution w.store r.remediationId pending events = .ok (out.store, begun) := by
  cases stepCall_stepped e with
  | propose =>
    rcases settle_cases hp with ⟨a, ha, hid⟩ | ⟨x, _, hx⟩
    · obtain ⟨_, _, _, _, _, rfl⟩ := proposeStart_ok ha
      cases hid
    · cases hx
  | decide =>
    rcases settle_cases hp with ⟨a, ha, hid⟩ | ⟨x, _, hx⟩
    · obtain ⟨_, _, _, _, _, _, rfl⟩ := decideStart_ok ha
      cases hid
    · cases hx
  | execute =>
    obtain ⟨_, _, _, ⟨x, hx⟩ | ⟨_, _, _, hx⟩ | ⟨_, _, _, _, _, hx⟩⟩ :=
      @stepExecuteStart_cases _ repo _ env w _ rfl
    · rw [hx] at hp
      cases hp
    · rw [hx] at hp
      cases hp
    · rw [hx] at hp
      cases hp
  | verifyRecovery =>
    rcases settle_cases hp with ⟨a, ha, hid⟩ | ⟨x, _, hx⟩
    · obtain ⟨_, _, ⟨_, _, rfl⟩ | ⟨_, _, _, _, rfl⟩⟩ := verifyStart_ok ha
      · cases hid
      · cases hid
    · cases hx
  | create | recordDecision | finishExecution | finishVerification =>
    exact absurd hp settle_returned_ne
  | @beginExecution r pending' events _ _ done =>
    rcases settle_cases hp with ⟨a, ha, hid⟩ | ⟨x, _, hx⟩
    · cases hid
      rcases commit_cases done with ⟨_, x, hx⟩ | ⟨b, run, hb | ⟨x, hx⟩⟩
      · cases ha.symm.trans hx
      · cases ha.symm.trans hb
        exact ⟨r, events, rfl, rfl, rfl, run⟩
      · cases ha.symm.trans hx
    · cases hx
  | executor =>
    rcases settle_cases hp with ⟨a, ha, hid⟩ | ⟨x, _, hx⟩
    · obtain ⟨x, _, ha⟩ := Except.bind_eq_ok.mp ha
      obtain ⟨events, rfl⟩ := executeFinish_ok ha
      cases hid
    · cases hx
  | beginVerification =>
    rcases settle_cases hp with ⟨a, ha, hid⟩ | ⟨x, _, hx⟩
    · cases hid
    · cases hx
  | verifier =>
    rcases settle_cases hp with ⟨a, ha, hid⟩ | ⟨x, _, hx⟩
    · obtain ⟨_, _, ha⟩ := Except.bind_eq_ok.mp ha
      unfold verifyFinish at ha
      obtain ⟨_, _, ha⟩ := Except.bind_eq_ok.mp ha
      obtain ⟨_, _, ha⟩ := Except.bind_eq_ok.mp ha
      cases ha
      cases hid
    · cases hx

/-- The invocations a step adds. -/
lemma mem_invocations {w : World σ} {i : Nat} {target : String} {dry : Option Bool} {x : Invocation}
    (h : x ∈ w.invocations ++ (dry.toList.map fun d => ⟨i, target, d⟩)) :
    x ∈ w.invocations ∨ dry = some x.dryRun ∧ x.call = i ∧ x.remediationId = target := by
  rcases List.mem_append.mp h with h | h
  · exact .inl h
  · obtain ⟨d, hd, rfl⟩ := List.mem_map.mp h
    exact .inr ⟨Option.mem_toList.mp hd, rfl, rfl⟩

/-- The real invocations for a remediation after a step. -/
lemma realInvocations_append {w : World σ} {rid i target} {dry : Option Bool} {s sim calls} :
    realInvocations
      { store := s, sim := sim, calls := calls
        invocations := w.invocations ++ (dry.toList.map fun d => ⟨i, target, d⟩) : World σ } rid =
      realInvocations w rid ++ if dry = some false ∧ target = rid then [⟨i, target, false⟩] else [] := by
  unfold realInvocations
  rw [List.filter_append]
  congr 1
  cases dry with
  | none => simp
  | some d =>
    cases d with
    | true => simp
    | false => by_cases h : target = rid <;> simp [h]

/-- A call after one of the calls has moved. -/
lemma getElem?_set_call {calls : List Call} {i j : Nat} {c d : Call}
    (h : (calls.set i c)[j]? = some d) : (j = i ∧ d = c) ∨ (j ≠ i ∧ calls[j]? = some d) := by
  rw [List.getElem?_set] at h
  split at h
  · rename_i e
    split at h
    · exact .inl ⟨e.symm, (Option.some.inj h).symm⟩
    · cases h
  · rename_i ne
    exact .inr ⟨fun e => ne e.symm, h⟩

open InMemoryStore (repository)

/-- A call that is about to execute has claimed the record. -/
lemma Inv.executing {w : World InMemoryStore} (inv : Inv cfg w) {i : Nat} {c : Call} {begun pending}
    (hc : w.calls[i]? = some c) (hp : c.phase = .executing begun pending) :
    w.store.get c.request.target = some begun ∧ begun.status = .executing := by
  have ok := inv.calls i c hc
  rw [hp] at ok
  cases hr : c.request with
  | execute r =>
    rw [hr] at ok
    exact ⟨ok.1.2.1, ok.1.2.2.1⟩
  | propose r =>
    rw [hr] at ok
    exact absurd ok id
  | decide r =>
    rw [hr] at ok
    exact absurd ok id
  | verifyRecovery r =>
    rw [hr] at ok
    exact absurd ok id

/-- The step that enters the phase `executing` moves the record from `APPROVED` to `EXECUTING`. -/
lemma begin_moves {env} {w : World InMemoryStore} {req ph} {out : StepResult InMemoryStore}
    {begun pending} (e : stepCall cfg repository env w req ph = some out)
    (hp : out.phase = .executing begun pending) :
    ∃ r events rec, req = .execute r ∧ ph = .claimingExecution pending events ∧
      out.invoked = none ∧
      w.store.get r.remediationId = some rec ∧ rec.status = .approved ∧
      out.store.get r.remediationId = some begun ∧ begun.status = .executing := by
  obtain ⟨r, events, hr, hph, hi, run⟩ := stepCall_executing e hp
  obtain ⟨rec, found, approved, _, rfl, hs⟩ := InMemoryStore.beginExecution_ok run
  refine ⟨r, events, rec, hr, hph, hi, found, approved, ?_, rfl⟩
  rw [hs]
  exact Dict.get?_set_self

/-- Starting a call invokes nothing. -/
lemma InvokedOk.call {w : World InMemoryStore} {r} (h : InvokedOk w) :
    InvokedOk { w with calls := w.calls ++ [{ request := r, phase := .started }] } where
  once := h.once
  claimed := h.claimed
  ended x hx real j d hd begun pending hp := by
    have hd' : (w.calls ++ [{ request := r, phase := Phase.started }])[j]? = some d := hd
    rw [List.getElem?_append] at hd'
    split at hd'
    · exact h.ended x hx real j d hd' begun pending hp
    · rw [List.getElem?_singleton] at hd'
      split at hd'
      · cases hd'
        cases hp
      · cases hd'

/-- A call that stands before its execution has not been preceded by another execution of its
remediation. -/
lemma InvokedOk.none_before {w : World InMemoryStore} (h : InvokedOk w) {i : Nat} {c : Call}
    {begun pending} (hc : w.calls[i]? = some c) (hp : c.phase = .executing begun pending) :
    realInvocations w c.request.target = [] := by
  rw [List.eq_nil_iff_forall_not_mem]
  intro x hx
  obtain ⟨mem, sel⟩ := List.mem_filter.mp hx
  obtain ⟨own, real⟩ := of_decide_eq_true sel
  exact h.ended x mem real i c hc begun pending hp own.symm

/-- Every step keeps the count. -/
lemma InvokedOk.step {w w' : World InMemoryStore} {l} (inv : Inv cfg w) (h : InvokedOk w)
    (e : Remediation.step cfg repository w l = some w') : InvokedOk w' := by
  have inv' := inv.step e
  rcases step_cases e with ⟨r, rfl, rfl⟩ | ⟨i, env, c, out, rfl, hc, ho, rfl⟩
  · exact h.call
  have evolves := (stepCall_ok inv.store (inv.calls i c hc) ho).evolves
  refine ⟨?_, ?_, ?_⟩
  · intro rid
    rw [realInvocations_append]
    split
    · rename_i new
      obtain ⟨r, begun, pending, hr, hp, _⟩ := stepCall_invoked ho new.1
      rw [← new.2, h.none_before hc hp]
      exact le_refl _
    · rw [List.append_nil]
      exact h.once rid
  · intro x hx real
    rcases mem_invocations hx with old | ⟨new, _, hx'⟩
    · obtain ⟨rec, found, late⟩ := h.claimed x old real
      obtain ⟨rec', found', ev⟩ := evolves _ _ found
      exact ⟨rec', found', ev.status.executingOrLater late⟩
    · rw [real] at new
      obtain ⟨r, begun, pending, hr, hp, same, _⟩ := stepCall_invoked ho new
      obtain ⟨found, st⟩ := inv.executing hc hp
      refine ⟨begun, ?_, by rw [st]; decide⟩
      rw [hx']
      change out.store.get _ = _
      rw [same]
      exact found
  · intro x hx real j d hd begun pending hp
    rcases mem_invocations hx with old | ⟨new, _, hx'⟩
    · rcases getElem?_set_call hd with ⟨_, rfl⟩ | ⟨_, hd⟩
      · -- the moving call has just claimed a record that was still `APPROVED`
        obtain ⟨r, events, rec, hr, _, _, found, approved, _⟩ := begin_moves ho hp
        intro et
        obtain ⟨rec', found', late⟩ := h.claimed x old real
        have et' : r.remediationId = x.remediationId := by
          rw [← et]
          change _ = c.request.target
          rw [hr]
          rfl
        rw [← et', found] at found'
        cases found'
        rw [approved] at late
        simp [Remediation.executingOrLater] at late
      · exact h.ended x old real j d hd begun pending hp
    · rw [real] at new
      obtain ⟨r, begun0, pending0, hr, hp0, _, left⟩ := stepCall_invoked ho new
      rcases getElem?_set_call hd with ⟨_, rfl⟩ | ⟨ne, hd⟩
      · exact absurd hp (left begun pending)
      · intro et
        rw [hx'] at et
        exact ne (inv.unique j i d c hd hc (by rw [hp]; rfl) (by rw [hp0]; rfl) et)

/-- Before any call, nothing was invoked. -/
lemma InvokedOk.init {w} (h : (service cfg repository).init w) : InvokedOk w := by
  have none : w.invocations = [] := h.2.2
  refine ⟨?_, ?_, ?_⟩
  · intro rid
    unfold realInvocations
    rw [none]
    exact Nat.zero_le _
  · intro x hx
    rw [none] at hx
    cases hx
  · intro x hx
    rw [none] at hx
    cases hx

/-- Every reachable world counts right. -/
theorem invokedOk_of_reachable {w} (h : (service cfg repository).Reachable w) : InvokedOk w :=
  h.invariant' (fun _ => inv_of_reachable) (fun _ => .init) (fun _ _ _ inv ok st => ok.step inv st)

/-- A call has claimed the execution of a remediation, or already executed it. -/
def HasClaimed (w : World σ) (i : Nat) (rid : String) : Prop :=
  (∃ x ∈ w.invocations, x.call = i ∧ x.remediationId = rid ∧ x.dryRun = false) ∨
    ∃ c begun pending, w.calls[i]? = some c ∧ c.request.target = rid ∧
      c.phase = .executing begun pending

/-- A call comes to have claimed an execution in a step of its own, its `begin_execution`. -/
lemma hasClaimed_turn {w w' : World σ} {l i rid} (e : step cfg repo w l = some w')
    (no : ¬ HasClaimed w i rid) (yes : HasClaimed w' i rid) :
    ∃ env c out begun pending, l = .advance i env ∧ w.calls[i]? = some c ∧ c.request.target = rid ∧
      stepCall cfg repo env w c.request c.phase = some out ∧ out.phase = .executing begun pending ∧
      w'.store = out.store := by
  rcases step_cases e with ⟨r, rfl, rfl⟩ | ⟨j, env, c, out, rfl, hc, ho, rfl⟩
  · rcases yes with ⟨x, hx, h⟩ | ⟨d, begun, pending, hd, ht, hp⟩
    · exact absurd (.inl ⟨x, hx, h⟩) no
    · have hd' : (w.calls ++ [{ request := r, phase := Phase.started }])[i]? = some d := hd
      rw [List.getElem?_append] at hd'
      split at hd'
      · exact absurd (.inr ⟨d, begun, pending, hd', ht, hp⟩) no
      · rw [List.getElem?_singleton] at hd'
        split at hd'
        · cases hd'
          cases hp
        · cases hd'
  · rcases yes with ⟨x, hx, hi, ht, real⟩ | ⟨d, begun, pending, hd, ht, hp⟩
    · rcases mem_invocations hx with old | ⟨new, hj, ht'⟩
      · exact absurd (.inl ⟨x, old, hi, ht, real⟩) no
      · rw [real] at new
        obtain ⟨r, begun, pending, _, hp, _⟩ := stepCall_invoked ho new
        have hc' : w.calls[i]? = some c := by rw [← hi, hj]; exact hc
        exact absurd (.inr ⟨c, begun, pending, hc', ht'.symm.trans ht, hp⟩) no
    · rcases getElem?_set_call hd with ⟨rfl, rfl⟩ | ⟨_, hd⟩
      · exact ⟨env, c, out, begun, pending, rfl, hc, ht, ho, hp, rfl⟩
      · exact absurd (.inr ⟨d, begun, pending, hd, ht, hp⟩) no

/-- The step from `u` to `u'` is the `begin_execution` of a real `execute` call, and it moves the
record from `APPROVED` to `EXECUTING`. -/
structure ClaimsExecution (b : Backend) (u u' : World b.Store) (i : Nat) (rid : String) : Prop where
  call : ∃ r pending events,
    u.calls[i]? = some { request := .execute r, phase := .claimingExecution pending events } ∧
      r.remediationId = rid ∧ r.dryRun = false
  before : b.statusOf u.store rid = some .approved
  after : b.statusOf u'.store rid = some .executing

/-- The status of a record seen through an abstraction. -/
lemma Backend.Abstracts.statusOf {b : Backend} {w : World b.Store} {v rid}
    (h : b.Abstracts w v) : b.statusOf w.store rid = (v.store.get rid).map (·.status) := by
  unfold Backend.statusOf
  rw [h.lookup]

/-- A call that comes to have claimed an execution does so by its `begin_execution`. -/
lemma claimsExecution_turn {b : Backend} {u u' : World b.Store} {l i rid}
    (reach : (b.service cfg).Reachable u) (e : (b.service cfg).step u l = some u')
    (no : ¬ HasClaimed u i rid) (yes : HasClaimed u' i rid) :
    ∃ env, l = .advance i env ∧ ClaimsExecution b u u' i rid := by
  obtain ⟨env, c, _, _, _, rfl, hc, _⟩ := hasClaimed_turn e no yes
  refine ⟨env, rfl, ?_⟩
  -- the abstraction takes the same turn, and there the record is known
  obtain ⟨v, rel, inv, _⟩ := Backend.related_of_reachable reach
  obtain ⟨k, v', _, e', rel'⟩ := rel.step inv e
  have abs := rel.abstracts inv
  have abs' := rel'.abstracts (inv.step e')
  have no' : ¬ HasClaimed v i rid := by
    unfold HasClaimed at no ⊢
    rwa [← abs.invocations, ← abs.calls]
  have yes' : HasClaimed v' i rid := by
    unfold HasClaimed at yes ⊢
    rwa [← abs'.invocations, ← abs'.calls]
  obtain ⟨env', c', out, begun, pending, _, hc', ht, ho, hp, hs⟩ := hasClaimed_turn e' no' yes'
  obtain ⟨r, events, rec, hr, hph, _, found, approved, found', executing⟩ := begin_moves ho hp
  have own : r.remediationId = rid := by
    rw [← ht, hr]
    rfl
  have same : c' = { request := .execute r, phase := .claimingExecution pending events } := by
    cases c'
    simp only at hr hph
    rw [hr, hph]
  have real : r.dryRun = false := by
    have ok := inv.calls i c' hc'
    rw [same] at ok
    exact ok.1
  refine ⟨⟨r, pending, events, ?_, own, real⟩, ?_, ?_⟩
  · rw [abs.calls, hc', same]
  · rw [abs.statusOf, ← own, found, Option.map_some, approved]
  · rw [abs'.statusOf, ← own, hs, found', Option.map_some, executing]

/-- A step of a dry-run call leaves the store and the simulation alone. -/
lemma dryRun_frame {b : Backend} {w w' : World b.Store} {i env} {c : Call} {r}
    (reach : (b.service cfg).Reachable w) (e : (b.service cfg).step w (.advance i env) = some w')
    (hc : w.calls[i]? = some c) (hr : c.request = .execute r) (dry : r.dryRun = true) :
    w'.store = w.store ∧ w'.sim = w.sim := by
  obtain ⟨v, rel, inv, _⟩ := Backend.related_of_reachable reach
  have abs := rel.abstracts inv
  have ok := inv.calls i c (abs.calls ▸ hc)
  have e' : step cfg b.repository w (.advance i env) = some w' := e
  rcases step_cases e' with
    ⟨r, h, _⟩ | ⟨i', env', c', out, h, hc', ho, rfl⟩
  · cases h
  · cases h
    cases hc.symm.trans hc'
    rw [hr] at ok ho
    cases hph : c.phase with
    | started =>
      rw [hph] at ho
      cases ho
      obtain ⟨store, sim, _⟩ := @stepExecuteStart_cases _ b.repository r env w _ rfl
      exact ⟨store, sim⟩
    | claimingExecution pending events =>
      rw [hph] at ok
      cases dry.symm.trans ok.1
    | executing begun pending =>
      rw [hph] at ok
      cases dry.symm.trans ok.1.1
    | completingExecution result final events =>
      rw [hph] at ok
      obtain ⟨begun, claim, _⟩ := ok
      cases dry.symm.trans claim.1
    | creating record events =>
      rw [hph] at ho
      cases ho
    | deciding np a events =>
      rw [hph] at ho
      cases ho
    | claimingVerification pending events =>
      rw [hph] at ho
      cases ho
    | verifying begun pending =>
      rw [hph] at ho
      cases ho
    | completingVerification result final events =>
      rw [hph] at ho
      cases ho
    | returned response =>
      rw [hph] at ho
      cases ho
    | raised x =>
      rw [hph] at ho
      cases ho

/-- Over every run a remediation is really executed at most once, and only by the call whose
`begin_execution` moved its record from `APPROVED` to `EXECUTING`; a dry run changes nothing. -/
theorem execute_at_most_once (b : Backend) (cfg : ServiceConfig) {w0 w : World b.Store}
    {ls : List Label} (init : (b.service cfg).init w0) (run : (b.service cfg).Run w0 ls w)
    (rid : String) :
    (realInvocations w rid).length ≤ 1 ∧
    (∀ x ∈ realInvocations w rid, ∃ ls1 env ls2 u u', ls = ls1 ++ .advance x.call env :: ls2 ∧
      (b.service cfg).Run w0 ls1 u ∧ (b.service cfg).step u (.advance x.call env) = some u' ∧
      (b.service cfg).Run u' ls2 w ∧ ClaimsExecution b u u' x.call rid) ∧
    (∀ i env w' c r, (b.service cfg).step w (.advance i env) = some w' → w.calls[i]? = some c →
      c.request = .execute r → r.dryRun = true → w'.store = w.store ∧ w'.sim = w.sim) := by
  have reach : (b.service cfg).Reachable w := ⟨w0, ls, init, run⟩
  refine ⟨?_, ?_, ?_⟩
  · obtain ⟨v, rel, inv, reach'⟩ := Backend.related_of_reachable reach
    have once := (invokedOk_of_reachable reach').once rid
    unfold realInvocations at once ⊢
    rwa [(rel.abstracts inv).invocations]
  · intro x hx
    obtain ⟨mem, sel⟩ := List.mem_filter.mp hx
    obtain ⟨own, real⟩ := of_decide_eq_true sel
    have yes : HasClaimed w x.call rid := .inl ⟨x, mem, rfl, own, real⟩
    have no : ¬ HasClaimed w0 x.call rid := by
      obtain ⟨_, noCalls, noInvocations⟩ := init
      unfold HasClaimed
      rw [noCalls, noInvocations]
      simp
    obtain ⟨ls1, l, ls2, u, u', rfl, r1, st, r2, hu, hu'⟩ :=
      run.turn (P := fun w => HasClaimed w x.call rid) no yes
    obtain ⟨env, rfl, claims⟩ := claimsExecution_turn ⟨w0, ls1, init, r1⟩ st hu hu'
    exact ⟨ls1, env, ls2, u, u', rfl, r1, st, r2, claims⟩
  · intro i env w' c r st hc hr dry
    exact dryRun_frame reach st hc hr dry

/-- The approved restart is executed once, by the call that claimed it, and rehearsing it before
changes nothing. -/
theorem execute_at_most_once_restart :
    ∃ w u u' ls1 env v v', (Backend.inMemory.service asciiConfig).Run (emptyWorld .inMemory)
        (approveAndReject ++ executeBoth) w ∧
      (realInvocations w "rem_0000000000000000").length = 1 ∧
      (Backend.inMemory.service asciiConfig).Run (emptyWorld .inMemory) ls1 u ∧
      (Backend.inMemory.service asciiConfig).step u (.advance 4 env) = some u' ∧
      ClaimsExecution .inMemory u u' 4 "rem_0000000000000000" ∧
      (Backend.inMemory.service asciiConfig).Run (emptyWorld .inMemory)
        (approveAndReject ++ rehearse) v ∧
      (Backend.inMemory.service asciiConfig).step v (.advance 4 {}) = some v' ∧
      v'.store = v.store ∧ v'.sim = v.sim := by
  obtain ⟨w1, run1, facts⟩ := (Option.any_eq_true _ _).mp approveAndReject_states
  obtain ⟨_, _, _, executed, rehearsed⟩ := of_decide_eq_true facts
  obtain ⟨w, run2, facts⟩ := (Option.any_eq_true _ _).mp executed
  obtain ⟨_, invoked⟩ := of_decide_eq_true facts
  obtain ⟨v, run3, possible⟩ := (Option.any_eq_true _ _).mp rehearsed
  obtain ⟨five, possible⟩ := of_decide_eq_true possible
  obtain ⟨v', st⟩ := Option.isSome_iff_exists.mp possible
  have r := (Machine.run_iff_exec.mpr run1).append (Machine.run_iff_exec.mpr run2)
  have r' := (Machine.run_iff_exec.mpr run1).append (Machine.run_iff_exec.mpr run3)
  obtain ⟨_, claimed, _⟩ := execute_at_most_once .inMemory asciiConfig emptyWorld_init r
    "rem_0000000000000000"
  have only : realInvocations w "rem_0000000000000000" =
      [⟨4, "rem_0000000000000000", false⟩] := by
    unfold realInvocations
    rw [invoked]
    decide
  obtain ⟨ls1, env, _, u, u', _, r1, su, _, claims⟩ :=
    claimed ⟨4, "rem_0000000000000000", false⟩ (by rw [only]; exact List.mem_singleton_self _)
  have call4 : v.calls[4]? = some { request := executeOn 0 true 15, phase := .started } :=
    last_call r' five
  obtain ⟨_, _, frame⟩ := execute_at_most_once .inMemory asciiConfig emptyWorld_init r'
    "rem_0000000000000000"
  obtain ⟨store, sim⟩ := frame 4 {} v' _ _ st call4 rfl rfl
  exact ⟨w, u, u', ls1, env, v, v', r, by rw [only]; rfl, r1, su, claims, r', st, store, sim⟩

end SentinelOps.Remediation
