import SentinelOps.Remediation.AtMostOnce

/-!
# At most one live remediation per key

The duplicate rule reads the history of a key, and the record is created in a later step, so two
proposals of one key can both read an inactive history and both be created: `two_live_restarts` is
such a run. `one_active_iff` states exactly which runs keep the property: those in which, whenever a
pending record is created, the history of its key is still inactive.
-/

namespace SentinelOps.Remediation

/-- At most one remediation of a key is active. -/
def OneActive (b : Backend) (w : World b.Store) : Prop :=
  ∀ rid rid' rec rec', b.lookup w.store rid = .ok (some rec) →
    b.lookup w.store rid' = .ok (some rec') → rec.proposal.key = rec'.proposal.key →
    rec.status ∈ activeStatuses → rec'.status ∈ activeStatuses → rid = rid'

/-- The step is the `create` of a `propose` call, and it leaves the record it was given. -/
structure Creates (b : Backend) (u : World b.Store) (l : Label) (u' : World b.Store)
    (rec : RemediationRecord) : Prop where
  call : ∃ i env r events, l = .advance i env ∧
    u.calls[i]? = some { request := .propose r, phase := .creating rec events }
  absent : b.lookup u.store rec.remediationId = .ok none
  created : b.lookup u'.store rec.remediationId = .ok (some rec)

/-- When the step creates a pending record, no remediation of its key is active. -/
def StillFree (b : Backend) (u : World b.Store) (l : Label) (u' : World b.Store) : Prop :=
  ∀ rec, Creates b u l u' rec → rec.status = .pendingApproval →
    ∃ history, b.repository.historySnapshot u.store rec.proposal.key = .ok history ∧
      history.activeExists = false

variable {cfg : ServiceConfig}

open InMemoryStore (repository)

/-- A record that was not there appears only by the `create` of a `propose` call. -/
lemma stepCall_absent {env} {w : World InMemoryStore} {req ph} {out : StepResult InMemoryStore}
    {rid rec} (e : stepCall cfg repository env w req ph = some out) (absent : w.store.get rid = none)
    (there : out.store.get rid = some rec) :
    ∃ r events, req = .propose r ∧ ph = .creating rec events ∧ rec.remediationId = rid := by
  rcases stepCall_store e with same | ⟨a, written⟩
  · rw [same, absent] at there
    cases there
  · rcases written.get with ⟨r, events, rfl, rfl, _, get⟩ | ⟨old, found, get, _⟩
    -- the `create` stored it, or stored another one
    · rw [get] at there
      split at there
      · rename_i created
        cases there
        exact ⟨r, events, rfl, rfl, created.symm⟩
      · cases absent.symm.trans there
    -- an update of a stored record creates none
    · rw [get] at there
      split at there
      · rename_i named
        rw [named, found] at absent
        cases absent
      · cases absent.symm.trans there

/-- A status that is not active and is stored is terminal. -/
lemma LeadsTo.active {s t} (h : LeadsTo s t) (ht : t ∈ activeStatuses) : s ∈ activeStatuses := by
  by_contra hs
  have terminal : s.isTerminal = true := by
    revert hs
    cases s <;> decide
  rw [h.of_terminal terminal] at ht
  exact hs ht

/-- Where an active record of the next world comes from: an active one of the same key, or the
`create` of a pending one. -/
lemma active_source {w w' : World InMemoryStore} {l rid rec} (inv : Inv cfg w)
    (e : Remediation.step cfg repository w l = some w') (found : w'.store.get rid = some rec)
    (active : rec.status ∈ activeStatuses) :
    (∃ old, w.store.get rid = some old ∧ old.proposal.key = rec.proposal.key ∧
      old.status ∈ activeStatuses) ∨
    (w.store.get rid = none ∧ rec.remediationId = rid ∧ rec.status = .pendingApproval ∧
      ∃ i env r events, l = .advance i env ∧
        w.calls[i]? = some { request := .propose r, phase := .creating rec events }) := by
  cases before : w.store.get rid with
  | some old =>
    obtain ⟨rec', found', ev⟩ := inv.step_evolves e before
    cases found.symm.trans found'
    refine .inl ⟨old, rfl, ?_, ev.status.active active⟩
    rw [ev.proposal]
    rfl
  | none =>
    rcases step_cases e with ⟨r, rfl, rfl⟩ | ⟨i, env, c, out, rfl, hc, ho, rfl⟩
    · cases before.symm.trans found
    · obtain ⟨r, events, hr, hp, own⟩ := stepCall_absent ho before found
      have same : c = { request := .propose r, phase := .creating rec events } := by
        cases c
        simp only at hr hp
        rw [hr, hp]
      have ok := inv.calls i c hc
      rw [same] at ok hc
      have fresh : FreshRecord r rec := ok
      refine .inr ⟨rfl, own, ?_, i, env, r, events, rfl, hc⟩
      rcases fresh.fresh with st | st
      · exact st
      · rw [st] at active
        simp [activeStatuses] at active

/-- A created record disturbs no other. -/
lemma Creates.others {b : Backend} {u u' : World b.Store} {l rec v v' k} (h : Creates b u l u' rec)
    (abs : b.Abstracts u v) (inv : Inv cfg v) (hk : Matched l k)
    (e : Remediation.step cfg repository v k = some v') {rid old}
    (found : v.store.get rid = some old) :
    rid ≠ rec.remediationId ∧ v'.store.get rid = some old := by
  have absent : v.store.get rec.remediationId = none :=
    Except.ok.inj ((abs.lookup _).symm.trans h.absent)
  have ne : rid ≠ rec.remediationId := by
    intro e
    rw [e, absent] at found
    cases found
  refine ⟨ne, ?_⟩
  obtain ⟨i, env, r, events, hl, hc⟩ := h.call
  obtain ⟨env', hk'⟩ := hk.advanced hl
  rw [abs.calls] at hc
  rcases step_cases e with ⟨_, hk'', _⟩ | ⟨j, env'', c, out, hk'', hc', ho, rfl⟩
  · rw [hk'] at hk''
    cases hk''
  · rw [hk'] at hk''
    cases hk''
    cases hc.symm.trans hc'
    have ok := inv.calls i _ hc
    have own : rec.remediationId = newRemediationId r.token := FreshRecord.own ok
    by_contra changed
    have moved := ((stepCall_ok inv.store ok ho).frame rid (by rwa [found])).1
    exact ne (moved.trans own.symm)

/-- A step from a world with one active remediation per key keeps that exactly when it creates
nothing beside an active remediation. -/
lemma oneActive_step {b : Backend} {u u' : World b.Store} {l}
    (reach : (b.service cfg).Reachable u) (e : (b.service cfg).step u l = some u')
    (one : OneActive b u) : OneActive b u' ↔ StillFree b u l u' := by
  obtain ⟨v, rel, inv, _⟩ := Backend.related_of_reachable reach
  obtain ⟨k, v', hk, e', rel'⟩ := rel.step inv e
  have abs := rel.abstracts inv
  have abs' := rel'.abstracts (inv.step e')
  have get : ∀ {rid rec}, b.lookup u.store rid = .ok (some rec) ↔ v.store.get rid = some rec := by
    intro rid rec
    rw [abs.lookup]
    exact ⟨Except.ok.inj, congrArg _⟩
  have get' : ∀ {rid rec}, b.lookup u'.store rid = .ok (some rec) ↔
      v'.store.get rid = some rec := by
    intro rid rec
    rw [abs'.lookup]
    exact ⟨Except.ok.inj, congrArg _⟩
  constructor
  · intro one' rec created pending
    refine ⟨v.store.historySnapshot rec.proposal.key, congrFun abs.history _, ?_⟩
    by_contra busy
    rw [Bool.not_eq_false, InMemoryStore.historySnapshot_active] at busy
    obtain ⟨rid, old, found, key, active⟩ := busy
    obtain ⟨ne, still⟩ := created.others abs inv hk e' found
    refine ne (one' rid _ old rec (get'.mpr still) created.created key active ?_)
    rw [pending]
    decide
  · intro free
    -- a new active record beside an old one would have been created next to an active one
    have beside : ∀ rid rid' rec rec', v'.store.get rid' = some rec' →
        v.store.get rid' = none → rec'.remediationId = rid' → rec'.status = .pendingApproval →
        (∃ i env r events, k = .advance i env ∧
          v.calls[i]? = some { request := .propose r, phase := .creating rec' events }) →
        v.store.get rid = some rec → rec.proposal.key = rec'.proposal.key →
        rec.status ∈ activeStatuses → False := by
      intro rid rid' rec rec' found' absent own pending call found key active
      obtain ⟨i, env', r, events, hki, hc⟩ := call
      obtain ⟨env, hl⟩ := hk.advance hki
      have created : Creates b u l u' rec' := by
        refine ⟨⟨i, env, r, events, hl, by rw [abs.calls]; exact hc⟩, ?_, ?_⟩
        · rw [abs.lookup, own, absent]
        · rw [own]
          exact get'.mpr found'
      obtain ⟨history, hh, inactive⟩ := free rec' created pending
      have same : history = v.store.historySnapshot rec'.proposal.key :=
        Except.ok.inj (hh.symm.trans (congrFun abs.history _))
      rw [same] at inactive
      have busy := InMemoryStore.historySnapshot_active.mpr ⟨rid, rec, found, key, active⟩
      rw [inactive] at busy
      cases busy
    intro rid rid' rec rec' found found' key active active'
    have f := get'.mp found
    have f' := get'.mp found'
    rcases active_source inv e' f active with
      ⟨old, fo, ko, ao⟩ | ⟨none1, own1, pend1, i, env1, r1, events1, hk1, hc1⟩
    · rcases active_source inv e' f' active' with
        ⟨old', fo', ko', ao'⟩ | ⟨none2, own2, pend2, call2⟩
      · exact one rid rid' old old' (get.mpr fo) (get.mpr fo') (ko.trans (key.trans ko'.symm)) ao ao'
      · exact absurd (beside rid rid' old rec' f' none2 own2 pend2 call2 fo (ko.trans key) ao) id
    · rcases active_source inv e' f' active' with
        ⟨old', fo', ko', ao'⟩ | ⟨none2, own2, pend2, j, env2, r2, events2, hk2, hc2⟩
      · exact absurd (beside rid' rid old' rec f none1 own1 pend1
          ⟨i, env1, r1, events1, hk1, hc1⟩ fo' (ko'.trans key.symm) ao') id
      · rw [hk1] at hk2
        cases hk2
        cases hc1.symm.trans hc2
        exact own1.symm.trans own2

/-- In a world without records, no key has two. -/
lemma oneActive_init {b : Backend} {w : World b.Store} (h : (b.service cfg).init w) :
    OneActive b w := by
  intro rid rid' rec rec' found
  have store : w.store = b.repository.empty := h.1
  rw [store] at found
  cases b with
  | inMemory => cases found
  | sql => cases found

/-- Over every run, at most one remediation of a key is active throughout exactly when every pending
record is created while the history of its key is still inactive. -/
theorem one_active_iff (b : Backend) (cfg : ServiceConfig) {w0 w : World b.Store} {ls : List Label}
    (init : (b.service cfg).init w0) (run : (b.service cfg).Run w0 ls w) :
    (b.service cfg).Always (OneActive b) w0 ls ↔ (b.service cfg).EachStep (StillFree b) w0 ls := by
  apply run.always_iff (I := (b.service cfg).Reachable)
  · intro s l s' reach st
    exact reach.step st
  · intro s l s' reach one st
    exact oneActive_step reach st one
  · exact .init init
  · exact oneActive_init init

/-- Two proposals of one key that are interleaved: both read the history before either is created. -/
def interleavedProposals : List Label :=
  [.call (proposeRestart "inc_000000000000000a" 0 0), .call (proposeRestart "inc_000000000000000a" 1 0),
    .advance 0 {}, .advance 1 {}, .advance 0 {}, .advance 1 {}]

/-- Two ids name active remediations of one key. -/
def bothActive (b : Backend) (w : World b.Store) (rid rid' : String) : Bool :=
  match b.lookup w.store rid, b.lookup w.store rid' with
  | .ok (some rec), .ok (some rec') =>
    decide (rec.proposal.key = rec'.proposal.key ∧ rec.status ∈ activeStatuses ∧
      rec'.status ∈ activeStatuses)
  | _, _ => false

/-- Two active remediations of one key are one too many. -/
lemma not_oneActive {b : Backend} {w : World b.Store} {rid rid'} (ne : rid ≠ rid')
    (h : bothActive b w rid rid' = true) : ¬ OneActive b w := by
  intro one
  unfold bothActive at h
  split at h
  · rename_i rec rec' found found'
    obtain ⟨key, active, active'⟩ := of_decide_eq_true h
    exact ne (one rid rid' rec rec' found found' key active active')
  · cases h

set_option maxRecDepth 10000 in
/-- Both interleaved proposals end up active, over either repository. -/
lemma interleavedProposals_active :
    ((Backend.inMemory.service asciiConfig).exec (emptyWorld .inMemory) interleavedProposals).any
      (bothActive .inMemory · "rem_0000000000000000" "rem_0000000000000001") = true ∧
    ((Backend.sql.service asciiConfig).exec (emptyWorld .sql) interleavedProposals).any
      (bothActive .sql · "rem_0000000000000000" "rem_0000000000000001") = true := by
  decide +kernel

/-- Over either repository, two interleaved proposals leave two live remediations of one key. -/
theorem two_live_restarts :
    (∃ w, (Backend.inMemory.service asciiConfig).Reachable w ∧ ¬ OneActive .inMemory w) ∧
    ∃ w, (Backend.sql.service asciiConfig).Reachable w ∧ ¬ OneActive .sql w := by
  obtain ⟨mem, sql⟩ := interleavedProposals_active
  constructor
  · obtain ⟨w, run, both⟩ := (Option.any_eq_true _ _).mp mem
    exact ⟨w, (Machine.Reachable.init emptyWorld_init).run (Machine.run_iff_exec.mpr run),
      not_oneActive (by decide) both⟩
  · obtain ⟨w, run, both⟩ := (Option.any_eq_true _ _).mp sql
    exact ⟨w, (Machine.Reachable.init emptyWorld_init).run (Machine.run_iff_exec.mpr run),
      not_oneActive (by decide) both⟩

/-- In the interleaved run one of the records is created beside an active remediation. -/
theorem one_active_iff_interleaved :
    ∃ w, (Backend.inMemory.service asciiConfig).Run (emptyWorld .inMemory) interleavedProposals w ∧
      ¬ (Backend.inMemory.service asciiConfig).EachStep (StillFree .inMemory)
        (emptyWorld .inMemory) interleavedProposals := by
  obtain ⟨w, run, both⟩ := (Option.any_eq_true _ _).mp interleavedProposals_active.1
  have r := Machine.run_iff_exec.mpr run
  refine ⟨w, r, ?_⟩
  rw [← one_active_iff .inMemory asciiConfig emptyWorld_init r]
  intro always
  exact not_oneActive (by decide) both (always _ [] w (List.append_nil _).symm r)

end SentinelOps.Remediation
