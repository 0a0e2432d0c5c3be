import SentinelOps.IncidentCorrelator.Conservation
import SentinelOps.IncidentCorrelator.Sql

/-!
# What an open transaction relies on

`Held` is what a transaction knows of the committed rows: the row it has locked is there and active,
and what it has inserted collides with nothing. `Progress` relates what it has written to the plan it
follows. `Apart` is the mutual exclusion of two transactions, which the row lock and the unique
indexes give. `Undisturbed` is what the commit of one leaves to another. Together they make
`DatabaseOk`, which every step keeps.
-/

namespace SentinelOps.IncidentCorrelator

/-- The incident a write is about. -/
def Write.target : Write → Option String
  | .insertIncident i => some i.id
  | .updateIncident i => some i.id
  | .addEvidence id _ => some id
  | .addTransition id _ => some id
  | .linkIncident _ => none

/-- What a transaction holds of the committed rows. -/
structure Held (t : Tables) (signal : AnomalySignal) (tx : Transaction) : Prop where
  locked : ∀ id, tx.locked = some id → ∃ s, t.incidents.get? id = some s ∧
    s.incident.correlationKey = signal.key ∧ s.incident.isActive = true
  absent : ∀ i, .insertIncident i ∈ tx.staged → t.incidents.get? i.id = none
  own : ∀ i, .insertIncident i ∈ tx.staged → ∀ id s, t.incidents.get? id = some s →
    s.incident.correlationKey = i.correlationKey → s.incident.isActive = true → tx.locked = some id
  unseen : ∀ id e, .addEvidence id e ∈ tx.staged → Unseen t.incidents e.eventId

/-- The plan a transaction follows was made for the row it has locked, as it still is. -/
def Planned (cfg : ProcessorConfig) (t : Tables) (signal : AnomalySignal) (tx : Transaction)
    (p : Plan) : Prop :=
  ∃ active env, plan cfg signal active env = .ok p ∧ tx.locked = active.map (·.id) ∧
    ∀ a, active = some a → ∃ s, t.incidents.get? a.id = some s ∧ s.incident = a

/-- How far a transaction has come. -/
def Progress (cfg : ProcessorConfig) (t : Tables) (signal : AnomalySignal) (tx : Transaction) :
    Prop :=
  match tx.phase with
  | .begun | .unseen | .locking _ => tx.staged = [] ∧ tx.locked = none
  | .writing rest p => Planned cfg t signal tx p ∧ tx.staged ++ rest = p.writes
  | .linking _ p | .inserting _ _ p =>
    Planned cfg t signal tx p ∧
      ∃ links : List IncidentRelation, tx.staged = p.writes ++ links.map .linkIncident
  | .committing _ =>
    (tx.staged = [] ∧ ∃ id, Evident t.incidents id signal.eventId) ∨
      ∃ p, Planned cfg t signal tx p ∧
        ∃ links : List IncidentRelation, tx.staged = p.writes ++ links.map .linkIncident

/-- Two transactions have nothing in common that a lock or an index keeps apart. -/
structure Apart (tx tx' : Transaction) : Prop where
  locked : ∀ id, tx.locked = some id → tx'.locked ≠ some id
  inserted : ∀ i i', .insertIncident i ∈ tx.staged → .insertIncident i' ∈ tx'.staged →
    i.correlationKey ≠ i'.correlationKey ∧ i.id ≠ i'.id
  added : ∀ id id' e e', .addEvidence id e ∈ tx.staged → .addEvidence id' e' ∈ tx'.staged →
    e.eventId ≠ e'.eventId

/-- A change of the rows leaves a transaction what it holds. -/
structure Undisturbed (t t' : Tables) (tx : Transaction) : Prop where
  locked : ∀ id, tx.locked = some id → t'.incidents.get? id = t.incidents.get? id
  absent : ∀ i, .insertIncident i ∈ tx.staged → t'.incidents.get? i.id = none
  active : ∀ i, .insertIncident i ∈ tx.staged → ∀ id s', t'.incidents.get? id = some s' →
    s'.incident.correlationKey = i.correlationKey → s'.incident.isActive = true →
    ∃ s, t.incidents.get? id = some s ∧ s.incident.correlationKey = i.correlationKey ∧
      s.incident.isActive = true
  unseen : ∀ id e, .addEvidence id e ∈ tx.staged → Unseen t'.incidents e.eventId
  grows : ∀ id ev, Evident t.incidents id ev → Evident t'.incidents id ev

variable {cfg : ProcessorConfig} {signal : AnomalySignal} {t t' : Tables} {tx tx' : Transaction}
  {env : AttemptEnv} {reason : String}

/-- Writes follow one another. -/
lemma applyWrites_append {ws ws'} :
    t.applyWrites (ws ++ ws') = (t.applyWrites ws).applyWrites ws' :=
  List.foldl_append

/-- A change of one incident, as it is looked up. -/
lemma get?_update {id id' f} : (t.update id f).incidents.get? id' =
    if id' = id then (t.incidents.get? id').map f else t.incidents.get? id' := by
  unfold Tables.update
  split
  · rename_i absent
    split
    · rename_i e
      rw [e, absent]
      rfl
    · rfl
  · rename_i s found
    rw [Dict.get?_set]
    split
    · rename_i e
      rw [e, found]
      rfl
    · rfl

/-- A write leaves the rows of other incidents alone. -/
lemma get?_applyWrite_ne {w : Write} {id} (ne : w.target ≠ some id) :
    (t.applyWrite w).incidents.get? id = t.incidents.get? id := by
  have apart : ∀ {id'}, some id' ≠ some id → id ≠ id' := by
    rintro id' ne rfl
    exact ne rfl
  cases w with
  | insertIncident i => exact Dict.get?_set_ne (apart ne)
  | linkIncident r => rfl
  | updateIncident i => exact get?_update.trans (if_neg (apart ne))
  | addEvidence id' e => exact get?_update.trans (if_neg (apart ne))
  | addTransition id' x => exact get?_update.trans (if_neg (apart ne))

/-- Writes leave the rows of other incidents alone. -/
lemma get?_applyWrites_ne {ws : List Write} {id} (ne : ∀ w ∈ ws, w.target ≠ some id) :
    (t.applyWrites ws).incidents.get? id = t.incidents.get? id := by
  induction ws generalizing t with
  | nil => rfl
  | cons w ws ih =>
    have later := @ih (t.applyWrite w) fun w' mem => ne w' (List.mem_cons_of_mem _ mem)
    exact later.trans (get?_applyWrite_ne (ne w List.mem_cons_self))

/-- A change of one incident that keeps its evidence keeps that of every incident. -/
lemma update_grows {id id' s f} (found : t.incidents.get? id = some s)
    (kept : ∀ s, ∀ e ∈ s.evidence, e ∈ (f s).evidence) :
    ∃ s', (t.update id' f).incidents.get? id = some s' ∧ ∀ e ∈ s.evidence, e ∈ s'.evidence := by
  rw [get?_update, found]
  split
  · exact ⟨f s, rfl, kept s⟩
  · exact ⟨s, rfl, fun e he => he⟩

/-- A write keeps the evidence of an incident that it does not insert. -/
lemma applyWrite_grows {w : Write} {id s} (found : t.incidents.get? id = some s)
    (other : ∀ i, w = .insertIncident i → i.id ≠ id) :
    ∃ s', (t.applyWrite w).incidents.get? id = some s' ∧ ∀ e ∈ s.evidence, e ∈ s'.evidence := by
  cases w with
  | insertIncident i =>
    refine ⟨s, ?_, fun e he => he⟩
    exact (Dict.get?_set_ne (other i rfl).symm).trans found
  | linkIncident r => exact ⟨s, found, fun e he => he⟩
  | updateIncident i => exact update_grows found fun s e he => he
  | addEvidence id' e => exact update_grows found fun s e he => List.mem_append_left _ he
  | addTransition id' x => exact update_grows found fun s e he => he

/-- Writes keep the evidence of an incident that they do not insert. -/
lemma applyWrites_grows {ws : List Write} {id s} (found : t.incidents.get? id = some s)
    (other : ∀ i, .insertIncident i ∈ ws → i.id ≠ id) :
    ∃ s', (t.applyWrites ws).incidents.get? id = some s' ∧ ∀ e ∈ s.evidence, e ∈ s'.evidence := by
  induction ws generalizing t s with
  | nil => exact ⟨s, found, fun e he => he⟩
  | cons w ws ih =>
    obtain ⟨s1, found1, kept1⟩ := applyWrite_grows found fun i e =>
      other i (e ▸ List.mem_cons_self)
    obtain ⟨s2, found2, kept2⟩ := ih found1 fun i mem => other i (List.mem_cons_of_mem _ mem)
    exact ⟨s2, found2, fun e he => kept2 e (kept1 e he)⟩

/-- No change of an incident removes one. -/
lemma update_keeps {id id' f} (gone : (t.update id' f).incidents.get? id = none) :
    t.incidents.get? id = none := by
  rw [get?_update] at gone
  split at gone
  · exact Option.map_eq_none_iff.mp gone
  · exact gone

/-- No write removes an incident. -/
lemma applyWrite_keeps {w : Write} {id} (gone : (t.applyWrite w).incidents.get? id = none) :
    t.incidents.get? id = none := by
  cases w with
  | insertIncident i =>
    rw [Tables.applyWrite, Dict.get?_set] at gone
    split at gone
    · cases gone
    · exact gone
  | linkIncident r => exact gone
  | updateIncident i => exact update_keeps gone
  | addEvidence id' e => exact update_keeps gone
  | addTransition id' x => exact update_keeps gone

/-- No writes remove an incident. -/
lemma applyWrites_keeps {ws : List Write} {id} (gone : (t.applyWrites ws).incidents.get? id = none) :
    t.incidents.get? id = none := by
  induction ws generalizing t with
  | nil => exact gone
  | cons w ws ih => exact applyWrite_keeps (ih gone)

/-- Links leave the incidents alone. -/
lemma applyWrites_links {links : List IncidentRelation} :
    (t.applyWrites (links.map .linkIncident)).incidents = t.incidents := by
  induction links generalizing t with
  | nil => rfl
  | cons r links ih => exact @ih (t.applyWrite (.linkIncident r))

/-- The writes that open an incident. -/
lemma applyWrites_open : (t.applyWrites (openWrites cfg.severity signal reason env)).incidents =
    t.incidents.set (newIncidentId env.token) (openedIncident cfg.severity signal reason env) := by
  have id' : (newIncident cfg.severity signal env).id = newIncidentId env.token := rfl
  simp [openWrites, Tables.applyWrites, Tables.applyWrite, Tables.update, openedIncident, id']

/-- The writes that append to an incident. -/
lemma applyWrites_append_evidence {s} (found : t.incidents.get? s.incident.id = some s) :
    (t.applyWrites [.updateIncident (absorb cfg.severity s.incident signal env.absorbedNow),
        .addEvidence s.incident.id (evidenceOf signal reason)]).incidents =
      t.incidents.set s.incident.id (s.absorbed cfg.severity signal reason env) := by
  have id' : (absorb cfg.severity s.incident signal env.absorbedNow).id = s.incident.id := rfl
  simp [Tables.applyWrites, Tables.applyWrite, Tables.update, StoredIncident.absorbed, id', found]

/-- The writes that resolve a stale incident. -/
lemma applyWrites_resolve {s} (found : t.incidents.get? s.incident.id = some s) :
    (t.applyWrites [.updateIncident (autoResolved s.incident env),
        .addTransition s.incident.id (resolvedTransition s.incident reason env)]).incidents =
      t.incidents.set s.incident.id (s.resolved reason env) := by
  have id' : (autoResolved s.incident env).id = s.incident.id := rfl
  simp [Tables.applyWrites, Tables.applyWrite, Tables.update, StoredIncident.resolved, id', found]

/-- What a transaction writes before it inserts an incident is about the row it has locked. -/
lemma plan_insert {active p i ws rest} (h : plan cfg signal active env = .ok p)
    (split' : ws ++ .insertIncident i :: rest = p.writes) :
    ∀ w ∈ ws, w.target = active.map (·.id) := by
  rcases plan_cases h with ⟨rfl, r, hw, _⟩ | ⟨a, r, rfl, hw, _⟩ | ⟨a, r, rfl, hw, _⟩
  · rw [hw] at split'
    rcases ws with _ | ⟨w1, _ | ⟨w2, _ | ⟨w3, ws⟩⟩⟩ <;> simp [openWrites] at split' ⊢
  · rw [hw] at split'
    rcases ws with _ | ⟨w1, _ | ⟨w2, ws⟩⟩ <;> simp at split' ⊢
  · rw [hw] at split'
    rcases ws with _ | ⟨w1, _ | ⟨w2, _ | ⟨w3, _ | ⟨w4, _ | ⟨w5, ws⟩⟩⟩⟩⟩ <;>
      simp [openWrites] at split' ⊢
    obtain ⟨rfl, rfl, -⟩ := split'
    exact ⟨rfl, rfl⟩

/-- What a transaction that has written its plan makes of the incidents. -/
lemma Planned.commits {p} (h : Planned cfg t signal tx p) {links}
    (staged : tx.staged = p.writes ++ List.map .linkIncident links) :
    (∃ id e, .addEvidence id e ∈ tx.staged ∧ e.eventId = signal.eventId) ∧
    ((tx.locked = none ∧ ∃ env reason,
        .insertIncident (newIncident cfg.severity signal env) ∈ tx.staged ∧
        (∀ id x, .addTransition id x ∈ tx.staged → id = newIncidentId env.token) ∧
        (t.applyWrites tx.staged).incidents = t.incidents.set (newIncidentId env.token)
          (openedIncident cfg.severity signal reason env)) ∨
      (∃ id s env reason, tx.locked = some id ∧ t.incidents.get? id = some s ∧
        (∀ id x, .addTransition id x ∉ tx.staged) ∧
        (t.applyWrites tx.staged).incidents =
          t.incidents.set id (s.absorbed cfg.severity signal reason env)) ∨
      ∃ id s env reason, tx.locked = some id ∧ t.incidents.get? id = some s ∧
        .insertIncident (newIncident cfg.severity signal env) ∈ tx.staged ∧
        (∀ id' x, .addTransition id' x ∈ tx.staged → id' = newIncidentId env.token ∨
          (id' = id ∧ x = resolvedTransition s.incident reason env)) ∧
        .addTransition id (resolvedTransition s.incident reason env) ∈ tx.staged ∧
        (t.applyWrites tx.staged).incidents = (t.incidents.set id (s.resolved reason env)).set
          (newIncidentId env.token) (openedIncident cfg.severity signal reason env)) := by
  obtain ⟨active, env, planned, locked, row⟩ := h
  rw [staged, applyWrites_append, applyWrites_links]
  rcases plan_cases planned with ⟨rfl, r, hw, _⟩ | ⟨a, r, rfl, hw, _⟩ | ⟨a, r, rfl, hw, _⟩
  · rw [hw]
    refine ⟨⟨(newIncident cfg.severity signal env).id, evidenceOf signal r, ?_, rfl⟩,
      .inl ⟨locked, env, r, ?_, ?_, applyWrites_open⟩⟩
    · simp [openWrites]
    · simp [openWrites]
    · intro id x mem
      simp only [openWrites, List.mem_append, List.mem_cons, List.mem_map] at mem
      simp at mem
      exact mem.1
  · obtain ⟨s, found, rfl⟩ := row a rfl
    rw [hw]
    refine ⟨⟨s.incident.id, evidenceOf signal r, ?_, rfl⟩,
      .inr (.inl ⟨_, s, env, r, locked, found, ?_, applyWrites_append_evidence found⟩)⟩
    · simp
    · intro id x mem
      simp at mem
  · obtain ⟨s, found, rfl⟩ := row a rfl
    rw [hw]
    refine ⟨⟨(newIncident cfg.severity signal env).id, evidenceOf signal r, ?_, rfl⟩,
      .inr (.inr ⟨_, s, env, r, locked, found, ?_, ?_, ?_, ?_⟩)⟩
    · simp [openWrites]
    · simp [openWrites]
    · intro id x mem
      simp [openWrites] at mem
      rcases mem with ⟨id', x'⟩ | ⟨id', _⟩
      · exact .inr ⟨id', x'⟩
      · exact .inl id'
    · simp
    · rw [applyWrites_append, applyWrites_open, applyWrites_resolve found]

/-- A commit absorbs the anomaly. -/
lemma Planned.absorbs {p} (h : Planned cfg t signal tx p) (held : Held t signal tx) {links}
    (staged : tx.staged = p.writes ++ List.map .linkIncident links) :
    Absorbs cfg.severity signal t.incidents (t.applyWrites tx.staged).incidents ∧
      Unseen t.incidents signal.eventId := by
  obtain ⟨⟨id, e, added, event⟩, how⟩ := h.commits staged
  refine ⟨?_, event ▸ held.unseen id e added⟩
  rcases how with ⟨locked, env, r, inserted, _, result⟩ |
    ⟨id, s, env, r, locked, found, _, result⟩ |
    ⟨id, s, env, r, locked, found, inserted, _, _, result⟩
  · rw [result]
    refine .opened ?_ (held.absent _ inserted)
    intro id' s' found' key
    by_contra busy
    rw [Bool.not_eq_false] at busy
    have own := held.own _ inserted id' s' found' key busy
    rw [locked] at own
    cases own
  · obtain ⟨s', found', key, active⟩ := held.locked id locked
    rw [found] at found'
    cases found'
    rw [result]
    exact .appended found key active
  · obtain ⟨s', found', key, active⟩ := held.locked id locked
    rw [found] at found'
    cases found'
    rw [result]
    exact .superseded found key active (held.absent _ inserted)

namespace Apart

/-- Being apart is symmetric. -/
lemma symm (h : Apart tx tx') : Apart tx' tx where
  locked id own other := h.locked id other own
  inserted i i' own other := ⟨(h.inserted i' i other own).1.symm, (h.inserted i' i other own).2.symm⟩
  added id id' e e' own other := (h.added id' id e' e other own).symm

/-- A commit leaves the transactions that are apart what they hold. -/
lemma undisturbed {signal'} (h : Apart tx tx') {p} (planned : Planned cfg t signal tx p)
    (held : Held t signal tx) (held' : Held t signal' tx') {links}
    (staged : tx.staged = p.writes ++ List.map .linkIncident links) :
    Undisturbed t (t.applyWrites tx.staged) tx' := by
  obtain ⟨⟨id, e, added, event⟩, how⟩ := planned.commits staged
  obtain ⟨target, evident⟩ := (planned.absorbs held staged).1.evident
  have unseen : ∀ id' e', .addEvidence id' e' ∈ tx'.staged →
      Unseen (t.applyWrites tx.staged).incidents e'.eventId := by
    intro id' e' added'
    rw [unseen_iff]
    intro x there
    rcases (evident _ _).mp there with old | ⟨_, same⟩
    · exact unseen_iff.mp (held'.unseen id' e' added') x old
    · exact h.added id id' e e' added added' (event.trans same.symm)
  have grows : ∀ id ev, Evident t.incidents id ev →
      Evident (t.applyWrites tx.staged).incidents id ev := by
    intro id ev there
    exact (evident _ _).mpr (.inl there)
  -- a row that the other transaction relies on is none of the rows this one writes
  have locked : ∀ id', tx'.locked = some id' → ∀ id s, tx.locked = some id →
      (t.incidents.set id s).get? id' = t.incidents.get? id' := by
    intro id' own id s other
    apply Dict.get?_set_ne
    rintro rfl
    exact h.locked id' other own
  have present : ∀ id', tx'.locked = some id' → ∀ i, .insertIncident i ∈ tx.staged → id' ≠ i.id := by
    intro id' own i inserted
    obtain ⟨s, found, _⟩ := held'.locked id' own
    rintro rfl
    rw [held.absent i inserted] at found
    cases found
  rcases how with ⟨none', env, r, inserted, _, result⟩ |
    ⟨id, s, env, r, own, found, _, result⟩ |
    ⟨id, s, env, r, own, found, inserted, _, _, result⟩
  · refine ⟨?_, ?_, ?_, unseen, grows⟩
    · intro id' own
      rw [result]
      exact Dict.get?_set_ne (present id' own _ inserted)
    · intro i inserted'
      have ne : i.id ≠ newIncidentId env.token := (h.inserted _ i inserted inserted').2.symm
      rw [result, Dict.get?_set_ne ne]
      exact held'.absent i inserted'
    · intro i inserted' id' s' found' key active
      rw [result, Dict.get?_set] at found'
      split at found'
      · cases found'
        exact absurd key (h.inserted _ i inserted inserted').1
      · exact ⟨s', found', key, active⟩
  · refine ⟨?_, ?_, ?_, unseen, grows⟩
    · intro id' own'
      rw [result]
      exact locked id' own' id _ own
    · intro i inserted'
      rw [result, Dict.get?_set_ne]
      · exact held'.absent i inserted'
      · rintro rfl
        rw [held'.absent i inserted'] at found
        cases found
    · intro i inserted' id' s' found' key active
      rw [result, Dict.get?_set] at found'
      split at found'
      · rename_i same
        cases found'
        exact ⟨s, same ▸ found, key, active⟩
      · exact ⟨s', found', key, active⟩
  · refine ⟨?_, ?_, ?_, unseen, grows⟩
    · intro id' own'
      have ne : id' ≠ newIncidentId env.token := present id' own' _ inserted
      rw [result, Dict.get?_set_ne ne]
      exact locked id' own' id _ own
    · intro i inserted'
      have ne : i.id ≠ newIncidentId env.token := (h.inserted _ i inserted inserted').2.symm
      rw [result, Dict.get?_set_ne ne, Dict.get?_set_ne]
      · exact held'.absent i inserted'
      · rintro rfl
        rw [held'.absent i inserted'] at found
        cases found
    · intro i inserted' id' s' found' key active
      rw [result, Dict.get?_set] at found'
      split at found'
      · cases found'
        exact absurd key (h.inserted _ i inserted inserted').1
      · rw [Dict.get?_set] at found'
        split at found'
        · cases found'
          cases active
        · exact ⟨s', found', key, active⟩

end Apart

/-- What is held stays held. -/
lemma Held.undisturbed (h : Held t signal tx) (quiet : Undisturbed t t' tx) : Held t' signal tx where
  locked id own := by
    rw [quiet.locked id own]
    exact h.locked id own
  absent := quiet.absent
  own i inserted id s' found key active := by
    obtain ⟨s, before, key', active'⟩ := quiet.active i inserted id s' found key active
    exact h.own i inserted id s before key' active'
  unseen := quiet.unseen

/-- A plan stays one for the locked row. -/
lemma Planned.undisturbed {p} (h : Planned cfg t signal tx p) (quiet : Undisturbed t t' tx) :
    Planned cfg t' signal tx p := by
  obtain ⟨active, env, planned, locked, row⟩ := h
  refine ⟨active, env, planned, locked, ?_⟩
  rintro a rfl
  rw [quiet.locked a.id locked]
  exact row a rfl

/-- Progress is not lost. -/
lemma Progress.undisturbed (h : Progress cfg t signal tx) (quiet : Undisturbed t t' tx) :
    Progress cfg t' signal tx := by
  unfold Progress at h ⊢
  split at h
  · exact h
  · exact h
  · exact h
  · exact ⟨h.1.undisturbed quiet, h.2⟩
  · exact ⟨h.1.undisturbed quiet, h.2⟩
  · exact ⟨h.1.undisturbed quiet, h.2⟩
  · rcases h with ⟨empty, id, there⟩ | ⟨p, planned, links⟩
    · exact .inl ⟨empty, id, quiet.grows id _ there⟩
    · exact .inr ⟨p, planned.undisturbed quiet, links⟩

end SentinelOps.IncidentCorrelator
