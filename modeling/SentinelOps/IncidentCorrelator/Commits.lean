import SentinelOps.IncidentCorrelator.Attribution

/-!
# Commits of the in-memory unit of work

A unit of work stages its writes against the store it read and applies them later, one after the
other, to a store that other commits may have changed. Only an insert looks for a conflict, and a
write that is refused leaves those before it applied. `commits_all_or_nothing` says what a commit has
to be spared to change everything or nothing and to keep apart what the database's indexes would
keep apart.
-/

namespace SentinelOps.IncidentCorrelator

namespace Store

/-- A write cannot be applied: an insert finds an active incident of its key, a write to a row does
not find the row. -/
def Refuses (m : Store) : Write → Prop
  | .insertIncident i => m.incidents.activeOf i.correlationKey ≠ []
  | .updateIncident i => m.incidents.get? i.id = none
  | .addEvidence incidentId _ => m.incidents.get? incidentId = none
  | .addTransition incidentId _ => m.incidents.get? incidentId = none
  | .linkIncident _ => False

/-- The store that some writes lead to, none of which was refused. -/
inductive After : Store → List Write → Store → Prop where
  | nil {m} :
    After m [] m
  | cons {m m' m'' w ws} :
    applyWrite m w = .ok m' →
    After m' ws m'' →
    After m (w :: ws) m''

/-- A write is refused once an earlier one has changed the store. -/
def Torn (m : Store) (ws : List Write) : Prop :=
  ∃ before w after m', ws = before ++ w :: after ∧ After m before m' ∧ m'.Refuses w ∧ m' ≠ m

/-- A write keeps apart what the indexes of a database would keep apart: it makes no incident active
next to another one of its key, and adds no evidence of an event that another incident holds. -/
def KeepsApart (m : Store) : Write → Prop
  | .updateIncident i => i.isActive = true → ∀ id s, m.incidents.get? id = some s → id ≠ i.id →
      s.incident.correlationKey = i.correlationKey → s.incident.isActive = false
  | .addEvidence incidentId e => ∀ id s e', m.incidents.get? id = some s → id ≠ incidentId →
      e' ∈ s.evidence → e'.eventId ≠ e.eventId
  | _ => True

/-- A commit to which the store has no objection: it is not torn, and each write that it applies
keeps incidents apart. -/
structure Orderly (m : Store) (ws : List Write) : Prop where
  whole : ¬ m.Torn ws
  apart : ∀ before w after m', ws = before ++ w :: after → After m before m' → ¬ m'.Refuses w →
    m'.KeepsApart w

end Store

/-- No two incidents hold evidence of one event, and no two of one key are active. -/
structure Exclusive (d : Incidents) : Prop where
  once : ∀ id id' s s' e e', d.get? id = some s → d.get? id' = some s' → e ∈ s.evidence →
    e' ∈ s'.evidence → e.eventId = e'.eventId → id = id'
  oneActive : ∀ id id' s s', d.get? id = some s → d.get? id' = some s' →
    s.incident.correlationKey = s'.incident.correlationKey → s.incident.isActive = true →
    s'.incident.isActive = true → id = id'

/-- The store and the units of work that have staged their writes. -/
structure Staging where
  store : Store := {}
  units : List (List Write) := []

/-- A unit of work stages some writes, or those for an anomaly, or a staged one commits. -/
inductive StagingLabel where
  | stage (ws : List Write)
  | process (signal : AnomalySignal) (env : AttemptEnv)
  | commit (k : Nat)

/-- One step. A body that raises stages nothing. -/
def Staging.step (cfg : ProcessorConfig) (w : Staging) : StagingLabel → Option Staging
  | .stage ws => some { w with units := w.units ++ [ws] }
  | .process signal env =>
    match unitOfWork cfg signal env w.store with
    | .ok (ws, _) => some { w with units := w.units ++ [ws] }
    | .error _ => some w
  | .commit k =>
    match w.units[k]? with
    | some ws => some { store := (w.store.commit ws).1, units := w.units.eraseIdx k }
    | none => none

/-- The in-memory repository with any number of units of work. -/
def staging (cfg : ProcessorConfig) : Machine Staging StagingLabel where
  init w := w.store = {} ∧ w.units = []
  step := Staging.step cfg

/-- A commit that raises leaves the store as it was. -/
def AllOrNothing (m : Store) (ws : List Write) : Prop :=
  ∀ e, (m.commit ws).2 = .error e → (m.commit ws).1 = m

variable {cfg : ProcessorConfig} {m m' : Store} {w : Write} {ws : List Write}

/-- A write is refused exactly when its operation raises. -/
lemma refuses_iff : m.Refuses w ↔ ∃ e, m.applyWrite w = .error e := by
  have missing {id} {k : StoredIncident → Store} : m.incidents.get? id = none ↔
      ∃ e, (m.stored id >>= fun s => .ok (k s)) = (.error e : Except Error Store) := by
    unfold Store.stored
    cases m.incidents.get? id with
    | none => exact iff_of_true rfl ⟨_, rfl⟩
    | some s => simp [bind, Except.bind]
  cases w with
  | insertIncident i =>
    unfold Store.Refuses Store.applyWrite
    by_cases free : m.incidents.activeOf i.correlationKey = []
    · simp [free, ensure, bind, Except.bind, pure, Except.pure]
    · simp [free, ensure, bind, Except.bind]
  | updateIncident i => exact missing
  | addEvidence incidentId e => exact missing
  | addTransition incidentId t => exact missing
  | linkIncident r =>
    refine iff_of_false id ?_
    rintro ⟨e, raised⟩
    rw [Store.applyWrite] at raised
    split at raised <;> cases raised

/-- A commit applies all of its writes, or those before the first one that is refused. -/
lemma commit_cases (m : Store) (ws : List Write) :
    (∃ m', m.After ws m' ∧ m.commit ws = (m', .ok ())) ∨
    ∃ before w after m' e, ws = before ++ w :: after ∧ m.After before m' ∧ m'.Refuses w ∧
      m.commit ws = (m', .error e) := by
  induction ws generalizing m with
  | nil => exact .inl ⟨m, .nil, rfl⟩
  | cons w ws ih =>
    rw [Store.commit]
    cases applied : m.applyWrite w with
    | error e => exact .inr ⟨[], w, ws, m, e, rfl, .nil, refuses_iff.mpr ⟨e, applied⟩, rfl⟩
    | ok m1 =>
      rcases ih m1 with ⟨m', after, done⟩ | ⟨before, w', after', m', e, rfl, applied', refused, done⟩
      · exact .inl ⟨m', .cons applied after, done⟩
      · exact .inr ⟨w :: before, w', after', m', e, rfl, .cons applied applied', refused, done⟩

/-- A commit stops at a write that is refused. -/
lemma commit_refused {before} (after : List Write) (applied : m.After before m') (refused : m'.Refuses w) :
    ∃ e, m.commit (before ++ w :: after) = (m', .error e) := by
  induction applied with
  | nil =>
    obtain ⟨e, raised⟩ := refuses_iff.mp refused
    refine ⟨e, ?_⟩
    rw [List.nil_append, Store.commit, raised]
  | cons first _ ih =>
    obtain ⟨e, done⟩ := ih refused
    refine ⟨e, ?_⟩
    rw [List.cons_append, Store.commit, first]
    exact done

/-- A commit changes everything or nothing exactly when it is not torn. -/
lemma allOrNothing_iff : AllOrNothing m ws ↔ ¬ m.Torn ws := by
  constructor
  · rintro whole ⟨before, w, after, m', rfl, applied, refused, changed⟩
    obtain ⟨e, done⟩ := commit_refused after applied refused
    have same := whole e (by rw [done])
    rw [done] at same
    exact changed same
  · intro whole e raised
    rcases commit_cases m ws with ⟨m', _, done⟩ | ⟨before, w, after, m', e', rfl, applied, refused, done⟩
    · rw [done] at raised
      cases raised
    · rw [done]
      by_contra changed
      exact whole ⟨before, w, after, m', rfl, applied, refused, changed⟩

/-- An incident stored under its id keeps incidents apart when it is active alone and its evidence
is its own. -/
lemma Exclusive.put {d : Incidents} (h : Exclusive d) {id s}
    (alone : s.incident.isActive = true → ∀ id' x, d.get? id' = some x → id' ≠ id →
      x.incident.correlationKey = s.incident.correlationKey → x.incident.isActive = false)
    (own : ∀ e ∈ s.evidence, ∀ id' x e', d.get? id' = some x → id' ≠ id → e' ∈ x.evidence →
      e'.eventId ≠ e.eventId) : Exclusive (d.set id s) := by
  constructor
  · intro id1 id2 x y e e' hx hy he he' same
    rcases get?_set_cases hx with ⟨rfl, rfl⟩ | ⟨ne, old⟩
    · rcases get?_set_cases hy with ⟨rfl, rfl⟩ | ⟨ne, hy⟩
      · rfl
      · exact absurd same.symm (own e he id2 y e' hy ne he')
    · rcases get?_set_cases hy with ⟨rfl, rfl⟩ | ⟨_, hy⟩
      · exact absurd same (own e' he' id1 x e old ne he)
      · exact h.once id1 id2 x y e e' old hy he he' same
  · intro id1 id2 x y hx hy key ax ay
    rcases get?_set_cases hx with ⟨rfl, rfl⟩ | ⟨ne, old⟩
    · rcases get?_set_cases hy with ⟨rfl, rfl⟩ | ⟨ne, hy⟩
      · rfl
      · rw [alone ax id2 y hy ne key.symm] at ay
        cases ay
    · rcases get?_set_cases hy with ⟨rfl, rfl⟩ | ⟨_, hy⟩
      · rw [alone ay id1 x old ne key] at ax
        cases ax
      · exact h.oneActive id1 id2 x y old hy key ax ay

/-- A change of an incident that keeps its evidence, its key and its activity. -/
lemma Exclusive.change {d : Incidents} (h : Exclusive d) {id s s'} (found : d.get? id = some s)
    (evidence : s'.evidence ⊆ s.evidence) (incident : s'.incident = s.incident) :
    Exclusive (d.set id s') := by
  refine h.put ?_ ?_
  · intro active id' x there ne key
    by_contra busy
    rw [Bool.not_eq_false] at busy
    rw [incident] at active key
    exact ne (h.oneActive id' id x s there found key busy active)
  · intro e he id' x e' there ne he' same
    exact ne (h.once id' id x s e' e there found he' (evidence he) same)

/-- A write that keeps incidents apart. -/
lemma Exclusive.write (h : Exclusive m.incidents) (applied : Applies m w m')
    (apart : m.KeepsApart w) : Exclusive m'.incidents := by
  cases applied with
  | inserted free =>
    refine h.put ?_ ?_
    · intro _ id x there _ key
      exact free id x there key
    · rintro e ⟨⟩
  | @updated i s there =>
    refine h.put apart ?_
    intro e he id x e' there' ne he' same
    exact ne (h.once id i.id x s e' e there' there he' he same)
  | @added incidentId e s there =>
    refine h.put ?_ ?_
    · intro active id x there' ne key
      by_contra busy
      rw [Bool.not_eq_false] at busy
      exact ne (h.oneActive id incidentId x s there' there key busy active)
    · intro e1 he id x e' there' ne he' same
      rcases List.mem_append.mp he with old | new
      · exact ne (h.once id incidentId x s e' e1 there' there he' old same)
      · rw [List.mem_singleton.mp new] at same
        exact apart id x e' there' ne he' same
  | recorded there => exact h.change there (List.Subset.refl _) rfl
  | linked => exact h

/-- Writes that keep incidents apart, each in its turn. -/
lemma Exclusive.after (h : Exclusive m.incidents) (applied : m.After ws m')
    (apart : ∀ before w after m', ws = before ++ w :: after → m.After before m' → ¬ m'.Refuses w →
      m'.KeepsApart w) : Exclusive m'.incidents := by
  induction applied with
  | nil => exact h
  | @cons m m1 m2 w ws first rest ih =>
    have accepted : ¬ m.Refuses w := by
      intro refused
      obtain ⟨e, raised⟩ := refuses_iff.mp refused
      rw [first] at raised
      cases raised
    refine ih (h.write (applyWrite_applies first) (apart [] w ws m rfl .nil accepted)) ?_
    rintro before w' after m' rfl later
    exact apart (w :: before) w' after m' rfl (.cons first later)

/-- A commit to which the store has no objection keeps incidents apart. -/
lemma Exclusive.commit (h : Exclusive m.incidents) (orderly : m.Orderly ws) :
    Exclusive (m.commit ws).1.incidents := by
  rcases commit_cases m ws with ⟨m', applied, done⟩ |
    ⟨before, w, after, m', e, rfl, applied, refused, done⟩
  · rw [done]
    exact h.after applied orderly.apart
  · rw [done]
    refine h.after applied ?_
    rintro before' w' after' m1 rfl applied'
    exact orderly.apart before' w' (after' ++ w :: after) m1 (by simp) applied'

/-- A write adds no evidence but that of its own event. -/
lemma Applies.evident (h : Applies m w m') {id ev} (there : Evident m'.incidents id ev) :
    (∃ id, Evident m.incidents id ev) ∨ ∃ incidentId e, w = .addEvidence incidentId e ∧
      e.eventId = ev := by
  cases h with
  | inserted free =>
    rcases evident_set.mp there with ⟨rfl, new⟩ | ⟨_, old⟩
    · cases new
    · exact .inl ⟨id, old⟩
  | updated found => exact .inl ⟨id, (evident_set_same found (by rfl)).mp there⟩
  | @added incidentId e s found =>
    rcases evident_set.mp there with ⟨rfl, new⟩ | ⟨_, old⟩
    · rw [List.map_append, List.mem_append] at new
      rcases new with old | new
      · exact .inl ⟨id, s, found, old⟩
      · exact .inr ⟨id, e, rfl, (List.mem_singleton.mp new).symm⟩
    · exact .inl ⟨id, old⟩
  | recorded found => exact .inl ⟨id, (evident_set_same found (by rfl)).mp there⟩
  | linked => exact .inl ⟨id, there⟩

/-- Writes add no evidence but that of their own events. -/
lemma Store.After.evident (h : m.After ws m') {id ev} (there : Evident m'.incidents id ev) :
    (∃ id, Evident m.incidents id ev) ∨ ∃ incidentId e, .addEvidence incidentId e ∈ ws ∧
      e.eventId = ev := by
  induction h with
  | nil => exact .inl ⟨id, there⟩
  | cons first rest ih =>
    obtain ⟨_, before⟩ | ⟨incidentId, e, added, same⟩ := ih there
    · obtain old | ⟨incidentId, e, rfl, same⟩ := (applyWrite_applies first).evident before
      · exact .inl old
      · exact .inr ⟨incidentId, e, List.mem_cons_self, same⟩
    · exact .inr ⟨incidentId, e, List.mem_cons_of_mem _ added, same⟩

/-- A write adds evidence. -/
def Write.addsEvidence : Write → Bool
  | .addEvidence _ _ => true
  | _ => false

/-- What a unit of work stages to one store: an update comes first and leaves its incident the only
active one, and evidence is added once, of the event. -/
lemma unitOfWork_writes {signal env out} (h : KeysOk m.incidents)
    (staged : unitOfWork cfg signal env m = .ok (ws, out)) :
    (∀ i, .updateIncident i ∈ ws.tail → False) ∧
    (∀ i, .updateIncident i ∈ ws → m.KeepsApart (.updateIncident i)) ∧
    ws.countP Write.addsEvidence ≤ 1 ∧
    ∀ incidentId e, .addEvidence incidentId e ∈ ws → e.eventId = signal.eventId ∧
      signal.eventId ∉ m.evidenceIds := by
  have countLinks (links : List IncidentRelation) :
      (links.map Write.linkIncident).countP Write.addsEvidence = 0 := by
    rw [List.countP_eq_zero]
    intro w member
    obtain ⟨r, _, rfl⟩ := List.mem_map.mp member
    exact nofun
  rcases unitOfWork_ok staged with ⟨_, rfl, _⟩ | ⟨unseen, p, links, planned, rfl, _, _⟩
  · simp
  · rcases plan_cases planned with ⟨_, reason, hw, _⟩ | ⟨a, reason, some', hw, _, _⟩ |
      ⟨a, reason, some', hw, _⟩
    · rw [hw]
      refine ⟨?_, ?_, ?_, ?_⟩
      · simp [openWrites]
      · simp [openWrites]
      · simp [openWrites, List.countP_cons, countLinks, Write.addsEvidence]
      · intro incidentId e member
        simp [openWrites] at member
        rw [member.2]
        exact ⟨rfl, unseen⟩
    · obtain ⟨s, found, rfl, key, active⟩ := lockActiveIncident_some h.keyed some'
      rw [hw]
      refine ⟨?_, ?_, ?_, ?_⟩
      · simp
      · intro i member
        simp at member
        subst member
        intro _ id x there ne same
        exact h.only found active there ne same
      · simp [List.countP_cons, countLinks, Write.addsEvidence]
      · intro incidentId e member
        simp at member
        rw [member.2]
        exact ⟨rfl, unseen⟩
    · rw [hw]
      refine ⟨?_, ?_, ?_, ?_⟩
      · simp [openWrites]
      · intro i member
        simp [openWrites] at member
        subst member
        intro active
        cases active
      · simp [openWrites, List.countP_cons, countLinks, Write.addsEvidence]
      · intro incidentId e member
        simp [openWrites] at member
        rw [member.2]
        exact ⟨rfl, unseen⟩

/-- A unit of work that commits to the store it has read is orderly. -/
theorem unitOfWork_orderly {signal env out} (h : KnownOk m)
    (staged : unitOfWork cfg signal env m = .ok (ws, out)) : m.Orderly ws := by
  obtain ⟨first, update, one, event⟩ := unitOfWork_writes h.keys staged
  constructor
  · rw [← allOrNothing_iff]
    intro e raised
    have once : processOnce cfg signal env m =
        ((m.commit ws).1, (m.commit ws).2.map fun _ => out) := processOnce_of_staged staged
    rcases processOnce_carries h.keys once with ⟨_, _, _, same⟩ | ⟨_, same, _⟩ | ⟨_, ⟨_, ok⟩, _⟩
    · exact same
    · exact same
    · rw [raised] at ok
      cases ok
  · rintro before w after m' rfl applied accepted
    cases w with
    | updateIncident i =>
      cases before with
      | nil =>
        cases applied
        exact update i (by simp)
      | cons b before => exact (first i (by simp)).elim
    | addEvidence incidentId e =>
      intro id s e' there _ he' same
      obtain ⟨own, unseen⟩ := event incidentId e (by simp)
      have member : e'.eventId ∈ s.evidence.map (·.eventId) := List.mem_map_of_mem he'
      obtain ⟨id0, old⟩ | ⟨_, e1, added, _⟩ := applied.evident ⟨s, there, member⟩
      · rw [same, own] at old
        exact unseen (h.known id0 _ old)
      · have twice : 1 ≤ before.countP Write.addsEvidence :=
          List.countP_pos_iff.mpr ⟨_, added, rfl⟩
        rw [List.countP_append, List.countP_cons_of_pos rfl] at one
        omega
    | insertIncident i => trivial
    | addTransition incidentId t => trivial
    | linkIncident r => trivial

/-- An anomaly opens an incident. Two later ones both decide to supersede it before either of them
commits. -/
def supersedeRace : List StagingLabel :=
  [.process (anomalyOf "orders-service" "evt-1" 0) { token := "1" }, .commit 0,
    .process (anomalyOf "orders-service" "evt-2" 1800) { token := "2" },
    .process (anomalyOf "orders-service" "evt-3" 1800) { token := "3" }, .commit 0]

/-- An anomaly opens an incident, and another one decides to join it. Before that is committed, the
incident is superseded and the second anomaly is delivered once more. -/
def staleAppend : List StagingLabel :=
  [.process (anomalyOf "orders-service" "evt-1" 0) { token := "1" }, .commit 0,
    .process (anomalyOf "orders-service" "evt-2" 60) { token := "2" },
    .process (anomalyOf "orders-service" "evt-3" 1800) { token := "3" }, .commit 1,
    .process (anomalyOf "orders-service" "evt-2" 60) { token := "4" }, .commit 1, .commit 0]

/-- The lengths of the histories of a store. -/
def Store.historyLengths (m : Store) : List Nat :=
  m.incidents.values.map fun s => s.history.length

/-- The second of the racing units raises, and has resolved the incident once more. -/
lemma supersedeRace_state : ((staging {}).exec {} supersedeRace).map (fun w =>
      (w.store.historyLengths, w.units.map fun ws =>
        ((w.store.commit ws).2.isOk, (w.store.commit ws).1.historyLengths))) =
    some ([2, 1], [(false, [3, 1])]) := by
  decide +kernel

/-- The stale unit reopens the incident and adds evidence that another one holds. -/
lemma staleAppend_state : ((staging {}).exec {} staleAppend).map (fun w =>
      w.store.incidents.values.map fun s =>
        (s.incident.isActive, s.incident.correlationKey, s.evidence.map (·.eventId))) =
    some [(true, "orders-service:development", ["evt-1", "evt-2"]),
      (true, "orders-service:development", ["evt-3", "evt-2"])] := by
  decide +kernel

end SentinelOps.IncidentCorrelator
