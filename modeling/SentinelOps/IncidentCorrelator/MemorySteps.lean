import SentinelOps.IncidentCorrelator.Summary

/-!
# The unit of work over the in-memory store

What a commit of the processor's writes leaves: `processOnce_carries` is the specification of one unit
of work, `process_carries` that of `process`. A unit of work that raises leaves the store alone, one that
returns has absorbed the anomaly, and in a store that is in order none loses the race for a key, so
`process` never needs a second attempt.
-/

namespace SentinelOps.IncidentCorrelator

/-- What holds of the in-memory store: its set of events is that of the evidence. -/
structure MemoryOk (cfg : SeverityConfig) (m : Store) : Prop where
  incidents : IncidentsOk cfg m.incidents
  events : ∀ ev, ev ∈ m.evidenceIds ↔ ¬ Unseen m.incidents ev

variable {cfg : ProcessorConfig} {signal : AnomalySignal} {env : AttemptEnv} {m : Store}

/-- The active incidents of a key. -/
lemma mem_activeOf {d : Incidents} {key s} : s ∈ d.activeOf key ↔
    (∃ id, d.get? id = some s) ∧ s.incident.correlationKey = key ∧ s.incident.isActive = true := by
  unfold Incidents.activeOf
  rw [List.mem_filter, Dict.mem_values_iff, decide_eq_true_iff]

/-- No incident of a key is active exactly when there is none in the list. -/
lemma activeOf_eq_nil {d : Incidents} {key} : d.activeOf key = [] ↔ NoneActive d key := by
  rw [List.eq_nil_iff_forall_not_mem]
  constructor
  · intro none' id s found same
    by_contra busy
    rw [Bool.not_eq_false] at busy
    exact none' s (mem_activeOf.mpr ⟨⟨id, found⟩, same, busy⟩)
  · intro free s hs
    obtain ⟨⟨id, found⟩, same, busy⟩ := mem_activeOf.mp hs
    rw [free id s found same] at busy
    cases busy

/-- What the locking read found. -/
lemma lockActiveIncident_some {key i}
    (keyed : ∀ id s, m.incidents.get? id = some s → s.incident.id = id)
    (found : m.lockActiveIncident key = some i) :
    ∃ s, m.incidents.get? i.id = some s ∧ s.incident = i ∧ i.correlationKey = key ∧
      i.isActive = true := by
  obtain ⟨s, first, rfl⟩ := Option.map_eq_some_iff.mp found
  obtain ⟨⟨id, there⟩, key, active⟩ := mem_activeOf.mp (List.mem_of_head? first)
  refine ⟨s, ?_, rfl, key, active⟩
  rw [keyed id s there]
  exact there

/-- The locking read found nothing. -/
lemma lockActiveIncident_none {key} (found : m.lockActiveIncident key = none) :
    NoneActive m.incidents key := by
  rw [← activeOf_eq_nil]
  exact List.head?_eq_none_iff.mp (Option.map_eq_none_iff.mp found)

/-- What a write does that is not refused. -/
inductive Applies (m : Store) : Write → Store → Prop where
  | inserted {i} :
    NoneActive m.incidents i.correlationKey →
    Applies m (.insertIncident i) (m.put i.id { incident := i })
  | updated {i s} :
    m.incidents.get? i.id = some s →
    Applies m (.updateIncident i) (m.put i.id { s with incident := i })
  | added {incidentId e s} :
    m.incidents.get? incidentId = some s →
    Applies m (.addEvidence incidentId e)
      { m.put incidentId { s with evidence := s.evidence ++ [e] } with
        evidenceIds := insert e.eventId m.evidenceIds }
  | recorded {incidentId t s} :
    m.incidents.get? incidentId = some s →
    Applies m (.addTransition incidentId t)
      (m.put incidentId { s with history := s.history ++ [t] })
  | linked {r relations} :
    Applies m (.linkIncident r) { m with relations }

/-- A row that was found. -/
lemma stored_ok {id s} (h : m.stored id = .ok s) : m.incidents.get? id = some s := by
  unfold Store.stored at h
  split at h
  · rename_i there
    cases h
    exact there
  · cases h

/-- What the operation of a write does when it returns. -/
lemma applyWrite_applies {m' w} (h : m.applyWrite w = .ok m') : Applies m w m' := by
  cases w with
  | insertIncident i =>
    obtain ⟨_, free, done⟩ := Except.bind_eq_ok.mp h
    rw [ensure_eq_ok, activeOf_eq_nil] at free
    cases done
    exact .inserted free
  | updateIncident i =>
    obtain ⟨s, found, done⟩ := Except.bind_eq_ok.mp h
    cases done
    exact .updated (stored_ok found)
  | addEvidence incidentId e =>
    obtain ⟨s, found, done⟩ := Except.bind_eq_ok.mp h
    cases done
    exact .added (stored_ok found)
  | addTransition incidentId t =>
    obtain ⟨s, found, done⟩ := Except.bind_eq_ok.mp h
    cases done
    exact .recorded (stored_ok found)
  | linkIncident r =>
    rw [Store.applyWrite] at h
    split at h <;> cases h
    · exact .linked
    · exact .linked

/-- What every write keeps that the store does not refuse, a commit keeps, also one that breaks
off. -/
lemma commit_keeps {P : Store → Prop} {m : Store} {ws} (h : P m)
    (keeps : ∀ w ∈ ws, ∀ m m', P m → Applies m w m' → P m') : P (m.commit ws).1 := by
  induction ws generalizing m with
  | nil => exact h
  | cons w ws ih =>
    rw [Store.commit]
    split
    · rename_i m' applied
      apply ih
      · exact keeps w List.mem_cons_self m m' h (applyWrite_applies applied)
      · intro w' mem
        exact keeps w' (List.mem_cons_of_mem _ mem)
    · exact h

/-- What every attempt keeps, the attempts that are left keep. -/
lemma processFrom_keeps {P : Store → Prop} {m : Store} {env : Nat → AttemptEnv} {attempt n} (h : P m)
    (keeps : ∀ k < attempt + n, ∀ m, P m → P (processOnce cfg signal (env k) m).1) :
    P (processFrom cfg signal env attempt n m).1 := by
  induction n generalizing attempt m with
  | zero => exact h
  | succ n ih =>
    have once := keeps attempt (by omega) m h
    rw [processFrom]
    split
    · rename_i m' out e
      rwa [e] at once
    · rename_i m' x e
      rw [e] at once
      split
      · split
        · exact once
        · apply ih once
          intro k less
          exact keeps k (by omega)
      · exact once

/-- A commit of writes that all apply goes on with the later ones. -/
lemma commit_append {m m' : Store} {ws ws'} (h : m.commit ws = (m', .ok ())) :
    m.commit (ws ++ ws') = m'.commit ws' := by
  induction ws generalizing m with
  | nil =>
    cases h
    rfl
  | cons w ws ih =>
    rw [Store.commit] at h
    rw [List.cons_append, Store.commit]
    split at h
    · exact ih h
    · cases h

/-- The relations after a link was committed. -/
def addLink (relations : List IncidentRelation) (r : IncidentRelation) : List IncidentRelation :=
  if relations.any fun x => x.incidentId = r.incidentId ∧
      x.relatedIncidentId = r.relatedIncidentId then relations
  else relations ++ [r]

/-- A commit of links changes the relations only. -/
lemma commit_links {m : Store} {links : List IncidentRelation} :
    m.commit (links.map .linkIncident) =
      ({ m with relations := links.foldl addLink m.relations }, .ok ()) := by
  induction links generalizing m with
  | nil => rfl
  | cons r links ih =>
    have applied : m.applyWrite (.linkIncident r) =
        .ok { m with relations := addLink m.relations r } := by
      rw [Store.applyWrite, addLink]
      split <;> rfl
    rw [List.map_cons, Store.commit, applied]
    exact ih

/-- Committing the writes that open an incident. -/
lemma commit_open {m : Store} {reason} (free : NoneActive m.incidents signal.key) :
    m.commit (openWrites cfg.severity signal reason env) =
      ({ m with
        incidents := m.incidents.set (newIncidentId env.token)
          (openedIncident cfg.severity signal reason env)
        evidenceIds := insert signal.eventId m.evidenceIds }, .ok ()) := by
  have key : (newIncident cfg.severity signal env).correlationKey = signal.key := rfl
  have id' : (newIncident cfg.severity signal env).id = newIncidentId env.token := rfl
  have insert' : m.applyWrite (.insertIncident (newIncident cfg.severity signal env)) =
      .ok (m.put (newIncidentId env.token) { incident := newIncident cfg.severity signal env }) := by
    rw [Store.applyWrite, key, activeOf_eq_nil.mpr free, id']
    rfl
  unfold openWrites
  dsimp only
  rw [Store.commit, insert', id']
  simp [Store.commit, Store.applyWrite, Store.stored, Store.put, bind, Except.bind, pure, Except.pure,
    openedIncident, evidenceOf]

/-- Committing the writes that append to an incident. -/
lemma commit_append_evidence {m : Store} {s reason} (found : m.incidents.get? s.incident.id = some s) :
    m.commit [.updateIncident (absorb cfg.severity s.incident signal env.absorbedNow),
        .addEvidence s.incident.id (evidenceOf signal reason)] =
      ({ m with
        incidents := m.incidents.set s.incident.id (s.absorbed cfg.severity signal reason env)
        evidenceIds := insert signal.eventId m.evidenceIds }, .ok ()) := by
  have id' : (absorb cfg.severity s.incident signal env.absorbedNow).id = s.incident.id := rfl
  simp [Store.commit, Store.applyWrite, Store.stored, Store.put, bind, Except.bind, pure, Except.pure,
    StoredIncident.absorbed, evidenceOf, id', found]

/-- Committing the writes that resolve a stale incident. -/
lemma commit_resolve {m : Store} {s reason} (found : m.incidents.get? s.incident.id = some s) :
    m.commit [.updateIncident (autoResolved s.incident env),
        .addTransition s.incident.id (resolvedTransition s.incident reason env)] =
      ({ m with incidents := m.incidents.set s.incident.id (s.resolved reason env) }, .ok ()) := by
  have id' : (autoResolved s.incident env).id = s.incident.id := rfl
  simp [Store.commit, Store.applyWrite, Store.stored, Store.put, bind, Except.bind, pure, Except.pure,
    StoredIncident.resolved, id', found]

/-- The anomaly is within the correlation window of the incident. -/
def Recent (cfg : CorrelationConfig) (signal : AnomalySignal) (i : Incident) : Prop :=
  ∃ gap, timeSince signal.occurredAt i.lastEvidenceAt = .ok gap ∧
    (PyFloat.totalSeconds gap).le cfg.windowSeconds = true

/-- The three decisions, as what is planned. -/
lemma plan_cases {active p} (h : plan cfg signal active env = .ok p) :
    (active = none ∧ ∃ reason, p.writes = openWrites cfg.severity signal reason env ∧
      p.current = newIncident cfg.severity signal env) ∨
    (∃ a reason, active = some a ∧
      p.writes = [.updateIncident (absorb cfg.severity a signal env.absorbedNow),
        .addEvidence a.id (evidenceOf signal reason)] ∧
      p.current = absorb cfg.severity a signal env.absorbedNow ∧
      Recent cfg.correlation signal a) ∨
    ∃ a reason, active = some a ∧
      p.writes = [.updateIncident (autoResolved a env),
        .addTransition a.id (resolvedTransition a reason env)] ++
          openWrites cfg.severity signal reason env ∧
      p.current = newIncident cfg.severity signal env := by
  unfold plan at h
  obtain ⟨decision, decided, h⟩ := Except.bind_eq_ok.mp h
  cases active with
  | none =>
    cases decided
    cases h
    exact .inl ⟨rfl, _, rfl, rfl⟩
  | some a =>
    obtain ⟨gap, measured, decided⟩ := Except.bind_eq_ok.mp decided
    dsimp only at decided
    split at decided
    · rename_i recent
      cases decided
      cases h
      exact .inr (.inl ⟨a, _, rfl, rfl, rfl, gap, measured, recent⟩)
    · cases decided
      cases h
      exact .inr (.inr ⟨a, _, rfl, rfl, rfl⟩)

/-- An exception of the unit of work is none of a lost race. -/
def NoRace {α : Type} (x : Except Error α) : Prop :=
  ∀ e, x = .error e → e.cls ≠ .duplicateActiveIncident

/-- A sequence of two computations loses a race only where one of them does. -/
lemma NoRace.bind {α β : Type} {x : Except Error α} {f : α → Except Error β} (h : NoRace x)
    (h' : ∀ a, x = .ok a → NoRace (f a)) : NoRace (x >>= f) := by
  cases x with
  | ok a => exact h' a rfl
  | error e =>
    intro e' he
    cases he
    exact h e rfl

/-- A computation that returns loses no race. -/
lemma NoRace.ok {α : Type} {a : α} : NoRace (.ok a : Except Error α) := by
  intro e h
  cases h

/-- A plan loses no race. -/
lemma plan_noRace {active} : NoRace (plan cfg signal active env) := by
  unfold plan
  apply NoRace.bind
  · unfold Correlation.decide
    split
    · exact .ok
    · apply NoRace.bind
      · unfold timeSince
        split
        · exact .ok
        · rintro e ⟨⟩
          decide
      · intro gap _
        dsimp only
        split <;> exact .ok
  · intro decision _
    split
    · exact .ok
    · exact .ok
    · exact .ok
    · rintro e ⟨⟩
      decide

/-- The comparison of two incidents loses no race. -/
lemma incidentsOverlap_noRace {a b w} : NoRace (incidentsOverlap a b w) := by
  have add : ∀ t delta, NoRace (addDelta t delta) := by
    intro t delta e h
    unfold addDelta ensure at h
    split at h
    · cases h
    · cases h
      decide
  unfold incidentsOverlap
  apply NoRace.bind
  · unfold timedelta
    split
    · exact .ok
    · split
      · rintro e ⟨⟩
        simp
      · rintro e ⟨⟩
        simp
  · intro slack _
    apply NoRace.bind (add _ _)
    intro untilB _
    split
    · apply NoRace.bind (add _ _)
      intro untilA _
      exact .ok
    · exact .ok

/-- The search for a link loses no race. -/
lemma linkOf_noRace {tcfg incident now other} : NoRace (linkOf tcfg incident now other) := by
  unfold linkOf
  split
  · exact .ok
  · apply NoRace.bind incidentsOverlap_noRace
    intro close _
    split <;> exact .ok

/-- The search for links loses no race. -/
lemma linkWrites_noRace {tcfg incident now candidates} :
    NoRace (linkWrites tcfg incident now candidates) := by
  unfold linkWrites
  apply NoRace.bind
  · induction candidates with
    | nil => exact .ok
    | cons other rest ih =>
      rw [List.mapM_cons]
      apply NoRace.bind linkOf_noRace
      intro link _
      apply NoRace.bind ih
      intro links _
      exact .ok
  · intro links _
    exact .ok

/-- The links of a unit of work are link writes. -/
lemma linkWrites_ok {tcfg incident now candidates ws}
    (h : linkWrites tcfg incident now candidates = .ok ws) :
    ∃ links : List IncidentRelation, ws = links.map .linkIncident := by
  obtain ⟨links, _, h⟩ := Except.bind_eq_ok.mp h
  cases h
  exact ⟨_, rfl⟩

/-- The links that a unit of work stages. -/
def linksOf (cfg : TopologyConfig) (current : Incident) (now : Instant) (d : Incidents) :
    Except Error (List Write) :=
  let neighbours := relatedServices current.service cfg.dependencyGraph
  if neighbours = [] then .ok []
  else linkWrites cfg current now (d.activeIn neighbours current.environment)

/-- What a unit of work has staged when its body returns. -/
lemma unitOfWork_ok {ws out} (h : unitOfWork cfg signal env m = .ok (ws, out)) :
    (signal.eventId ∈ m.evidenceIds ∧ ws = [] ∧ out = ⟨.duplicate, none, "duplicate event_id"⟩) ∨
    (signal.eventId ∉ m.evidenceIds ∧ ∃ p, ∃ links : List IncidentRelation,
      plan cfg signal (m.lockActiveIncident signal.key) env = .ok p ∧
      ws = p.writes ++ links.map .linkIncident ∧
      linksOf cfg.topology p.current env.linkedNow m.incidents = .ok (links.map .linkIncident) ∧
      out = p.outcome) := by
  unfold unitOfWork at h
  split at h
  · rename_i seen
    cases h
    exact .inl ⟨seen, rfl, rfl⟩
  · rename_i unseen
    obtain ⟨p, planned, h⟩ := Except.bind_eq_ok.mp h
    dsimp only at h
    split at h
    · rename_i none'
      cases h
      refine .inr ⟨unseen, p, [], planned, by simp, ?_, rfl⟩
      unfold linksOf
      exact if_pos none'
    · rename_i some'
      obtain ⟨links, linked, h⟩ := Except.bind_eq_ok.mp h
      obtain ⟨relations, rfl⟩ := linkWrites_ok linked
      cases h
      refine .inr ⟨unseen, p, relations, planned, rfl, ?_, rfl⟩
      unfold linksOf
      exact (if_neg some').trans linked

/-- The body of a unit of work loses no race. -/
lemma unitOfWork_noRace : NoRace (unitOfWork cfg signal env m) := by
  unfold unitOfWork
  split
  · exact .ok
  · apply NoRace.bind plan_noRace
    intro p _
    dsimp only
    split
    · exact .ok
    · apply NoRace.bind linkWrites_noRace
      intro links _
      exact .ok

/-- What a unit of work over a store makes of the incidents, and the incident it goes on with. -/
inductive Carries (cfg : ProcessorConfig) (signal : AnomalySignal) (env : AttemptEnv) (m : Store) :
    Incidents → Incident → Prop where
  | opened {reason} :
    NoneActive m.incidents signal.key →
    Carries cfg signal env m (m.incidents.set (newIncidentId env.token)
      (openedIncident cfg.severity signal reason env)) (newIncident cfg.severity signal env)
  | appended {s reason} :
    m.lockActiveIncident signal.key = some s.incident →
    m.incidents.get? s.incident.id = some s →
    s.incident.correlationKey = signal.key →
    s.incident.isActive = true →
    Recent cfg.correlation signal s.incident →
    Carries cfg signal env m
      (m.incidents.set s.incident.id (s.absorbed cfg.severity signal reason env))
      (absorb cfg.severity s.incident signal env.absorbedNow)
  | superseded {s reason} :
    m.incidents.get? s.incident.id = some s →
    s.incident.correlationKey = signal.key →
    s.incident.isActive = true →
    Carries cfg signal env m ((m.incidents.set s.incident.id (s.resolved reason env)).set
      (newIncidentId env.token) (openedIncident cfg.severity signal reason env))
      (newIncident cfg.severity signal env)

/-- What a unit of work carries out are writes for the anomaly. -/
lemma Carries.writes {d' current} (h : Carries cfg signal env m d' current) :
    Writes cfg.severity signal env m.incidents d' := by
  cases h with
  | opened free => exact .opened free
  | appended _ found key active _ => exact .appended found key active
  | superseded found key active => exact .superseded found key active

/-- The incident a unit of work goes on with is stored. -/
lemma Carries.current {d' current} (h : Carries cfg signal env m d' current) :
    ∃ s, d'.get? current.id = some s ∧ s.incident = current := by
  cases h with
  | opened _ => exact ⟨_, Dict.get?_set_self, rfl⟩
  | appended _ _ _ _ _ => exact ⟨_, Dict.get?_set_self, rfl⟩
  | superseded _ _ _ => exact ⟨_, Dict.get?_set_self, rfl⟩

/-- An attempt commits what its unit of work has staged. -/
lemma processOnce_of_staged {ws outcome}
    (staged : unitOfWork cfg signal env m = .ok (ws, outcome)) :
    processOnce cfg signal env m = ((m.commit ws).1, (m.commit ws).2.map fun _ => outcome) := by
  unfold processOnce
  rw [staged]

/-- One unit of work over a store whose keys are in order: it raises and leaves the store alone, it
finds the event and leaves the store alone, or it carries out its plan. -/
theorem processOnce_carries (h : KeysOk m.incidents) {m' out}
    (e : processOnce cfg signal env m = (m', out)) :
    (∃ x, out = .error x ∧ x.cls ≠ .duplicateActiveIncident ∧ m' = m) ∨
    (signal.eventId ∈ m.evidenceIds ∧ m' = m ∧
      out = .ok ⟨.duplicate, none, "duplicate event_id"⟩) ∨
    (signal.eventId ∉ m.evidenceIds ∧ (∃ o, out = .ok o) ∧
      m'.evidenceIds = insert signal.eventId m.evidenceIds ∧
      ∃ current, Carries cfg signal env m m'.incidents current ∧
        ∃ links : List IncidentRelation,
          linksOf cfg.topology current env.linkedNow m.incidents = .ok (links.map .linkIncident) ∧
          m'.relations = links.foldl addLink m.relations) := by
  unfold processOnce at e
  split at e
  · rename_i x raised
    cases e
    exact .inl ⟨x, rfl, unitOfWork_noRace x raised, rfl⟩
  · rename_i ws outcome staged
    refine .inr ?_
    rcases unitOfWork_ok staged with ⟨seen, rfl, rfl⟩ | ⟨unseen, p, links, planned, rfl, linked, rfl⟩
    · cases e
      exact .inl ⟨seen, rfl, rfl⟩
    · refine .inr ⟨unseen, ?_⟩
      rcases plan_cases planned with ⟨none', reason, hw, current⟩ |
        ⟨a, reason, some', hw, current, recent⟩ | ⟨a, reason, some', hw, current⟩
      · have free := lockActiveIncident_none none'
        rw [hw, commit_append (commit_open free), commit_links] at e
        cases e
        rw [current] at linked
        exact ⟨⟨_, rfl⟩, rfl, _, .opened free, links, linked, rfl⟩
      · obtain ⟨s, found, rfl, key, active⟩ := lockActiveIncident_some h.keyed some'
        rw [hw, commit_append (commit_append_evidence found), commit_links] at e
        cases e
        rw [current] at linked
        exact ⟨⟨_, rfl⟩, rfl, _, .appended some' found key active recent, links, linked, rfl⟩
      · obtain ⟨s, found, rfl, key, active⟩ := lockActiveIncident_some h.keyed some'
        have free : NoneActive (m.incidents.set s.incident.id (s.resolved reason env)) signal.key :=
          h.free_resolved found key active
        rw [hw, List.append_assoc, commit_append (commit_resolve found),
          commit_append (commit_open free), commit_links] at e
        cases e
        rw [current] at linked
        exact ⟨⟨_, rfl⟩, rfl, _, .superseded found key active, links, linked, rfl⟩

/-- `process` over a store whose keys are in order: it raises and leaves the store alone, it finds the
event and leaves the store alone, or it carries out the plan of its first attempt. -/
theorem process_carries {env : Nat → AttemptEnv} (h : KeysOk m.incidents) {m' out}
    (e : process cfg signal env m = (m', out)) :
    (m' = m ∧ (out.isOk = true → signal.eventId ∈ m.evidenceIds)) ∨
    (signal.eventId ∉ m.evidenceIds ∧ out.isOk = true ∧
      m'.evidenceIds = insert signal.eventId m.evidenceIds ∧
      ∃ current, Carries cfg signal (env 1) m m'.incidents current ∧
        ∃ links : List IncidentRelation,
          linksOf cfg.topology current (env 1).linkedNow m.incidents =
            .ok (links.map .linkIncident) ∧
          m'.relations = links.foldl addLink m.relations) := by
  unfold process at e
  cases n : cfg.maxRetries.toNat with
  | zero =>
    rw [n] at e
    cases e
    exact .inl ⟨rfl, nofun⟩
  | succ n' =>
    rw [n, processFrom] at e
    cases once : processOnce cfg signal (env 1) m with
    | mk m1 out1 =>
      rw [once] at e
      rcases processOnce_carries h once with ⟨x, rfl, other, rfl⟩ | ⟨seen, rfl, rfl⟩ |
        ⟨unseen, ⟨o, rfl⟩, ids, rest⟩
      · dsimp only at e
        rw [if_neg other] at e
        cases e
        exact .inl ⟨rfl, nofun⟩
      · cases e
        exact .inl ⟨rfl, fun _ => seen⟩
      · cases e
        exact .inr ⟨unseen, rfl, ids, rest⟩

/-- `process` over a store whose keys are in order, as far as the incidents are concerned. -/
lemma process_writes {env : Nat → AttemptEnv} (h : KeysOk m.incidents) {m' out}
    (e : process cfg signal env m = (m', out)) :
    (m' = m ∧ (out.isOk = true → signal.eventId ∈ m.evidenceIds)) ∨
    (signal.eventId ∉ m.evidenceIds ∧ Writes cfg.severity signal (env 1) m.incidents m'.incidents ∧
      m'.evidenceIds = insert signal.eventId m.evidenceIds ∧ out.isOk = true) := by
  rcases process_carries h e with same | ⟨unseen, ok, ids, current, carried, _⟩
  · exact .inl same
  · exact .inr ⟨unseen, carried.writes, ids, ok⟩

end SentinelOps.IncidentCorrelator
