import SentinelOps.IncidentCorrelator.Memory
import Mathlib.Order.Bounds.Basic
import Mathlib.Order.Lattice

/-!
# Evidence and what an incident says of it

`Summarizes` states the purpose of the stored aggregates: each of them is a function of the evidence
of the incident. `IncidentsOk` adds what holds of all incidents together: one active incident for a
key, and every event in the evidence of one incident only. `Absorbs` says what one anomaly does to
the incidents, whichever repository carries it out, and keeps both.
-/

namespace SentinelOps.IncidentCorrelator

/-- The aggregates of an incident are those of its evidence. -/
structure Summarizes (cfg : SeverityConfig) (i : Incident) (evidence : List EvidenceRecord) : Prop where
  count : i.anomalyCount = evidence.length
  started : IsLeast {t | ∃ e ∈ evidence, e.windowStart = t} i.startedAt
  last : IsGreatest {t | ∃ e ∈ evidence, e.windowEnd = t} i.lastEvidenceAt
  score : i.maxAnomalyScore = .maximum (.fin 0) (evidence.map (·.anomalyScore))
  errorRate : i.maxErrorRate =
    .maximum (.fin 0) (evidence.map fun e => signalOf e.signals "error_rate")
  latency : i.maxLatencyP95Ms =
    .maximum (.fin 0) (evidence.map fun e => signalOf e.signals "latency_p95_ms")
  names : i.abnormalSignalNames = Py.sortedSet (evidence.flatMap (·.abnormalSignals))
  verdict : (⟨i.severity, i.severityReasons⟩ : SeverityVerdict) =
    evaluateSeverity i.severityInputs cfg

/-- No evidence is of the event. -/
def Unseen (d : Incidents) (eventId : String) : Prop :=
  ∀ id s e, d.get? id = some s → e ∈ s.evidence → e.eventId ≠ eventId

/-- No incident of the key is active. -/
def NoneActive (d : Incidents) (key : String) : Prop :=
  ∀ id s, d.get? id = some s → s.incident.correlationKey = key → s.incident.isActive = false

/-- Every incident is stored under its id, and a key has one active incident at most. -/
structure KeysOk (d : Incidents) : Prop where
  keyed : ∀ id s, d.get? id = some s → s.incident.id = id
  oneActive : ∀ id id' s s', d.get? id = some s → d.get? id' = some s' →
    s.incident.correlationKey = s'.incident.correlationKey → s.incident.isActive = true →
    s'.incident.isActive = true → id = id'

/-- What holds of the incidents of a store. -/
structure IncidentsOk (cfg : SeverityConfig) (d : Incidents) : Prop where
  keyed : ∀ id s, d.get? id = some s → s.incident.id = id
  oneActive : ∀ id id' s s', d.get? id = some s → d.get? id' = some s' →
    s.incident.correlationKey = s'.incident.correlationKey → s.incident.isActive = true →
    s'.incident.isActive = true → id = id'
  once : ∀ id id' s s' e e', d.get? id = some s → d.get? id' = some s' → e ∈ s.evidence →
    e' ∈ s'.evidence → e.eventId = e'.eventId → id = id'
  distinct : ∀ id s, d.get? id = some s → (s.evidence.map (·.eventId)).Nodup
  summary : ∀ id s, d.get? id = some s → Summarizes cfg s.incident s.evidence

/-- A new incident with its evidence and its history. -/
def openedIncident (cfg : SeverityConfig) (signal : AnomalySignal) (reason : String)
    (env : AttemptEnv) : StoredIncident where
  incident := newIncident cfg signal env
  evidence := [evidenceOf signal reason]
  history := [openedTransition (newIncident cfg signal env) reason env]

namespace StoredIncident

/-- A stored incident after it absorbed an anomaly. -/
def absorbed (s : StoredIncident) (cfg : SeverityConfig) (signal : AnomalySignal) (reason : String)
    (env : AttemptEnv) : StoredIncident :=
  { s with
    incident := absorb cfg s.incident signal env.absorbedNow
    evidence := s.evidence ++ [evidenceOf signal reason] }

/-- A stored incident after it was resolved as stale. -/
def resolved (s : StoredIncident) (reason : String) (env : AttemptEnv) : StoredIncident :=
  { s with
    incident := autoResolved s.incident env
    history := s.history ++ [resolvedTransition s.incident reason env] }

end StoredIncident

/-- What one anomaly does to the incidents. -/
inductive Absorbs (cfg : SeverityConfig) (signal : AnomalySignal) : Incidents → Incidents → Prop where
  | opened {d reason env} :
    NoneActive d signal.key →
    d.get? (newIncidentId env.token) = none →
    Absorbs cfg signal d
      (d.set (newIncidentId env.token) (openedIncident cfg signal reason env))
  | appended {d id s reason env} :
    d.get? id = some s →
    s.incident.correlationKey = signal.key →
    s.incident.isActive = true →
    Absorbs cfg signal d (d.set id (s.absorbed cfg signal reason env))
  | superseded {d id s reason env} :
    d.get? id = some s →
    s.incident.correlationKey = signal.key →
    s.incident.isActive = true →
    d.get? (newIncidentId env.token) = none →
    Absorbs cfg signal d ((d.set id (s.resolved reason env)).set (newIncidentId env.token)
      (openedIncident cfg signal reason env))

/-- What the writes for an anomaly make of the incidents, whether or not the id they draw is new. -/
inductive Writes (cfg : SeverityConfig) (signal : AnomalySignal) (env : AttemptEnv) :
    Incidents → Incidents → Prop where
  | opened {d reason} :
    NoneActive d signal.key →
    Writes cfg signal env d
      (d.set (newIncidentId env.token) (openedIncident cfg signal reason env))
  | appended {d id s reason} :
    d.get? id = some s →
    s.incident.correlationKey = signal.key →
    s.incident.isActive = true →
    Writes cfg signal env d (d.set id (s.absorbed cfg signal reason env))
  | superseded {d id s reason} :
    d.get? id = some s →
    s.incident.correlationKey = signal.key →
    s.incident.isActive = true →
    Writes cfg signal env d ((d.set id (s.resolved reason env)).set (newIncidentId env.token)
      (openedIncident cfg signal reason env))

variable {cfg : SeverityConfig} {signal : AnomalySignal} {i : Incident} {reason : String}
  {env : AttemptEnv} {evidence : List EvidenceRecord}

/-- The least of a set with one more element. -/
lemma isLeast_append {α β : Type*} [LinearOrder β] {f : α → β} {xs : List α} {x m}
    (h : IsLeast {t | ∃ e ∈ xs, f e = t} m) :
    IsLeast {t | ∃ e ∈ xs ++ [x], f e = t} (min m (f x)) := by
  obtain ⟨⟨e, he, rfl⟩, low⟩ := h
  constructor
  · rcases min_choice (f e) (f x) with h | h
    · exact ⟨e, by simp [he], h.symm⟩
    · exact ⟨x, by simp, h.symm⟩
  · rintro t ⟨y, hy, rfl⟩
    rcases List.mem_append.mp hy with old | new
    · exact (min_le_left _ _).trans (low ⟨y, old, rfl⟩)
    · rw [List.mem_singleton.mp new]
      exact min_le_right _ _

/-- The greatest of a set with one more element. -/
lemma isGreatest_append {α β : Type*} [LinearOrder β] {f : α → β} {xs : List α} {x m}
    (h : IsGreatest {t | ∃ e ∈ xs, f e = t} m) :
    IsGreatest {t | ∃ e ∈ xs ++ [x], f e = t} (max m (f x)) := by
  obtain ⟨⟨e, he, rfl⟩, up⟩ := h
  constructor
  · rcases max_choice (f e) (f x) with h | h
    · exact ⟨e, by simp [he], h.symm⟩
    · exact ⟨x, by simp, h.symm⟩
  · rintro t ⟨y, hy, rfl⟩
    rcases List.mem_append.mp hy with old | new
    · exact (up ⟨y, old, rfl⟩).trans (le_max_left _ _)
    · rw [List.mem_singleton.mp new]
      exact le_max_right _ _

/-- An incident that absorbs an anomaly summarizes its evidence with that anomaly. -/
lemma Summarizes.absorb {now} (h : Summarizes cfg i evidence) :
    Summarizes cfg (IncidentCorrelator.absorb cfg i signal now) (evidence ++ [evidenceOf signal reason]) where
  count := by
    change i.anomalyCount + 1 = _
    simp [h.count]
  started := isLeast_append h.started
  last := isGreatest_append h.last
  score := by
    change i.maxAnomalyScore.max _ = _
    rw [h.score, List.map_append]
    exact PyFloat.maximum_append.symm
  errorRate := by
    change i.maxErrorRate.max _ = _
    rw [h.errorRate, List.map_append]
    exact PyFloat.maximum_append.symm
  latency := by
    change i.maxLatencyP95Ms.max _ = _
    rw [h.latency, List.map_append]
    exact PyFloat.maximum_append.symm
  names := by
    change Py.sortedSet (i.abnormalSignalNames ++ _) = _
    rw [h.names, Py.sortedSet_append, List.flatMap_append]
    simp [evidenceOf]
  verdict := rfl

/-- A new incident summarizes the anomaly it was opened for. -/
lemma Summarizes.new : Summarizes cfg (newIncident cfg signal env) [evidenceOf signal reason] where
  count := rfl
  started := by
    have least : IsLeast {t | ∃ e ∈ [evidenceOf signal reason], e.windowStart = t}
        signal.windowStart := by
      constructor
      · exact ⟨_, List.mem_singleton_self _, rfl⟩
      · rintro t ⟨e, he, rfl⟩
        rw [List.mem_singleton.mp he]
        rfl
    change IsLeast _ (min signal.windowStart signal.windowStart)
    rwa [min_self]
  last := by
    have greatest : IsGreatest {t | ∃ e ∈ [evidenceOf signal reason], e.windowEnd = t}
        signal.windowEnd := by
      constructor
      · exact ⟨_, List.mem_singleton_self _, rfl⟩
      · rintro t ⟨e, he, rfl⟩
        rw [List.mem_singleton.mp he]
        rfl
    change IsGreatest _ (max signal.windowEnd signal.windowEnd)
    rwa [max_self]
  score := rfl
  errorRate := rfl
  latency := rfl
  names := by
    change Py.sortedSet ([] ++ signal.abnormalSignals) = _
    simp [evidenceOf]
  verdict := rfl

/-- A change of the status leaves the summary alone. -/
lemma Summarizes.congr {j : Incident} (h : Summarizes cfg i evidence)
    (same : ∃ status updatedAt acknowledgedAt resolvedAt resolution,
      j = { i with status, updatedAt, acknowledgedAt, resolvedAt, resolution }) :
    Summarizes cfg j evidence := by
  obtain ⟨_, _, _, _, _, rfl⟩ := same
  exact ⟨h.count, h.started, h.last, h.score, h.errorRate, h.latency, h.names, h.verdict⟩

/-- What a lookup finds after an incident was stored. -/
lemma get?_set_cases {d : Incidents} {id id' s x} (h : (d.set id s).get? id' = some x) :
    (id' = id ∧ x = s) ∨ (id' ≠ id ∧ d.get? id' = some x) := by
  rw [Dict.get?_set] at h
  split at h
  · rename_i e
    exact .inl ⟨e, (Option.some.inj h).symm⟩
  · rename_i ne
    exact .inr ⟨ne, h⟩

/-- Storing an incident keeps the keys in order when its key is free for it. -/
lemma KeysOk.set {d : Incidents} (h : KeysOk d) {id s} (own : s.incident.id = id)
    (free : s.incident.isActive = true → ∀ id' x, d.get? id' = some x → id' ≠ id →
      x.incident.correlationKey = s.incident.correlationKey → x.incident.isActive = false) :
    KeysOk (d.set id s) := by
  constructor
  · intro id' x hx
    rcases get?_set_cases hx with ⟨rfl, rfl⟩ | ⟨_, hx⟩
    · exact own
    · exact h.keyed id' x hx
  · intro id1 id2 x y hx hy key ax ay
    rcases get?_set_cases hx with ⟨rfl, rfl⟩ | ⟨ne, old⟩
    · rcases get?_set_cases hy with ⟨rfl, rfl⟩ | ⟨ne, hy⟩
      · rfl
      · rw [free ax id2 y hy ne key.symm] at ay
        cases ay
    · rcases get?_set_cases hy with ⟨rfl, rfl⟩ | ⟨_, hy⟩
      · rw [free ay id1 x old ne key] at ax
        cases ax
      · exact h.oneActive id1 id2 x y old hy key ax ay

/-- The active incident of a key is the only one. -/
lemma KeysOk.only {d : Incidents} (h : KeysOk d) {id s} (found : d.get? id = some s)
    (active : s.incident.isActive = true) {id' x} (hx : d.get? id' = some x) (ne : id' ≠ id)
    (key : x.incident.correlationKey = s.incident.correlationKey) : x.incident.isActive = false := by
  by_contra busy
  rw [Bool.not_eq_false] at busy
  exact ne (h.oneActive id' id x s hx found key busy active)

/-- No incident of a key is active once the active one is resolved. -/
lemma KeysOk.free_resolved {d : Incidents} (h : KeysOk d) {id s key} (found : d.get? id = some s)
    (own : s.incident.correlationKey = key) (active : s.incident.isActive = true) :
    NoneActive (d.set id (s.resolved reason env)) key := by
  intro id' x hx same
  rcases get?_set_cases hx with ⟨_, rfl⟩ | ⟨ne, hx⟩
  · rfl
  · exact h.only found active hx ne (same.trans own.symm)

/-- The keys of incidents in order. -/
lemma IncidentsOk.keys {d : Incidents} (h : IncidentsOk cfg d) : KeysOk d := ⟨h.keyed, h.oneActive⟩

/-- Storing an incident keeps the order of the store when its key is free for it and its evidence is
its own. -/
lemma IncidentsOk.set {d : Incidents} (h : IncidentsOk cfg d) {id s} (own : s.incident.id = id)
    (free : s.incident.isActive = true → ∀ id' x, d.get? id' = some x → id' ≠ id →
      x.incident.correlationKey = s.incident.correlationKey → x.incident.isActive = false)
    (apart : ∀ e ∈ s.evidence, ∀ id' x e', d.get? id' = some x → id' ≠ id → e' ∈ x.evidence →
      e'.eventId ≠ e.eventId)
    (distinct : (s.evidence.map (·.eventId)).Nodup) (summary : Summarizes cfg s.incident s.evidence) :
    IncidentsOk cfg (d.set id s) := by
  have keys := h.keys.set own free
  refine ⟨keys.keyed, keys.oneActive, ?_, ?_, ?_⟩
  · intro id1 id2 x y e e' hx hy he he' same
    rcases get?_set_cases hx with ⟨rfl, rfl⟩ | ⟨ne, old⟩
    · rcases get?_set_cases hy with ⟨rfl, rfl⟩ | ⟨ne, hy⟩
      · rfl
      · exact absurd same.symm (apart e he id2 y e' hy ne he')
    · rcases get?_set_cases hy with ⟨rfl, rfl⟩ | ⟨_, hy⟩
      · exact absurd same (apart e' he' id1 x e old ne he)
      · exact h.once id1 id2 x y e e' old hy he he' same
  · intro id' x hx
    rcases get?_set_cases hx with ⟨rfl, rfl⟩ | ⟨_, hx⟩
    · exact distinct
    · exact h.distinct id' x hx
  · intro id' x hx
    rcases get?_set_cases hx with ⟨rfl, rfl⟩ | ⟨_, hx⟩
    · exact summary
    · exact h.summary id' x hx

/-- An incident whose status changes, but that is not brought back, keeps the order of the store. -/
lemma IncidentsOk.change {d : Incidents} (h : IncidentsOk cfg d) {id s s'}
    (found : d.get? id = some s) (evidence : s'.evidence = s.evidence)
    (same : ∃ status updatedAt acknowledgedAt resolvedAt resolution, s'.incident =
      { s.incident with status, updatedAt, acknowledgedAt, resolvedAt, resolution })
    (active : s'.incident.isActive = true → s.incident.isActive = true) :
    IncidentsOk cfg (d.set id s') := by
  have fields : s'.incident.id = s.incident.id ∧
      s'.incident.correlationKey = s.incident.correlationKey := by
    obtain ⟨_, _, _, _, _, e⟩ := same
    rw [e]
    exact ⟨rfl, rfl⟩
  apply h.set
  · rw [fields.1, h.keyed id s found]
  · intro act id' x hx ne key
    exact h.keys.only found (active act) hx ne (key.trans fields.2)
  · intro e he id' x e' hx ne he' same'
    rw [evidence] at he
    exact ne (h.once id' id x s e' e hx found he' he same')
  · rw [evidence]
    exact h.distinct id s found
  · rw [evidence]
    exact (h.summary id s found).congr same

/-- Opening an incident for an unseen event keeps the order of the store. -/
lemma IncidentsOk.open {d : Incidents} (h : IncidentsOk cfg d) (unseen : Unseen d signal.eventId)
    (free : NoneActive d signal.key) :
    IncidentsOk cfg (d.set (newIncidentId env.token) (openedIncident cfg signal reason env)) := by
  apply h.set
  · rfl
  · intro _ id' x hx _ key
    exact free id' x hx key
  · intro e he id' x e' hx _ he'
    rw [List.mem_singleton.mp he]
    exact unseen id' x e' hx he'
  · exact List.nodup_singleton _
  · exact .new

/-- Appending an unseen event keeps the order of the store. -/
lemma IncidentsOk.append {d : Incidents} (h : IncidentsOk cfg d) (unseen : Unseen d signal.eventId)
    {id s} (found : d.get? id = some s) (active : s.incident.isActive = true) :
    IncidentsOk cfg (d.set id (s.absorbed cfg signal reason env)) := by
  apply h.set
  · exact h.keyed id s found
  · intro _ id' x hx ne key
    exact h.keys.only found active hx ne key
  · intro e he id' x e' hx ne he' same
    rcases List.mem_append.mp he with old | new
    · exact ne (h.once id' id x s e' e hx found he' old same)
    · rw [List.mem_singleton.mp new] at same
      exact unseen id' x e' hx he' same
  · change ((s.evidence ++ [_]).map _).Nodup
    rw [List.map_append, List.nodup_append]
    refine ⟨h.distinct id s found, List.nodup_singleton _, ?_⟩
    intro a ha b hb
    obtain ⟨e, he, rfl⟩ := List.mem_map.mp ha
    rw [List.mem_singleton.mp hb]
    exact unseen id s e found he
  · exact (h.summary id s found).absorb

/-- The events that are evidence after a store has changed at one place. -/
lemma unseen_set {d : Incidents} {id s ev} (unseen : Unseen d ev)
    (new : ∀ e ∈ s.evidence, e.eventId ≠ ev) : Unseen (d.set id s) ev := by
  intro id' x e hx he
  rw [Dict.get?_set] at hx
  split at hx
  · cases hx
    exact new e he
  · exact unseen id' x e hx he

/-- With a new id, the writes absorb the anomaly. -/
lemma Writes.absorbs {d d' : Incidents} (h : Writes cfg signal env d d')
    (fresh : d.get? (newIncidentId env.token) = none) : Absorbs cfg signal d d' := by
  cases h with
  | opened free => exact .opened free fresh
  | appended found key active => exact .appended found key active
  | superseded found key active => exact .superseded found key active fresh

/-- What absorbs an anomaly are writes for it. -/
lemma Absorbs.writes {d d' : Incidents} (h : Absorbs cfg signal d d') :
    ∃ env, Writes cfg signal env d d' := by
  cases h with
  | opened free _ => exact ⟨_, .opened free⟩
  | appended found key active => exact ⟨_, .appended found key active⟩
  | superseded found key active _ => exact ⟨_, .superseded found key active⟩

/-- What the writes make of the incidents keeps their keys in order. -/
lemma KeysOk.writes {d d' : Incidents} (h : KeysOk d) (w : Writes cfg signal env d d') :
    KeysOk d' := by
  have opens : ∀ {d reason}, KeysOk d → NoneActive d signal.key →
      KeysOk (d.set (newIncidentId env.token) (openedIncident cfg signal reason env)) := by
    intro d reason h free
    apply h.set
    · rfl
    · intro _ id' x hx _ key
      exact free id' x hx key
  cases w with
  | opened free => exact opens h free
  | @appended id s reason found key active =>
    apply h.set
    · exact h.keyed id s found
    · intro _ id' x hx ne same
      exact h.only found active hx ne same
  | @superseded id s reason found key active =>
    apply opens
    · apply h.set
      · exact h.keyed id s found
      · intro act
        cases act
    · exact h.free_resolved found key active

/-- What an anomaly does to the incidents keeps their order, when its event was not seen before. -/
theorem IncidentsOk.absorbs {d d' : Incidents} (h : IncidentsOk cfg d)
    (unseen : Unseen d signal.eventId) (abs : Absorbs cfg signal d d') : IncidentsOk cfg d' := by
  cases abs with
  | opened free _ => exact h.open unseen free
  | appended found _ active => exact h.append unseen found active
  | @superseded id s reason env found key active _ =>
    have closed : IncidentsOk cfg (d.set id (s.resolved reason env)) := by
      refine h.change found rfl ⟨_, _, _, _, _, rfl⟩ ?_
      intro act
      cases act
    apply closed.open
    · exact unseen_set unseen fun e he => unseen id s e found he
    · exact h.keys.free_resolved found key active

end SentinelOps.IncidentCorrelator
