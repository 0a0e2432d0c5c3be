import SentinelOps.IncidentCorrelator.MemorySteps
import SentinelOps.Lib.Transition

/-!
# Conservation of evidence

`correlator` is the processor over the in-memory store together with the manual transitions of the
API, one call after the other. `evidence_conservation`: in every state of every run, a processed
event is evidence of exactly one incident, once, the aggregates of every incident are those of its
evidence, and processing an event again leaves the store as it is.
-/

namespace SentinelOps.IncidentCorrelator

/-- The store and the events whose processing has returned. -/
structure Correlator where
  store : Store := {}
  processed : List String := []

/-- A call of the processor or a manual transition. -/
inductive CorrelatorCall where
  | process (signal : AnomalySignal) (env : Nat → AttemptEnv)
  | transition (incidentId : String) (target : IncidentStatus) (actor reason : String)
      (now : Instant)

/-- `_transition` of the API: a transition that is not allowed is refused. -/
def Store.transition (m : Store) (incidentId : String) (target : IncidentStatus)
    (actor reason : String) (now : Instant) : Store :=
  match m.incidents.get? incidentId with
  | none => m
  | some s =>
    match validateTransition s.incident.status target actor with
    | .ok _ => m.applyTransition incidentId target actor reason now
    | .error _ => m

/-- One call. -/
def Correlator.step (cfg : ProcessorConfig) (w : Correlator) : CorrelatorCall → Correlator
  | .process signal env =>
    let (m', out) := process cfg signal env w.store
    { store := m'
      processed := if out.isOk = true then w.processed ++ [signal.eventId] else w.processed }
  | .transition incidentId target actor reason now =>
    { w with store := w.store.transition incidentId target actor reason now }

/-- The processor with its store, from an empty one on. -/
def correlator (cfg : ProcessorConfig) : Machine Correlator CorrelatorCall where
  init w := w.store = {} ∧ w.processed = []
  step w l := some (w.step cfg l)

/-- The ids drawn for a call are new. -/
def FreshIds (w : Correlator) (l : CorrelatorCall) (_ : Correlator) : Prop :=
  ∀ signal env, l = .process signal env →
    ∀ n, w.store.incidents.get? (newIncidentId (env n).token) = none

/-- The event is evidence of the incident. -/
def Evident (d : Incidents) (id ev : String) : Prop :=
  ∃ s, d.get? id = some s ∧ ev ∈ s.evidence.map (·.eventId)

variable {cfg : ProcessorConfig} {signal : AnomalySignal}

/-- An event is unseen when it is evidence of no incident. -/
lemma unseen_iff {d : Incidents} {ev} : Unseen d ev ↔ ∀ id, ¬ Evident d id ev := by
  constructor
  · rintro unseen id ⟨s, found, he⟩
    obtain ⟨e, mem, own⟩ := List.mem_map.mp he
    exact unseen id s e found mem own
  · rintro none' id s e found he rfl
    exact none' id ⟨s, found, List.mem_map_of_mem he⟩

/-- Where the evidence is after a store has changed at one place. -/
lemma evident_set {d : Incidents} {id s id' ev} : Evident (d.set id s) id' ev ↔
    (id' = id ∧ ev ∈ s.evidence.map (·.eventId)) ∨ (id' ≠ id ∧ Evident d id' ev) := by
  unfold Evident
  rw [Dict.get?_set]
  split
  · rename_i e
    simp [e]
  · rename_i ne
    simp [ne]

/-- A change that keeps the evidence of an incident keeps where the evidence is. -/
lemma evident_set_same {d : Incidents} {id s s'} (found : d.get? id = some s)
    (same : s'.evidence = s.evidence) {id' ev} : Evident (d.set id s') id' ev ↔ Evident d id' ev := by
  rw [evident_set, same]
  by_cases e : id' = id
  · subst e
    simp [Evident, found]
  · simp [e]

/-- An anomaly adds its event to the evidence of one incident, and nothing else. -/
lemma Absorbs.evident {d d' : Incidents} (h : Absorbs cfg.severity signal d d') :
    ∃ target, ∀ id ev, Evident d' id ev ↔ Evident d id ev ∨ (id = target ∧ ev = signal.eventId) := by
  cases h with
  | @opened reason env _ absent =>
    refine ⟨newIncidentId env.token, fun id ev => ?_⟩
    rw [evident_set]
    by_cases e : id = newIncidentId env.token
    · subst e
      have before : ¬ Evident d (newIncidentId env.token) ev := by
        rintro ⟨s, found, _⟩
        rw [absent] at found
        cases found
      simp [before, openedIncident, evidenceOf]
    · simp [e]
  | @appended id s reason env found _ _ =>
    refine ⟨id, fun id' ev => ?_⟩
    rw [evident_set]
    by_cases e : id' = id
    · subst e
      have before : Evident d id' ev ↔ ev ∈ s.evidence.map (·.eventId) := by
        simp [Evident, found]
      rw [before]
      simp [StoredIncident.absorbed, evidenceOf]
    · simp [e]
  | @superseded id s reason env found _ _ absent =>
    refine ⟨newIncidentId env.token, fun id' ev => ?_⟩
    have ne : id ≠ newIncidentId env.token := by
      intro e
      rw [e, absent] at found
      cases found
    have kept : ∀ ev, Evident d id ev ↔ ev ∈ (s.resolved reason env).evidence.map (·.eventId) := by
      intro ev
      simp [Evident, found, StoredIncident.resolved]
    rw [evident_set]
    by_cases e : id' = newIncidentId env.token
    · subst e
      have before : ¬ Evident d (newIncidentId env.token) ev := by
        rintro ⟨s, there, _⟩
        rw [absent] at there
        cases there
      simp [before, openedIncident, evidenceOf]
    · rw [evident_set]
      by_cases e' : id' = id
      · subst e'
        simp [kept, ne]
      · simp [e, e']

/-- The writes for an anomaly leave its event in the evidence of an incident. -/
lemma Writes.evident {scfg env} {d d' : Incidents} (h : Writes scfg signal env d d') :
    ∃ id, Evident d' id signal.eventId := by
  cases h with
  | opened _ => exact ⟨_, _, Dict.get?_set_self, by simp [openedIncident, evidenceOf]⟩
  | appended _ _ _ => exact ⟨_, _, Dict.get?_set_self, by simp [StoredIncident.absorbed, evidenceOf]⟩
  | superseded _ _ _ => exact ⟨_, _, Dict.get?_set_self, by simp [openedIncident, evidenceOf]⟩

/-- A store that absorbed an unseen event is in order, and its events are those before with that
one. -/
lemma MemoryOk.absorbs {m m' : Store} (h : MemoryOk cfg.severity m)
    (new : signal.eventId ∉ m.evidenceIds)
    (abs : Absorbs cfg.severity signal m.incidents m'.incidents)
    (ids : m'.evidenceIds = insert signal.eventId m.evidenceIds) : MemoryOk cfg.severity m' where
  incidents := by
    refine h.incidents.absorbs ?_ abs
    by_contra seen
    exact new ((h.events _).mpr seen)
  events ev := by
    obtain ⟨target, evident⟩ := abs.evident
    rw [ids, Finset.mem_insert, h.events, unseen_iff, unseen_iff]
    push Not
    constructor
    · rintro (rfl | ⟨id, there⟩)
      · exact ⟨target, (evident _ _).mpr (.inr ⟨rfl, rfl⟩)⟩
      · exact ⟨id, (evident _ _).mpr (.inl there)⟩
    · rintro ⟨id, there⟩
      rcases (evident _ _).mp there with old | ⟨_, rfl⟩
      · exact .inr ⟨id, old⟩
      · exact .inl rfl

/-- An event that is in the evidence leaves the store as it is. -/
lemma process_seen {m : Store} {env : Nat → AttemptEnv} (seen : signal.eventId ∈ m.evidenceIds) :
    (process cfg signal env m).1 = m := by
  unfold process
  cases cfg.maxRetries.toNat with
  | zero => rfl
  | succ n =>
    rw [processFrom]
    have once : processOnce cfg signal (env 1) m =
        (m, .ok ⟨.duplicate, none, "duplicate event_id"⟩) := by
      unfold processOnce unitOfWork
      rw [if_pos seen]
      rfl
    rw [once]

/-- `process` over a store in order: it returns with the event in the evidence of the store, or it
raises and leaves the store alone. -/
theorem process_ok {m m' : Store} (h : MemoryOk cfg.severity m) {env : Nat → AttemptEnv}
    (fresh : ∀ n, m.incidents.get? (newIncidentId (env n).token) = none) {out}
    (e : process cfg signal env m = (m', out)) :
    MemoryOk cfg.severity m' ∧
      m'.evidenceIds = (if out.isOk = true then insert signal.eventId m.evidenceIds
        else m.evidenceIds) := by
  rcases process_writes h.incidents.keys e with ⟨rfl, seen⟩ | ⟨unseen, writes, ids, ok⟩
  · refine ⟨h, ?_⟩
    split
    · rename_i ok
      exact (Finset.insert_eq_self.mpr (seen ok)).symm
    · rfl
  · refine ⟨h.absorbs unseen (writes.absorbs (fresh 1)) ids, ?_⟩
    rw [ids, if_pos ok]

/-- A manual transition leaves the store as it is, or moves an active incident on. -/
lemma Store.transition_cases {m : Store} {incidentId target actor reason now} :
    m.transition incidentId target actor reason now = m ∨
      ∃ s, m.incidents.get? incidentId = some s ∧ s.incident.isActive = true ∧
        m.transition incidentId target actor reason now =
          m.put incidentId (s.transition target actor reason now) := by
  unfold Store.transition
  split
  · exact .inl rfl
  · rename_i s found
    split
    · rename_i u valid
      rw [validateTransition_ok] at valid
      refine .inr ⟨s, found, ?_, ?_⟩
      · by_contra closed
        rw [Bool.not_eq_true] at closed
        have resolved : s.incident.status = .resolved := by
          simpa [Incident.isActive, IncidentStatus.isActive] using closed
        rw [resolved] at valid
        cases valid
      · unfold Store.applyTransition
        rw [found]
    · exact .inl rfl

/-- A manual transition keeps the order of the store and its evidence. -/
lemma MemoryOk.transition {m : Store} (h : MemoryOk cfg.severity m) {incidentId target actor reason now} :
    MemoryOk cfg.severity (m.transition incidentId target actor reason now) ∧
      (m.transition incidentId target actor reason now).evidenceIds = m.evidenceIds := by
  rcases @Store.transition_cases m incidentId target actor reason now with
    same | ⟨s, found, active, moved⟩
  · rw [same]
    exact ⟨h, rfl⟩
  · rw [moved]
    refine ⟨⟨?_, ?_⟩, rfl⟩
    · exact h.incidents.change found rfl ⟨_, _, _, _, _, rfl⟩ fun _ => active
    · intro ev
      rw [show (m.put incidentId (s.transition target actor reason now)).evidenceIds =
        m.evidenceIds from rfl, h.events, unseen_iff, unseen_iff]
      have same : ∀ id, Evident (m.put incidentId (s.transition target actor reason now)).incidents
          id ev ↔ Evident m.incidents id ev := by
        intro id
        exact @evident_set_same m.incidents incidentId s (s.transition target actor reason now)
          found rfl id ev
      simp [same]

/-- An empty store is in order. -/
lemma memoryOk_empty {scfg : SeverityConfig} : MemoryOk scfg {} := by
  refine ⟨⟨?_, ?_, ?_, ?_, ?_⟩, ?_⟩
  · intro id s found
    cases found
  · intro id id' s s' found
    cases found
  · intro id id' s s' e e' found
    cases found
  · intro id s found
    cases found
  · intro id s found
    cases found
  · intro ev
    simp [Unseen]

/-- What holds of every state: the store is in order, and its events are those processed. -/
def Conserved (cfg : ProcessorConfig) (w : Correlator) : Prop :=
  MemoryOk cfg.severity w.store ∧ ∀ ev, ev ∈ w.processed ↔ ev ∈ w.store.evidenceIds

/-- One call keeps what holds of every state. -/
lemma Conserved.step {w : Correlator} {l} (h : Conserved cfg w)
    (fresh : FreshIds w l (w.step cfg l)) : Conserved cfg (w.step cfg l) := by
  obtain ⟨ok, events⟩ := h
  cases l with
  | process signal env =>
    cases e : process cfg signal env w.store with
    | mk m' out =>
      obtain ⟨ok', ids⟩ := process_ok ok (fresh signal env rfl) e
      unfold Correlator.step
      dsimp only
      rw [e]
      refine ⟨ok', fun ev => ?_⟩
      dsimp only
      rw [ids]
      split
      · simp [events, or_comm]
      · exact events ev
  | transition incidentId target actor reason now =>
    obtain ⟨ok', ids⟩ := @MemoryOk.transition cfg w.store ok incidentId target actor reason now
    refine ⟨ok', fun ev => ?_⟩
    change ev ∈ w.processed ↔ ev ∈ (w.store.transition incidentId target actor reason now).evidenceIds
    rw [ids]
    exact events ev

/-- Every state of a run whose ids are new satisfies it. -/
theorem conserved_of_run {w0 w : Correlator} {ls} (init : (correlator cfg).init w0)
    (run : (correlator cfg).Run w0 ls w) (fresh : (correlator cfg).EachStep FreshIds w0 ls) :
    Conserved cfg w := by
  refine run.invariant_of (I := Conserved cfg) fresh ?_ ?_
  · intro u l u' h new st
    cases st
    exact h.step new
  · obtain ⟨store, processed⟩ := init
    refine ⟨?_, ?_⟩
    · rw [store]
      exact memoryOk_empty
    · intro ev
      rw [store, processed]
      simp

/-- Over every run, each processed event is evidence of exactly one incident, once, the aggregates
of every incident are those of its evidence, and a redelivered event leaves the store as it is. -/
theorem evidence_conservation (cfg : ProcessorConfig) {w0 w : Correlator} {ls : List CorrelatorCall}
    (init : (correlator cfg).init w0) (run : (correlator cfg).Run w0 ls w)
    (fresh : (correlator cfg).EachStep FreshIds w0 ls) :
    (∀ ev ∈ w.processed, ∃ id s, w.store.incidents.get? id = some s ∧
      (s.evidence.map (·.eventId)).count ev = 1 ∧
      ∀ id' s', w.store.incidents.get? id' = some s' → ev ∈ s'.evidence.map (·.eventId) → id' = id) ∧
    (∀ id s, w.store.incidents.get? id = some s → Summarizes cfg.severity s.incident s.evidence) ∧
    ∀ signal env, signal.eventId ∈ w.processed → (process cfg signal env w.store).1 = w.store := by
  obtain ⟨ok, events⟩ := conserved_of_run init run fresh
  refine ⟨?_, ok.incidents.summary, ?_⟩
  · intro ev processed
    have seen := (ok.events ev).mp ((events ev).mp processed)
    rw [unseen_iff] at seen
    push Not at seen
    obtain ⟨id, s, found, mem⟩ := seen
    refine ⟨id, s, found, List.count_eq_one_of_mem (ok.incidents.distinct id s found) mem, ?_⟩
    intro id' s' found' mem'
    obtain ⟨e, he, rfl⟩ := List.mem_map.mp mem
    obtain ⟨e', he', same⟩ := List.mem_map.mp mem'
    exact ok.incidents.once id' id s' s e' e found' found he' he same
  · intro signal env processed
    exact process_seen ((events _).mp processed)

/-- An anomaly of a service, over the half minute that ends at a time in seconds. -/
def anomalyOf (service eventId : String) (at' : Int) : AnomalySignal where
  eventId
  detector := "isolation-forest"
  detectorVersion := "1"
  service
  environment := "development"
  windowStart := seconds (at' - 30)
  windowEnd := seconds at'
  anomalyScore := .fin 1
  threshold := .fin (1 / 2)
  signals := .ofList [("error_rate", .fin (1 / 4))]
  abnormalSignals := ["error_rate"]
  traceId := none
  occurredAt := .aware (seconds at')

/-- One anomaly, another one half an hour later that supersedes its incident, and the first one
again. -/
def redelivery : List CorrelatorCall :=
  [.process (anomalyOf "orders-service" "evt-1" 0) fun _ => { token := "1" },
    .process (anomalyOf "orders-service" "evt-2" 1800) fun _ => { token := "2" },
    .process (anomalyOf "orders-service" "evt-1" 0) fun _ => { token := "3" }]

/-- The incidents of that run, by their status and their evidence. -/
lemma redelivery_states : ((correlator {}).exec {} redelivery).map (fun w =>
      (w.processed, w.store.incidents.entries.map fun x =>
        (x.1, x.2.incident.status, x.2.evidence.map (·.eventId)))) =
    some (["evt-1", "evt-2", "evt-1"],
      [("inc_1", .resolved, ["evt-1"]), ("inc_2", .open, ["evt-2"])]) := by
  decide +kernel

/-- In that run the first event is evidence of one incident, once, although it was processed
twice. -/
theorem evidence_conservation_redelivery : ∃ w, (correlator {}).Run {} redelivery w ∧
    w.processed = ["evt-1", "evt-2", "evt-1"] ∧
    ∃ id s, w.store.incidents.get? id = some s ∧ (s.evidence.map (·.eventId)).count "evt-1" = 1 := by
  obtain ⟨w, run, states⟩ := Option.map_eq_some_iff.mp redelivery_states
  have r := Machine.run_iff_exec.mpr run
  have processed : w.processed = ["evt-1", "evt-2", "evt-1"] := congrArg Prod.fst states
  have fresh : (correlator {}).EachStep FreshIds {} redelivery := by
    unfold redelivery
    rw [Machine.eachStep_cons rfl, Machine.eachStep_cons rfl, Machine.eachStep_cons rfl]
    refine ⟨?_, ?_, ?_, ?_⟩
    · rintro _ _ ⟨⟩ _
      rfl
    · rintro _ _ ⟨⟩ _
      dsimp only
      decide +kernel
    · rintro _ _ ⟨⟩ _
      dsimp only
      decide +kernel
    · intro ls1 l ls2 u u' e
      exact absurd e.symm (by simp)
  obtain ⟨conserved, _, _⟩ := evidence_conservation {} ⟨rfl, rfl⟩ r fresh
  obtain ⟨id, s, found, one, _⟩ := conserved "evt-1" (by rw [processed]; simp)
  exact ⟨w, r, processed, id, s, found, one⟩

end SentinelOps.IncidentCorrelator
