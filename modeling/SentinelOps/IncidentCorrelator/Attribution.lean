import SentinelOps.IncidentCorrelator.Conservation
import SentinelOps.IncidentCorrelator.Events

/-!
# Which anomalies an incident is made of

Anomalies are grouped by the text `service:environment`. The machine remembers, for every event in
the evidence, the signal that it came with. `attribution`: as long as no anomaly is appended to an
incident whose service and environment only spell the same text, every evidence row comes from the
service and the environment of its incident; `key_collision` is a run in which one does not.
-/

namespace SentinelOps.IncidentCorrelator

/-- The store, with the signal that each event of the evidence came with. -/
structure AttributedStore where
  store : Store := {}
  origin : Dict String AnomalySignal := .empty

/-- A delivered event or a manual transition. -/
inductive DeliveryCall where
  | deliver (envelope : EventEnvelope) (env : Nat → AttemptEnv)
  | transition (incidentId : String) (target : IncidentStatus) (actor reason : String)
      (now : Instant)

/-- One call. The signal of an event is remembered when its processing adds evidence. -/
def AttributedStore.step (cfg : ProcessorConfig) (fromisoformat : String → Except String Timestamp)
    (w : AttributedStore) : DeliveryCall → AttributedStore
  | .deliver envelope env =>
    match anomalySignalFromEnvelope fromisoformat envelope with
    | .error _ => w
    | .ok signal =>
      let (m', out) := process cfg signal env w.store
      { store := m'
        origin := if out.isOk = true ∧ signal.eventId ∉ w.store.evidenceIds then
            w.origin.set signal.eventId signal
          else w.origin }
  | .transition incidentId target actor reason now =>
    { w with store := w.store.transition incidentId target actor reason now }

/-- The processor over delivered events, from an empty store on. -/
def attributed (cfg : ProcessorConfig) (fromisoformat : String → Except String Timestamp) :
    Machine AttributedStore DeliveryCall where
  init w := w.store = {} ∧ w.origin = .empty
  step w l := some (w.step cfg fromisoformat l)

/-- Every evidence row comes from a signal of the service and the environment of its incident. -/
def Attributed (w : AttributedStore) : Prop :=
  ∀ id s e, w.store.incidents.get? id = some s → e ∈ s.evidence →
    ∃ signal, w.origin.get? e.eventId = some signal ∧ signal.service = s.incident.service ∧
      signal.environment = s.incident.environment

/-- A new anomaly within the correlation window of an active incident with its key is of the
incident's service and environment. -/
def SameOrigin (cfg : ProcessorConfig) (fromisoformat : String → Except String Timestamp)
    (w : AttributedStore) (l : DeliveryCall) (_ : AttributedStore) : Prop :=
  ∀ envelope env signal a, l = .deliver envelope env →
    anomalySignalFromEnvelope fromisoformat envelope = .ok signal →
    signal.eventId ∉ w.store.evidenceIds →
    w.store.lockActiveIncident signal.key = some a →
    Recent cfg.correlation signal a →
    signal.service = a.service ∧ signal.environment = a.environment

/-- A list is cut at the first occurrence of an element in one way. -/
lemma cut_at_first {α : Type} {x : α} {l m : List α} (hl : x ∉ l) (hm : x ∉ m) {l' m' : List α}
    (h : l ++ x :: l' = m ++ x :: m') : l = m ∧ l' = m' := by
  induction l generalizing m with
  | nil =>
    cases m with
    | nil => exact ⟨rfl, List.tail_eq_of_cons_eq h⟩
    | cons y m =>
      have e := List.head_eq_of_cons_eq h
      exact absurd (e ▸ List.mem_cons_self) hm
  | cons y l ih =>
    cases m with
    | nil =>
      have e := List.head_eq_of_cons_eq h
      exact absurd (e ▸ List.mem_cons_self) hl
    | cons z m =>
      have e := List.head_eq_of_cons_eq h
      have tails := ih (fun mem => hl (List.mem_cons_of_mem _ mem))
        (fun mem => hm (List.mem_cons_of_mem _ mem)) (List.tail_eq_of_cons_eq h)
      exact ⟨by rw [e, tails.1], tails.2⟩

/-- The text of a key can be read in one way when environments have no colon. -/
lemma correlationKey_injective {a b c d : String} (h : correlationKey a b = correlationKey c d)
    (hb : ':' ∉ b.toList) (hd : ':' ∉ d.toList) : a = c ∧ b = d := by
  have texts : a.toList ++ ':' :: b.toList = c.toList ++ ':' :: d.toList := by
    have e : (a ++ ":" ++ b).toList = (c ++ ":" ++ d).toList := congrArg String.toList h
    simpa using e
  have reversed : b.toList.reverse ++ ':' :: a.toList.reverse =
      d.toList.reverse ++ ':' :: c.toList.reverse := by
    simpa using congrArg List.reverse texts
  obtain ⟨e, e'⟩ := cut_at_first (by simpa using hb) (by simpa using hd) reversed
  exact ⟨String.toList_injective (List.reverse_injective e'),
    String.toList_injective (List.reverse_injective e)⟩

variable {cfg : ProcessorConfig} {fromisoformat : String → Except String Timestamp}

/-- What holds of every state, whatever the anomalies are: the keys are in order, and the store knows
the events of its evidence. -/
structure KnownOk (m : Store) : Prop where
  keys : KeysOk m.incidents
  known : ∀ id ev, Evident m.incidents id ev → ev ∈ m.evidenceIds

/-- The writes for an anomaly add no other event. -/
lemma Writes.evident_inv {scfg signal env} {d d' : Incidents} (h : Writes scfg signal env d d')
    {id ev} (there : Evident d' id ev) : (∃ id, Evident d id ev) ∨ ev = signal.eventId := by
  have opens : ∀ {d reason}, Evident (d.set (newIncidentId env.token)
      (openedIncident scfg signal reason env)) id ev → Evident d id ev ∨ ev = signal.eventId := by
    intro d reason there
    rcases evident_set.mp there with ⟨_, mem⟩ | ⟨_, old⟩
    · exact .inr (by simpa [openedIncident, evidenceOf] using mem)
    · exact .inl old
  cases h with
  | opened _ =>
    rcases opens there with old | new
    · exact .inl ⟨id, old⟩
    · exact .inr new
  | @appended id' s reason found _ _ =>
    rcases evident_set.mp there with ⟨_, mem⟩ | ⟨_, old⟩
    · rw [StoredIncident.absorbed, List.map_append] at mem
      rcases List.mem_append.mp mem with old | new
      · exact .inl ⟨id', s, found, old⟩
      · exact .inr (by simpa [evidenceOf] using new)
    · exact .inl ⟨id, old⟩
  | @superseded id' s reason found _ _ =>
    rcases opens there with old | new
    · rcases evident_set.mp old with ⟨_, mem⟩ | ⟨_, old⟩
      · exact .inl ⟨id', s, found, mem⟩
      · exact .inl ⟨id, old⟩
    · exact .inr new

/-- A manual transition leaves an incident with its evidence, its service and its environment. -/
lemma transition_get {m : Store} {incidentId target actor reason now id s'}
    (h : (m.transition incidentId target actor reason now).incidents.get? id = some s') :
    ∃ s, m.incidents.get? id = some s ∧ s'.evidence = s.evidence ∧
      s'.incident.service = s.incident.service ∧ s'.incident.environment = s.incident.environment := by
  rcases @Store.transition_cases m incidentId target actor reason now with
    same | ⟨s, found, _, moved⟩
  · rw [same] at h
    exact ⟨s', h, rfl, rfl, rfl⟩
  · rw [moved] at h
    rcases get?_set_cases h with ⟨rfl, rfl⟩ | ⟨_, old⟩
    · exact ⟨s, found, rfl, rfl, rfl⟩
    · exact ⟨s', old, rfl, rfl, rfl⟩

/-- A manual transition keeps the keys in order. -/
lemma KeysOk.transition {m : Store} (h : KeysOk m.incidents) {incidentId target actor reason now} :
    KeysOk (m.transition incidentId target actor reason now).incidents := by
  rcases @Store.transition_cases m incidentId target actor reason now with
    same | ⟨s, found, active, moved⟩
  · rw [same]
    exact h
  · rw [moved]
    apply h.set
    · exact h.keyed _ s found
    · intro _ id' x hx ne key
      exact h.only found active hx ne key

/-- Every call keeps what holds of every state. -/
lemma KnownOk.step {w : AttributedStore} (h : KnownOk w.store) {l} :
    KnownOk (w.step cfg fromisoformat l).store := by
  cases l with
  | transition incidentId target actor reason now =>
    refine ⟨h.keys.transition, ?_⟩
    rintro id ev ⟨s', found, mem⟩
    obtain ⟨s, old, evidence, _⟩ := transition_get found
    have same : (w.store.transition incidentId target actor reason now).evidenceIds =
        w.store.evidenceIds := by
      rcases @Store.transition_cases w.store incidentId target actor reason now with
        same | ⟨_, _, _, moved⟩
      · rw [same]
      · rw [moved]
        rfl
    change ev ∈ (w.store.transition incidentId target actor reason now).evidenceIds
    rw [same]
    exact h.known id ev ⟨s, old, evidence ▸ mem⟩
  | deliver envelope env =>
    unfold AttributedStore.step
    dsimp only
    split
    · exact h
    · rename_i signal valid
      cases e : process cfg signal env w.store with
      | mk m' out =>
        rcases process_writes h.keys e with ⟨rfl, _⟩ | ⟨_, writes, ids, _⟩
        · exact h
        · refine ⟨h.keys.writes writes, ?_⟩
          intro id ev there
          dsimp only
          rw [ids, Finset.mem_insert]
          rcases writes.evident_inv there with ⟨id', old⟩ | new
          · exact .inr (h.known id' ev old)
          · exact .inl new

/-- A call that meets the condition keeps every evidence row with its incident. -/
lemma Attributed.step {w : AttributedStore} (h : Attributed w) (known : KnownOk w.store) {l}
    (same : SameOrigin cfg fromisoformat w l (w.step cfg fromisoformat l)) :
    Attributed (w.step cfg fromisoformat l) := by
  cases l with
  | transition incidentId target actor reason now =>
    intro id s' e found he
    obtain ⟨s, old, evidence, service, environment⟩ := transition_get found
    rw [service, environment]
    exact h id s e old (evidence ▸ he)
  | deliver envelope env =>
    unfold AttributedStore.step
    dsimp only
    split
    · exact h
    · rename_i signal valid
      cases e : process cfg signal env w.store with
      | mk m' out =>
        rcases process_carries known.keys e with ⟨rfl, seen⟩ | ⟨unseen, ok, _, current, carried, _⟩
        · dsimp only
          rw [if_neg fun both => both.2 (seen both.1)]
          exact h
        · dsimp only
          rw [if_pos ⟨ok, unseen⟩]
          -- the rows that were there come from other events
          have old : ∀ id s e, w.store.incidents.get? id = some s → e ∈ s.evidence →
              ∃ signal', (w.origin.set signal.eventId signal).get? e.eventId = some signal' ∧
                signal'.service = s.incident.service ∧
                signal'.environment = s.incident.environment := by
            intro id s e found he
            have ne : e.eventId ≠ signal.eventId := by
              intro same
              exact unseen (same ▸ known.known id _ ⟨s, found, List.mem_map_of_mem he⟩)
            rw [Dict.get?_set_ne ne]
            exact h id s e found he
          have new : ∀ {reason}, (w.origin.set signal.eventId signal).get?
              (evidenceOf signal reason).eventId = some signal := Dict.get?_set_self
          -- a new incident has the evidence that opens it and no other
          have opens : ∀ {d : Incidents} {reason}, (∀ id s e, d.get? id = some s → e ∈ s.evidence →
              ∃ signal', (w.origin.set signal.eventId signal).get? e.eventId = some signal' ∧
                signal'.service = s.incident.service ∧
                signal'.environment = s.incident.environment) →
              ∀ id s e, (d.set (newIncidentId (env 1).token)
                (openedIncident cfg.severity signal reason (env 1))).get? id = some s →
                e ∈ s.evidence →
                ∃ signal', (w.origin.set signal.eventId signal).get? e.eventId = some signal' ∧
                  signal'.service = s.incident.service ∧
                  signal'.environment = s.incident.environment := by
            intro d reason old id s e found he
            rcases get?_set_cases found with ⟨_, rfl⟩ | ⟨_, found⟩
            · rw [List.mem_singleton.mp he]
              exact ⟨signal, new, rfl, rfl⟩
            · exact old id s e found he
          intro id x row found he
          obtain ⟨incidents, evidenceIds, relations⟩ := m'
          dsimp only at found carried
          cases carried with
          | opened _ => exact opens old id x row found he
          | @appended s reason locked there _ _ recent =>
            rcases get?_set_cases found with ⟨_, rfl⟩ | ⟨_, found⟩
            · rcases List.mem_append.mp he with before | mine
              · exact old _ s row there before
              · rw [List.mem_singleton.mp mine]
                obtain ⟨service, environment⟩ :=
                  same envelope env signal s.incident rfl valid unseen locked recent
                exact ⟨signal, new, service, environment⟩
            · exact old id x row found he
          | @superseded s reason there _ _ =>
            refine opens ?_ id x row found he
            intro id x row found he
            rcases get?_set_cases found with ⟨_, rfl⟩ | ⟨_, found⟩
            · exact old _ s row there he
            · exact old id x row found he

/-- The environment of a delivered payload has no colon. -/
def PlainEnvironment (_ : AttributedStore) (l : DeliveryCall) (_ : AttributedStore) : Prop :=
  ∀ envelope env payload, l = .deliver envelope env → envelope.payload = .ok payload →
    ':' ∉ payload.environment.toList

/-- Every incident has the key of its service and its environment, which has no colon. -/
def PlainKeys (d : Incidents) : Prop :=
  ∀ id s, d.get? id = some s →
    s.incident.correlationKey = correlationKey s.incident.service s.incident.environment ∧
      ':' ∉ s.incident.environment.toList

/-- The writes for an anomaly of an environment without a colon keep the keys plain. -/
lemma PlainKeys.writes {scfg signal env} {d d' : Incidents} (h : PlainKeys d)
    (w : Writes scfg signal env d d') (plain : ':' ∉ signal.environment.toList) : PlainKeys d' := by
  intro id x found
  cases w with
  | opened _ =>
    rcases get?_set_cases found with ⟨_, rfl⟩ | ⟨_, found⟩
    · exact ⟨rfl, plain⟩
    · exact h id x found
  | @appended id' s reason there _ _ =>
    rcases get?_set_cases found with ⟨_, rfl⟩ | ⟨_, found⟩
    · exact h id' s there
    · exact h id x found
  | @superseded id' s reason there _ _ =>
    rcases get?_set_cases found with ⟨_, rfl⟩ | ⟨_, found⟩
    · exact ⟨rfl, plain⟩
    · rcases get?_set_cases found with ⟨_, rfl⟩ | ⟨_, found⟩
      · exact h id' s there
      · exact h id x found

/-- A call whose payload is of an environment without a colon keeps the keys plain. -/
lemma PlainKeys.step {w : AttributedStore} (h : PlainKeys w.store.incidents) (known : KnownOk w.store)
    {l} (plain : PlainEnvironment w l (w.step cfg fromisoformat l)) :
    PlainKeys (w.step cfg fromisoformat l).store.incidents := by
  cases l with
  | transition incidentId target actor reason now =>
    intro id s' found
    change (w.store.transition incidentId target actor reason now).incidents.get? id = _ at found
    rcases @Store.transition_cases w.store incidentId target actor reason now with
      same | ⟨s, there, _, moved⟩
    · rw [same] at found
      exact h id s' found
    · rw [moved] at found
      rcases get?_set_cases found with ⟨_, rfl⟩ | ⟨_, old⟩
      · exact h incidentId s there
      · exact h id s' old
  | deliver envelope env =>
    unfold AttributedStore.step
    dsimp only
    split
    · exact h
    · rename_i signal valid
      obtain ⟨_, payload, valid', _, environment⟩ := anomalySignalFromEnvelope_ok valid
      cases e : process cfg signal env w.store with
      | mk m' out =>
        rcases process_writes known.keys e with ⟨rfl, _⟩ | ⟨_, writes, _⟩
        · exact h
        · refine h.writes writes ?_
          rw [environment]
          exact plain envelope env payload rfl valid'

/-- Where no environment has a colon, every evidence row comes from the service and the environment
of its incident. -/
theorem attribution_of_plain_environments {w0 w : AttributedStore} {ls : List DeliveryCall}
    (init : (attributed cfg fromisoformat).init w0)
    (run : (attributed cfg fromisoformat).Run w0 ls w)
    (plain : (attributed cfg fromisoformat).EachStep PlainEnvironment w0 ls) : Attributed w := by
  have both : ((KnownOk w.store ∧ PlainKeys w.store.incidents) ∧ Attributed w) := by
    refine run.invariant_of
      (I := fun w => (KnownOk w.store ∧ PlainKeys w.store.incidents) ∧ Attributed w) plain ?_ ?_
    · rintro u l u' ⟨⟨known, keys⟩, attr⟩ step st
      cases st
      refine ⟨⟨known.step, keys.step known step⟩, attr.step known ?_⟩
      rintro envelope env signal a rfl valid _ locked _
      obtain ⟨s, found, rfl, key, _⟩ := lockActiveIncident_some known.keys.keyed locked
      obtain ⟨_, payload, valid', _, environment⟩ := anomalySignalFromEnvelope_ok valid
      obtain ⟨own, clear⟩ := keys _ s found
      refine correlationKey_injective (key.symm.trans own) ?_ clear
      rw [environment]
      exact step envelope env payload rfl valid'
    · obtain ⟨store, origin⟩ := w0
      obtain ⟨rfl, rfl⟩ := init
      refine ⟨⟨⟨(@memoryOk_empty cfg.severity).incidents.keys, ?_⟩, ?_⟩, ?_⟩
      · rintro id ev ⟨s, found, _⟩
        cases found
      · intro id s found
        cases found
      · intro id s e found
        cases found
  exact both.2

/-- An anomaly of a service and an environment. -/
def anomalyEventOf (eventId service environment : String) : EventEnvelope where
  eventId
  eventType := "anomaly.detected"
  eventVersion := 1
  occurredAt := .aware 0
  payload := .ok {
    detector := "isolation-forest"
    detectorVersion := "1"
    service
    environment
    windowStart := "1970-01-01T00:00:00Z"
    windowEnd := "1970-01-01T00:00:00Z"
    anomalyScore := .fin 1
    threshold := .fin (1 / 2)
    isAnomaly := true
    signals := .empty }

/-- Two anomalies whose services and environments spell the same key. -/
def keyCollision : List DeliveryCall :=
  [.deliver (anomalyEventOf "evt-1" "orders:eu" "production") fun _ => { token := "1" },
    .deliver (anomalyEventOf "evt-2" "orders" "eu:production") fun _ => { token := "2" }]

/-- The incident of that run, and where its second row comes from. -/
lemma keyCollision_state : ((attributed {} fun _ => .ok (.aware 0)).exec {} keyCollision).map
      (fun w => ((w.store.incidents.get? "inc_1").map fun s =>
        (s.incident.service, s.evidence.map (·.eventId)),
        (w.origin.get? "evt-2").map (·.service))) =
    some (some ("orders:eu", ["evt-1", "evt-2"]), some "orders") := by
  decide +kernel

end SentinelOps.IncidentCorrelator
