import SentinelOps.IncidentCorrelator.Window

/-!
# The order of anomalies within one window

Anomalies of one service and environment that are all dated within the window of all the others
become one incident, whatever the order they are processed in. Its evidence is then the same up to
the order, so its aggregates, its severity and its title are the same (`order_independent`).
-/

namespace SentinelOps.IncidentCorrelator

/-- Anomalies of one service and environment with distinct events, the latest of which is dated
within the correlation window of the earliest end of a window. -/
structure OneWindow (cfg : CorrelationConfig) (signals : List AnomalySignal) : Prop where
  nonempty : signals ≠ []
  service : ∀ s ∈ signals, ∀ s' ∈ signals, s.service = s'.service
  environment : ∀ s ∈ signals, ∀ s' ∈ signals, s.environment = s'.environment
  distinct : (signals.map (·.eventId)).Nodup
  aware : ∀ s ∈ signals, ∃ t, s.occurredAt = .aware t
  window : ∃ latest earliest, IsGreatest {t | ∃ s ∈ signals, s.occurredAt = .aware t} latest ∧
    IsLeast {t | ∃ s ∈ signals, s.windowEnd = t} earliest ∧ Reaches cfg earliest latest

/-- The processor over some anomalies in turn, each with what its attempts draw from outside. -/
def processAll (cfg : ProcessorConfig) (m : Store)
    (calls : List (AnomalySignal × (Nat → AttemptEnv))) : Store :=
  calls.foldl (fun m call => (process cfg call.1 call.2 m).1) m

/-- Two incidents give the same account of what happened. -/
structure SameAccount (i j : Incident) : Prop where
  startedAt : i.startedAt = j.startedAt
  lastEvidenceAt : i.lastEvidenceAt = j.lastEvidenceAt
  maxAnomalyScore : i.maxAnomalyScore = j.maxAnomalyScore
  maxErrorRate : i.maxErrorRate = j.maxErrorRate
  maxLatencyP95Ms : i.maxLatencyP95Ms = j.maxLatencyP95Ms
  anomalyCount : i.anomalyCount = j.anomalyCount
  abnormalSignalNames : i.abnormalSignalNames = j.abnormalSignalNames
  severity : i.severity = j.severity
  severityReasons : i.severityReasons = j.severityReasons
  title : i.title = j.title

/-- A store holds one incident, which is active and made of some anomalies. -/
structure OnlyIncident (cfg : SeverityConfig) (m : Store) (done : List AnomalySignal)
    (s : StoredIncident) : Prop where
  only : m.incidents = Dict.empty.set s.incident.id s
  active : s.incident.isActive = true
  own : ∀ signal ∈ done, s.incident.correlationKey = signal.key ∧
    s.incident.service = signal.service ∧ s.incident.environment = signal.environment
  events : ∀ ev, ev ∈ m.evidenceIds ↔ ev ∈ done.map (·.eventId)
  evidence : List.Forall₂ (fun signal e => ∃ reason, e = evidenceOf signal reason) done s.evidence
  summary : Summarizes cfg s.incident s.evidence
  assessed : reassess cfg s.incident = s.incident

variable {cfg : ProcessorConfig} {signal : AnomalySignal} {m m' : Store} {s : StoredIncident}
  {done : List AnomalySignal}

/-- `process` returns what its first unit of work has staged and committed. -/
lemma process_of_staged {env : Nat → AttemptEnv} {ws out} (retries : 0 < cfg.maxRetries)
    (staged : unitOfWork cfg signal (env 1) m = .ok (ws, out)) (done : m.commit ws = (m', .ok ())) :
    process cfg signal env m = (m', .ok out) := by
  obtain ⟨n, hn⟩ : ∃ n, cfg.maxRetries.toNat = n + 1 :=
    ⟨cfg.maxRetries.toNat - 1, by omega⟩
  have once : processOnce cfg signal (env 1) m = (m', .ok out) := by
    rw [processOnce_of_staged staged, done]
    rfl
  unfold process
  rw [hn, processFrom, once]

/-- An incident is linked to none when there is no other one. -/
lemma linksOf_only {tcfg : TopologyConfig} {current : Incident} {now} {d : Incidents}
    (only : ∀ s ∈ d.values, s.incident.id = current.id) : linksOf tcfg current now d = .ok [] := by
  have none_linked {others : List Incident} (own : ∀ o ∈ others, o.id = current.id) :
      ∃ links, others.mapM (linkOf tcfg current now) = .ok links ∧ links.filterMap id = [] := by
    induction others with
    | nil => exact ⟨[], rfl, rfl⟩
    | cons o others ih =>
      obtain ⟨links, found, none'⟩ := ih fun o' member => own o' (List.mem_cons_of_mem _ member)
      have first : linkOf tcfg current now o = .ok none := by
        unfold linkOf
        rw [if_pos (own o List.mem_cons_self)]
        rfl
      refine ⟨none :: links, ?_, none'⟩
      rw [List.mapM_cons, first, Except.ok_bind, found]
      rfl
  unfold linksOf linkWrites
  dsimp only
  split
  · rfl
  · obtain ⟨links, found, none'⟩ := @none_linked
      (d.activeIn (relatedServices current.service tcfg.dependencyGraph) current.environment) (by
        intro o member
        obtain ⟨s, there, rfl⟩ := List.mem_map.mp member
        exact only s (List.mem_filter.mp there).1)
    rw [found, Except.ok_bind, none']
    rfl

/-- A unit of work that finds the event new, can plan and has nothing to link. -/
lemma unitOfWork_of_plan {env p} (unseen : signal.eventId ∉ m.evidenceIds)
    (planned : plan cfg signal (m.lockActiveIncident signal.key) env = .ok p)
    (linked : linksOf cfg.topology p.current env.linkedNow m.incidents = .ok []) :
    unitOfWork cfg signal env m = .ok (p.writes, p.outcome) := by
  unfold linksOf at linked
  unfold unitOfWork
  rw [if_neg unseen, planned, Except.ok_bind]
  dsimp only at linked ⊢
  split
  · rfl
  · rename_i some'
    rw [if_neg some'] at linked
    rw [linked, Except.ok_bind, List.append_nil]
    rfl

/-- The first anomaly opens the incident. -/
lemma process_first {env : Nat → AttemptEnv} (retries : 0 < cfg.maxRetries) :
    ∃ s, OnlyIncident cfg.severity (process cfg signal env {}).1 [signal] s := by
  have staged := @unitOfWork_of_plan cfg signal {} (env 1) _ (by simp) rfl
    (linksOf_only (by rintro s ⟨⟩))
  have free : NoneActive ({} : Store).incidents signal.key := by
    rintro id s ⟨⟩
  rw [process_of_staged retries staged (commit_open free)]
  refine ⟨openedIncident cfg.severity signal "no active incident for this service" (env 1), ?_⟩
  constructor
  · rfl
  · rfl
  · intro signal' member
    rw [List.mem_singleton.mp member]
    exact ⟨rfl, rfl, rfl⟩
  · simp
  · exact .cons ⟨_, rfl⟩ .nil
  · exact .new
  · rfl

/-- A further anomaly within the window joins the incident. -/
lemma OnlyIncident.process (h : OnlyIncident cfg.severity m done s) (env : Nat → AttemptEnv)
    (retries : 0 < cfg.maxRetries) (unseen : signal.eventId ∉ done.map (·.eventId))
    (own : s.incident.correlationKey = signal.key ∧ s.incident.service = signal.service ∧
      s.incident.environment = signal.environment)
    (recent : Recent cfg.correlation signal s.incident) :
    ∃ s', OnlyIncident cfg.severity (IncidentCorrelator.process cfg signal env m).1
      (done ++ [signal]) s' := by
  have locked : m.lockActiveIncident signal.key = some s.incident := by
    unfold Store.lockActiveIncident Incidents.activeOf
    rw [h.only]
    simp [Dict.values, Dict.empty, Dict.assign, own.1, h.active]
  have found : m.incidents.get? s.incident.id = some s := by
    rw [h.only]
    exact Dict.get?_set_self
  obtain ⟨reason, decided⟩ := decide_append_iff.mpr recent
  have planned : plan cfg signal (m.lockActiveIncident signal.key) (env 1) =
      .ok ⟨[.updateIncident (absorb cfg.severity s.incident signal (env 1).absorbedNow),
          .addEvidence s.incident.id (evidenceOf signal reason)],
        absorb cfg.severity s.incident signal (env 1).absorbedNow,
        ⟨.appended, some s.incident.id, reason⟩⟩ := by
    rw [locked]
    unfold plan
    rw [decided]
    rfl
  have linked : linksOf cfg.topology (absorb cfg.severity s.incident signal (env 1).absorbedNow)
      (env 1).linkedNow m.incidents = .ok [] := by
    apply linksOf_only
    rw [h.only]
    intro s' member
    cases List.mem_singleton.mp member
    rfl
  have staged := unitOfWork_of_plan (by rwa [h.events]) planned linked
  rw [process_of_staged retries staged (commit_append_evidence found)]
  refine ⟨s.absorbed cfg.severity signal reason (env 1), ?_⟩
  constructor
  · dsimp only
    rw [h.only, Dict.set_set]
    rfl
  · exact h.active
  · intro signal' member
    rcases List.mem_append.mp member with old | new
    · exact h.own signal' old
    · rw [List.mem_singleton.mp new]
      exact own
  · intro ev
    simp [h.events, or_comm]
  · exact List.rel_append h.evidence (.cons ⟨reason, rfl⟩ .nil)
  · exact h.summary.absorb
  · rfl

/-- What the evidence says is what the anomalies say. -/
lemma OnlyIncident.map_evidence {scfg} (h : OnlyIncident scfg m done s) {α : Type}
    {g : EvidenceRecord → α} {f : AnomalySignal → α}
    (same : ∀ signal reason, g (evidenceOf signal reason) = f signal) :
    s.evidence.map g = done.map f := by
  have rows := h.evidence
  generalize s.evidence = evidence at rows
  clear h
  induction rows with
  | nil => rfl
  | cons head _ ih =>
    obtain ⟨reason, rfl⟩ := head
    rw [List.map_cons, List.map_cons, ih, same]

/-- The last evidence is the end of the window of one of the anomalies. -/
lemma OnlyIncident.last {scfg} (h : OnlyIncident scfg m done s) :
    ∃ signal ∈ done, signal.windowEnd = s.incident.lastEvidenceAt := by
  obtain ⟨e, member, last⟩ := h.summary.last.1
  have ends : s.evidence.map (·.windowEnd) = done.map (·.windowEnd) := h.map_evidence fun _ _ => rfl
  have there : s.incident.lastEvidenceAt ∈ s.evidence.map (·.windowEnd) :=
    List.mem_map.mpr ⟨e, member, last⟩
  rw [ends] at there
  exact List.mem_map.mp there

/-- In one window, every anomaly is dated within the window of an incident of the others. -/
lemma OneWindow.recent {signals} (window : OneWindow cfg.correlation signals) {scfg}
    (h : OnlyIncident scfg m done s) (part : done ⊆ signals) (member : signal ∈ signals) :
    Recent cfg.correlation signal s.incident := by
  obtain ⟨latest, earliest, late, early, near⟩ := window.window
  obtain ⟨t, dated⟩ := window.aware signal member
  obtain ⟨other, there, last⟩ := h.last
  have upper : t ≤ latest := late.2 ⟨signal, member, dated⟩
  have lower : earliest ≤ s.incident.lastEvidenceAt := early.2 ⟨other, part there, last⟩
  refine ⟨t - s.incident.lastEvidenceAt, ?_, near.mono (sub_le_sub upper lower)⟩
  unfold timeSince
  rw [dated]

/-- The processor over further anomalies of the window. -/
lemma OnlyIncident.processAll {signals} (retries : 0 < cfg.maxRetries)
    (window : OneWindow cfg.correlation signals) {calls}
    (h : OnlyIncident cfg.severity m done s)
    (all : (done ++ calls.map (·.1)).Perm signals) :
    ∃ s', OnlyIncident cfg.severity (IncidentCorrelator.processAll cfg m calls)
      (done ++ calls.map (·.1)) s' := by
  induction calls generalizing m done s with
  | nil =>
    rw [List.map_nil, List.append_nil]
    exact ⟨s, h⟩
  | cons call calls ih =>
    have part : done ++ [call.1] ⊆ signals := by
      intro x hx
      refine all.subset ?_
      simp only [List.mem_append, List.map_cons, List.mem_cons] at hx ⊢
      tauto
    have member : call.1 ∈ signals := part (by simp)
    have unseen : call.1.eventId ∉ done.map (·.eventId) := by
      have distinct := (all.map (·.eventId)).nodup_iff.mpr window.distinct
      rw [List.map_append, List.nodup_append] at distinct
      intro seen
      exact distinct.2.2 _ seen call.1.eventId (by simp) rfl
    have part' : done ⊆ signals := fun x hx => part (List.mem_append_left _ hx)
    obtain ⟨other, there, _⟩ := h.last
    obtain ⟨key, service, environment⟩ := h.own other there
    have service' := window.service other (part' there) call.1 member
    have environment' := window.environment other (part' there) call.1 member
    have own : s.incident.correlationKey = call.1.key ∧ s.incident.service = call.1.service ∧
        s.incident.environment = call.1.environment := by
      refine ⟨?_, service.trans service', environment.trans environment'⟩
      rw [key]
      unfold AnomalySignal.key
      rw [service', environment']
    obtain ⟨s', h'⟩ := h.process call.2 retries unseen own (window.recent h part' member)
    have rest : (done ++ [call.1] ++ calls.map (·.1)).Perm signals := by
      rwa [List.append_assoc]
    obtain ⟨s'', h''⟩ := ih h' rest
    rw [List.append_assoc] at h''
    exact ⟨s'', h''⟩

/-- Incidents of the same anomalies give the same account, whatever the order. -/
lemma OnlyIncident.sameAccount {scfg m' done' s'} (h : OnlyIncident scfg m done s)
    (h' : OnlyIncident scfg m' done' s') (perm : done.Perm done')
    (service : s.incident.service = s'.incident.service)
    (environment : s.incident.environment = s'.incident.environment) :
    SameAccount s.incident s'.incident := by
  -- a projection of the evidence has the same values in both
  have values {α : Type} {g : EvidenceRecord → α} {f : AnomalySignal → α}
      (same : ∀ signal reason, g (evidenceOf signal reason) = f signal) (x : α) :
      x ∈ s.evidence.map g ↔ x ∈ s'.evidence.map g := by
    rw [h.map_evidence same, h'.map_evidence same]
    exact (perm.map f).mem_iff
  have sets {g : EvidenceRecord → Instant} {f : AnomalySignal → Instant}
      (same : ∀ signal reason, g (evidenceOf signal reason) = f signal) :
      {t | ∃ e ∈ s.evidence, g e = t} = {t | ∃ e ∈ s'.evidence, g e = t} := by
    ext t
    have := values same t
    rwa [List.mem_map, List.mem_map] at this
  have maxima {g : EvidenceRecord → PyFloat} {f : AnomalySignal → PyFloat}
      (same : ∀ signal reason, g (evidenceOf signal reason) = f signal) :
      PyFloat.maximum (.fin 0) (s.evidence.map g) = PyFloat.maximum (.fin 0) (s'.evidence.map g) :=
    PyFloat.maximum_congr (by simp) (values same)
  have started : s.incident.startedAt = s'.incident.startedAt := by
    have low := h.summary.started
    rw [sets (f := (·.windowStart)) fun _ _ => rfl] at low
    exact low.unique h'.summary.started
  have last : s.incident.lastEvidenceAt = s'.incident.lastEvidenceAt := by
    have high := h.summary.last
    rw [sets (f := (·.windowEnd)) fun _ _ => rfl] at high
    exact high.unique h'.summary.last
  have score : s.incident.maxAnomalyScore = s'.incident.maxAnomalyScore := by
    rw [h.summary.score, h'.summary.score]
    exact maxima (f := (·.anomalyScore)) fun _ _ => rfl
  have errorRate : s.incident.maxErrorRate = s'.incident.maxErrorRate := by
    rw [h.summary.errorRate, h'.summary.errorRate]
    exact maxima (f := fun signal => signalOf signal.signals "error_rate") fun _ _ => rfl
  have latency : s.incident.maxLatencyP95Ms = s'.incident.maxLatencyP95Ms := by
    rw [h.summary.latency, h'.summary.latency]
    exact maxima (f := fun signal => signalOf signal.signals "latency_p95_ms") fun _ _ => rfl
  have count : s.incident.anomalyCount = s'.incident.anomalyCount := by
    rw [h.summary.count, h'.summary.count, ← h.evidence.length_eq, ← h'.evidence.length_eq]
    exact perm.length_eq
  have names : s.incident.abnormalSignalNames = s'.incident.abnormalSignalNames := by
    rw [h.summary.names, h'.summary.names]
    apply Py.sortedSet_congr
    intro name
    have lists := values (g := (·.abnormalSignals)) (f := (·.abnormalSignals)) fun _ _ => rfl
    rw [List.flatMap_def, List.flatMap_def, List.mem_flatten, List.mem_flatten]
    simp only [lists]
  have inputs : s.incident.severityInputs = s'.incident.severityInputs := by
    unfold Incident.severityInputs Incident.distinctAbnormalSignals Incident.durationSeconds
    rw [started, last, score, errorRate, latency, count, names]
  have verdicts := h.summary.verdict
  rw [inputs, ← h'.summary.verdict] at verdicts
  obtain ⟨severity, reasons⟩ := SeverityVerdict.mk.inj verdicts
  have title : s.incident.title = s'.incident.title := by
    rw [← h.assessed, ← h'.assessed]
    unfold reassess
    dsimp only
    rw [inputs, names, service, environment]
  exact ⟨started, last, score, errorRate, latency, count, names, severity, reasons, title⟩

/-- The anomalies of one window become one incident. -/
lemma OneWindow.only {signals} (retries : 0 < cfg.maxRetries)
    (window : OneWindow cfg.correlation signals)
    {calls : List (AnomalySignal × (Nat → AttemptEnv))}
    (perm : (calls.map (·.1)).Perm signals) :
    ∃ s, OnlyIncident cfg.severity (processAll cfg {} calls) (calls.map (·.1)) s := by
  cases calls with
  | nil => exact absurd perm.symm.eq_nil window.nonempty
  | cons call calls =>
    obtain ⟨s, first⟩ := @process_first cfg call.1 call.2 retries
    exact first.processAll retries window perm

/-- In one window, the processing of the anomalies yields one incident whose account of them does not
depend on their order. -/
theorem order_independent {signals : List AnomalySignal} (retries : 0 < cfg.maxRetries)
    (window : OneWindow cfg.correlation signals)
    {calls calls' : List (AnomalySignal × (Nat → AttemptEnv))}
    (perm : (calls.map (·.1)).Perm signals) (perm' : (calls'.map (·.1)).Perm signals) :
    ∃ s s', (processAll cfg {} calls).incidents.values = [s] ∧
      (processAll cfg {} calls').incidents.values = [s'] ∧
      (s.evidence.map (·.eventId)).Perm (signals.map (·.eventId)) ∧
      (s'.evidence.map (·.eventId)).Perm (signals.map (·.eventId)) ∧
      SameAccount s.incident s'.incident := by
  obtain ⟨s, h⟩ := window.only retries perm
  obtain ⟨s', h'⟩ := window.only retries perm'
  have events {m done s} (h : OnlyIncident cfg.severity m done s) :
      s.evidence.map (·.eventId) = done.map (·.eventId) := h.map_evidence fun _ _ => rfl
  refine ⟨s, s', ?_, ?_, ?_, ?_, ?_⟩
  · rw [h.only]
    rfl
  · rw [h'.only]
    rfl
  · rw [events h]
    exact perm.map _
  · rw [events h']
    exact perm'.map _
  · have both := perm.trans perm'.symm
    obtain ⟨signal, there, _⟩ := h.last
    obtain ⟨_, service, environment⟩ := h.own signal there
    obtain ⟨_, service', environment'⟩ := h'.own signal (both.subset there)
    exact h.sameAccount h' both (service.trans service'.symm) (environment.trans environment'.symm)

/-- Two anomalies a minute apart lie in one window. -/
lemma oneWindow_minute : OneWindow {}
    [anomalyOf "orders-service" "evt-1" 0, anomalyOf "orders-service" "evt-2" 60] where
  nonempty := by simp
  service := by simp [anomalyOf]
  environment := by simp [anomalyOf]
  distinct := by simp [anomalyOf]
  aware := by simp [anomalyOf]
  window := by
    refine ⟨seconds 60, seconds 0, ⟨⟨anomalyOf "orders-service" "evt-2" 60, by simp, rfl⟩, ?_⟩,
      ⟨⟨_, List.mem_cons_self, rfl⟩, ?_⟩, ?_⟩
    · rintro t ⟨s, member, dated⟩
      simp only [List.mem_cons, List.not_mem_nil, or_false] at member
      obtain rfl | rfl := member
      · cases dated
        decide
      · cases dated
        exact le_rfl
    · rintro t ⟨s, member, ends⟩
      simp only [List.mem_cons, List.not_mem_nil, or_false] at member
      obtain rfl | rfl := member
      · exact ends.le
      · rw [← ends]
        decide
    · unfold Reaches
      decide +kernel

/-- The two anomalies in the order of their times. -/
def inOrder : List (AnomalySignal × (Nat → AttemptEnv)) :=
  [(anomalyOf "orders-service" "evt-1" 0, fun _ => { token := "1" }),
    (anomalyOf "orders-service" "evt-2" 60, fun _ => { token := "2" })]

/-- The two anomalies, the later one first. -/
def outOfOrder : List (AnomalySignal × (Nat → AttemptEnv)) :=
  [(anomalyOf "orders-service" "evt-2" 60, fun _ => { token := "3" }),
    (anomalyOf "orders-service" "evt-1" 0, fun _ => { token := "4" })]

/-- Either order of them leads to one incident, with the same account. -/
theorem order_independent_minute : ∃ s s', (processAll {} {} inOrder).incidents.values = [s] ∧
    (processAll {} {} outOfOrder).incidents.values = [s'] ∧ SameAccount s.incident s'.incident := by
  obtain ⟨s, s', one, one', _, _, same⟩ := @order_independent {} _ (by decide) oneWindow_minute
    inOrder outOfOrder (.refl _) (.swap _ _ _)
  exact ⟨s, s', one, one', same⟩

end SentinelOps.IncidentCorrelator
