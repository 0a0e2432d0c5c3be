import SentinelOps.IncidentCorrelator.Conservation
import SentinelOps.Lib.Rounding

/-!
# What the correlation window lets in

`Correlation.decide` appends an anomaly that is dated at most the window after the last evidence. It
looks at neither end of the anomaly's own window, so an anomaly that is delivered late joins an
incident that began long after it. `appends_within_window_iff` is the exact condition: no appended
anomaly ended more than the window before its incident began, and none that is dated before it
starts begins more than the window after the last evidence.
-/

namespace SentinelOps.IncidentCorrelator

/-- A call decides to append an anomaly to the active incident of its key. -/
def Appends (cfg : ProcessorConfig) (w : Correlator) (l : CorrelatorCall) (signal : AnomalySignal)
    (a : Incident) : Prop :=
  (∃ env, l = .process signal env) ∧ signal.eventId ∉ w.store.evidenceIds ∧
    w.store.lockActiveIncident signal.key = some a ∧
    ∃ reason, Correlation.decide signal (some a) cfg.correlation = .ok ⟨.append, reason⟩

/-- A call brings an anomaly that is dated within the window of the active incident of its key. -/
def Meets (cfg : ProcessorConfig) (w : Correlator) (l : CorrelatorCall) (signal : AnomalySignal)
    (a : Incident) : Prop :=
  (∃ env, l = .process signal env) ∧ signal.eventId ∉ w.store.evidenceIds ∧
    w.store.lockActiveIncident signal.key = some a ∧ Recent cfg.correlation signal a

/-- A time lies at most the window after another. -/
def Reaches (cfg : CorrelationConfig) (earlier later : Instant) : Prop :=
  (PyFloat.totalSeconds (later - earlier)).le cfg.windowSeconds = true

/-- The length of the interval of an incident, in microseconds. -/
def Incident.length (i : Incident) : Int := max 0 (i.lastEvidenceAt - i.startedAt)

/-- An anomaly lies within the window of an incident on either side, and stretches its interval by
the window and its own length at most. -/
structure WithinWindow (cfg : ProcessorConfig) (signal : AnomalySignal) (a : Incident) : Prop where
  after : Reaches cfg.correlation a.lastEvidenceAt signal.windowStart
  before : Reaches cfg.correlation signal.windowEnd a.startedAt
  stretch : (PyFloat.fin 0).le cfg.correlation.windowSeconds = true → ∀ now,
    ∃ reach, Reaches cfg.correlation 0 reach ∧
      (absorb cfg.severity a signal now).length ≤
        a.length + reach + max 0 (signal.windowEnd - signal.windowStart)

/-- An anomaly is dated before it starts. -/
def Postdated (signal : AnomalySignal) : Prop :=
  ∃ t, signal.occurredAt = .aware t ∧ t < signal.windowStart

/-- An anomaly was not delivered late: one that ended before its incident began did so within the
window, and one that is dated before it starts begins within the window of the last evidence. -/
structure Timely (cfg : CorrelationConfig) (signal : AnomalySignal) (a : Incident) : Prop where
  ended : signal.windowEnd < a.startedAt ∨ (PyFloat.fin 0).le cfg.windowSeconds = false →
    Reaches cfg signal.windowEnd a.startedAt
  started : Postdated signal → Reaches cfg a.lastEvidenceAt signal.windowStart

variable {cfg : ProcessorConfig} {signal : AnomalySignal} {a : Incident}

/-- A decision to append is one on an anomaly dated within the window. -/
lemma decide_append_iff : (∃ reason, Correlation.decide signal (some a) cfg.correlation =
    .ok ⟨.append, reason⟩) ↔ Recent cfg.correlation signal a := by
  unfold Correlation.decide Recent
  constructor
  · rintro ⟨reason, decided⟩
    obtain ⟨gap, measured, decided⟩ := Except.bind_eq_ok.mp decided
    dsimp only at decided
    split at decided
    · rename_i recent
      exact ⟨gap, measured, recent⟩
    · cases decided
  · rintro ⟨gap, measured, recent⟩
    dsimp only
    rw [measured, Except.ok_bind, if_pos recent]
    exact ⟨_, rfl⟩

/-- A nearer time is reached as well. -/
lemma Reaches.mono {c : CorrelationConfig} {s t s' t' : Instant} (h : Reaches c s t)
    (near : t' - s' ≤ t - s) : Reaches c s' t' :=
  PyFloat.le_trans (PyFloat.totalSeconds_mono near) h

/-- With a window that is not negative, what is not later is reached. -/
lemma Reaches.of_le {c : CorrelationConfig} {s t : Instant}
    (window : (PyFloat.fin 0).le c.windowSeconds = true) (h : t ≤ s) : Reaches c s t := by
  have zero : PyFloat.totalSeconds 0 = .fin 0 := by decide +kernel
  have near := PyFloat.totalSeconds_mono (sub_nonpos.mpr h)
  rw [zero] at near
  exact PyFloat.le_trans near window

/-- How far the hull of two intervals that are near each other exceeds the first of them. -/
lemma hull_le {last started ends starts reach : Int} (some_reach : 0 ≤ reach)
    (after : starts - last ≤ reach) (before : started - ends ≤ reach) :
    max 0 (max last ends - min started starts) ≤
      max 0 (last - started) + reach + max 0 (ends - starts) := by
  omega

/-- An anomaly within the window on either side stretches the interval by no more than the window and
its own length. -/
lemma stretch_le (after : Reaches cfg.correlation a.lastEvidenceAt signal.windowStart)
    (before : Reaches cfg.correlation signal.windowEnd a.startedAt)
    (window : (PyFloat.fin 0).le cfg.correlation.windowSeconds = true) (now : Instant) :
    ∃ reach, Reaches cfg.correlation 0 reach ∧
      (absorb cfg.severity a signal now).length ≤
        a.length + reach + max 0 (signal.windowEnd - signal.windowStart) := by
  let gap := max (signal.windowStart - a.lastEvidenceAt) (a.startedAt - signal.windowEnd)
  have near : Reaches cfg.correlation 0 (max 0 gap) := by
    rcases max_choice 0 gap with h | h
    · rw [h]
      exact .of_le window le_rfl
    · rw [h]
      rcases max_choice (signal.windowStart - a.lastEvidenceAt) (a.startedAt - signal.windowEnd)
        with h' | h'
      · exact after.mono (by rw [sub_zero]; exact h'.le)
      · exact before.mono (by rw [sub_zero]; exact h'.le)
  refine ⟨max 0 gap, near, ?_⟩
  exact hull_le (le_max_left _ _) ((le_max_left _ _).trans (le_max_right _ _))
    ((le_max_right _ _).trans (le_max_right _ _))

/-- An anomaly dated within the window lies within the window of its incident exactly when it was
not delivered late. -/
lemma withinWindow_iff (recent : Recent cfg.correlation signal a) :
    WithinWindow cfg signal a ↔ Timely cfg.correlation signal a := by
  constructor
  · intro h
    exact ⟨fun _ => h.before, fun _ => h.after⟩
  · intro h
    have before : Reaches cfg.correlation signal.windowEnd a.startedAt := by
      by_cases late : signal.windowEnd < a.startedAt ∨
          (PyFloat.fin 0).le cfg.correlation.windowSeconds = false
      · exact h.ended late
      · push Not at late
        exact .of_le (Bool.not_eq_false _ ▸ late.2) late.1
    have after : Reaches cfg.correlation a.lastEvidenceAt signal.windowStart := by
      by_cases post : Postdated signal
      · exact h.started post
      · obtain ⟨gap, measured, near⟩ := recent
        unfold timeSince at measured
        split at measured
        · rename_i t dated
          cases measured
          have started : signal.windowStart ≤ t := by
            by_contra late
            exact post ⟨t, dated, not_le.mp late⟩
          exact Reaches.mono near (sub_le_sub_right started _)
        · cases measured
    exact ⟨after, before, stretch_le after before⟩

/-- Every anomaly that a run appends lies within the window of its incident exactly when none that
is dated within the window was delivered late. -/
theorem appends_within_window_iff {w0 : Correlator} {ls : List CorrelatorCall} :
    (correlator cfg).EachStep (fun w l _ => ∀ signal a, Appends cfg w l signal a →
      WithinWindow cfg signal a) w0 ls ↔
    (correlator cfg).EachStep (fun w l _ => ∀ signal a, Meets cfg w l signal a →
      Timely cfg.correlation signal a) w0 ls := by
  have each (w : Correlator) (l : CorrelatorCall) :
      (∀ signal a, Appends cfg w l signal a → WithinWindow cfg signal a) ↔
        ∀ signal a, Meets cfg w l signal a → Timely cfg.correlation signal a := by
    refine forall_congr' fun signal => forall_congr' fun a => ?_
    unfold Appends Meets
    rw [decide_append_iff]
    exact forall_congr' fun ⟨_, _, _, recent⟩ => withinWindow_iff recent
  unfold Machine.EachStep
  simp only [each]

/-- An anomaly, and one of the hour before that is delivered after it. -/
def lateDelivery : List CorrelatorCall :=
  [.process (anomalyOf "orders-service" "evt-1" 3600) fun _ => { token := "1" },
    .process (anomalyOf "orders-service" "evt-2" 0) fun _ => { token := "2" }]

/-- The state of that run between the two anomalies. -/
def beforeLate : Correlator :=
  Correlator.step {} {} (.process (anomalyOf "orders-service" "evt-1" 3600) fun _ => { token := "1" })

/-- The incident that the late one finds. -/
lemma beforeLate_active : (beforeLate.store.lockActiveIncident
      (anomalyOf "orders-service" "evt-2" 0).key).map (fun a => (a.startedAt, a.lastEvidenceAt)) =
    some (seconds 3570, seconds 3600) := by
  decide +kernel

/-- The late anomaly is appended although it ended 3570 seconds before the incident began. -/
theorem late_not_within_window : ¬ (correlator {}).EachStep
    (fun w l _ => ∀ signal a, Appends {} w l signal a → WithinWindow {} signal a)
    {} lateDelivery := by
  intro each
  obtain ⟨a, found, times⟩ := Option.map_eq_some_iff.mp beforeLate_active
  obtain ⟨started, last⟩ := Prod.mk.inj times
  have recent : Recent {} (anomalyOf "orders-service" "evt-2" 0) a := by
    refine ⟨0 - seconds 3600, ?_, ?_⟩
    · rw [last]
      rfl
    · decide +kernel
  have unseen : (anomalyOf "orders-service" "evt-2" 0).eventId ∉ beforeLate.store.evidenceIds := by
    decide +kernel
  have within := each [_] _ [] beforeLate _ rfl (.cons rfl .nil) rfl _ a
    ⟨⟨_, rfl⟩, unseen, found, decide_append_iff.mpr recent⟩
  have before := within.before
  rw [started] at before
  have far : ¬ Reaches {} (anomalyOf "orders-service" "evt-2" 0).windowEnd (seconds 3570) := by
    unfold Reaches
    decide +kernel
  exact far before

end SentinelOps.IncidentCorrelator
