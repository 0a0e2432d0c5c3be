import SentinelOps.Lib.Fallible
import SentinelOps.Lib.NumPy
import SentinelOps.Lib.PyArith
import SentinelOps.Lib.Runs

/-!
# Event metrics

`events` groups the anomalous windows of a labelled series into events, and `eventMetrics` asks of
each event whether a prediction inside it fires and how many windows late. The events are the
maximal runs of ones, and the metrics count what the predictions do inside them
(`eventMetrics_counts`).
-/

namespace SentinelOps.Ml

/-- `Event`: the windows from `start` to `end_`, both included. -/
structure Event where
  start : Nat
  end_ : Nat
  detected : Bool := false
  detectionDelay : Option Nat := none
  deriving DecidableEq

/-- The first and the last window. -/
def Event.span (e : Event) : Nat × Nat := (e.start, e.end_)

/-- The inner loop of `_events`: the last window of the event that `j` is in. -/
def runEnd (yTrue : List Int) (j : Nat) : Nat :=
  if h : j + 1 < yTrue.length then
    if yTrue[j + 1] = 1 then runEnd yTrue (j + 1) else j
  else j
termination_by yTrue.length - j

/-- The inner loop does not go back. -/
lemma le_runEnd {yTrue : List Int} {j : Nat} : j ≤ runEnd yTrue j := by
  induction j using runEnd.induct yTrue with
  | case1 j inside one ih =>
    rw [runEnd, dif_pos inside, if_pos one]
    omega
  | case2 j inside zero => rw [runEnd, dif_pos inside, if_neg zero]
  | case3 j outside => rw [runEnd, dif_neg outside]

/-- The outer loop of `_events` from a window on, with the events so far. -/
def eventsFrom (yTrue : List Int) (i : Nat) (events : List Event) : List Event :=
  if h : i < yTrue.length then
    if yTrue[i] = 1 then
      eventsFrom yTrue (runEnd yTrue i + 1) (events ++ [{ start := i, end_ := runEnd yTrue i }])
    else eventsFrom yTrue (i + 1) events
  else events
termination_by yTrue.length - i
decreasing_by
  · have := @le_runEnd yTrue i
    omega
  · omega

/-- `_events`. -/
def events (yTrue : List Int) : List Event := eventsFrom yTrue 0 []

/-- The predictions inside an event that fire, counted from its start. -/
def fired (yPred : List Int) (e : Event) : List Nat :=
  ((yPred.drop e.start).take (e.end_ + 1 - e.start)).findIdxs (· = 1)

/-- The loop of `event_metrics` over the events: what becomes of them, and the delays. -/
def detectEvents (yPred : List Int) : List Event → List Event × List Nat
  | [] => ([], [])
  | e :: events =>
    let (found, delays) := detectEvents yPred events
    match fired yPred e with
    | [] => (e :: found, delays)
    | delay :: _ =>
      ({ e with detected := true, detectionDelay := some delay } :: found, delay :: delays)

/-- What `event_metrics` reports. -/
structure EventMetrics where
  nEvents : Nat
  eventsDetected : Nat
  eventRecall : PyFloat
  meanDetectionDelayWindows : Option PyFloat
  meanDetectionDelaySeconds : Option PyFloat
  maxDetectionDelayWindows : Option Nat
  falseAlarmWindows : Nat
  falseAlarmsPerHourNormal : Option PyFloat
  deriving DecidableEq

/-- `a / b` of two counts. -/
def ratio (a b : Nat) : PyFloat := .nearest (a / b)

/-- `round(float(np.mean(delays)), 2) if delays else None`. -/
def meanWindows (delays : List Nat) : Option PyFloat :=
  if delays = [] then none else some ((ratio delays.sum delays.length).roundDigits 2)

/-- The same in seconds. -/
def meanSeconds (delays : List Nat) (windowSeconds : PyFloat) : Option PyFloat :=
  if delays = [] then none
  else some ((PyFloat.mulBy .nearest (ratio delays.sum delays.length) windowSeconds).roundDigits 1)

/-- `round(false_alarm_windows / normal_hours, 2) if normal_hours > 0 else None`. -/
def alarmsPerHour (falseAlarmWindows normalWindows : Nat) (windowSeconds : PyFloat) :
    Except String (Option PyFloat) := do
  let normalHours ← PyFloat.divBy .nearest
    (.mulBy .nearest (.nearest normalWindows) windowSeconds) (.fin 3600)
  if (PyFloat.fin 0).lt normalHours then
    let perHour ← PyFloat.divBy .nearest (.nearest falseAlarmWindows) normalHours
    return some (perHour.roundDigits 2)
  else return none

/-- `event_metrics`. -/
def eventMetrics (yTrue yPred : List Int) (windowSeconds : PyFloat := .fin 10) :
    Except String EventMetrics := do
  let (found, delays) := detectEvents yPred (events yTrue)
  let detected := found.countP (·.detected)
  let normalWindows := yTrue.countP (· = 0)
  let windows ← NumPy.broadcast yPred yTrue
  let falseAlarmWindows := windows.countP fun w => w.1 = 1 ∧ w.2 = 0
  let perHour ← alarmsPerHour falseAlarmWindows normalWindows windowSeconds
  return {
    nEvents := found.length
    eventsDetected := detected
    eventRecall := if found = [] then .fin 0 else (ratio detected found.length).roundDigits 4
    meanDetectionDelayWindows := meanWindows delays
    meanDetectionDelaySeconds := meanSeconds delays windowSeconds
    maxDetectionDelayWindows := delays.max?
    falseAlarmWindows
    falseAlarmsPerHourNormal := perHour }

/-- A prediction inside the event fires. -/
def Fires (yPred : List Int) (e : Event) : Prop :=
  ∃ k ≤ e.end_, e.start ≤ k ∧ yPred[k]? = some 1

instance {yPred e} : Decidable (Fires yPred e) :=
  inferInstanceAs (Decidable (∃ k ≤ e.end_, e.start ≤ k ∧ yPred[k]? = some 1))

/-- The first prediction inside the event that fires comes a number of windows after its start. -/
structure FirstFires (yPred : List Int) (e : Event) (delay : Nat) : Prop where
  inside : e.start + delay ≤ e.end_
  fires : yPred[e.start + delay]? = some 1
  first : ∀ earlier < delay, yPred[e.start + earlier]? ≠ some 1

/-- What the predictions make of an event. -/
structure Detects (yPred : List Int) (e e' : Event) : Prop where
  span : e'.span = e.span
  detected : e'.detected = true ↔ Fires yPred e
  delay : ∀ delay, e'.detectionDelay = some delay ↔ FirstFires yPred e delay

/-- What the metrics say of the events: how many of them a prediction fires in, and how late. -/
structure Counts (yPred : List Int) (events : List Event) (windowSeconds : PyFloat)
    (m : EventMetrics) : Prop where
  nEvents : m.nEvents = events.length
  eventsDetected : m.eventsDetected = events.countP fun e => Fires yPred e
  eventRecall : m.eventRecall = if events = [] then .fin 0
    else (ratio (events.countP fun e => Fires yPred e) events.length).roundDigits 4
  delays : ∃ delays, List.Forall₂ (FirstFires yPred) (events.filter fun e => Fires yPred e) delays ∧
    m.meanDetectionDelayWindows = meanWindows delays ∧
    m.meanDetectionDelaySeconds = meanSeconds delays windowSeconds ∧
    m.maxDetectionDelayWindows = delays.max?

section
variable {yTrue : List Int} {i j : Nat} {found : List Event}

/-- The positive windows. -/
abbrev Positive (yTrue : List Int) (k : Nat) : Prop := yTrue[k]? = some 1

/-- The inner loop stays on ones and stops where there is no further one. -/
lemma runEnd_spec (here : Positive yTrue j) :
    (∀ k, j ≤ k → k ≤ runEnd yTrue j → Positive yTrue k) ∧
      ¬ Positive yTrue (runEnd yTrue j + 1) := by
  have single : ∀ k, j ≤ k → k ≤ j → Positive yTrue k := by
    intro k le le'
    rwa [le_antisymm le' le]
  induction j using runEnd.induct yTrue with
  | case1 j inside one ih =>
    have next : Positive yTrue (j + 1) := List.getElem?_eq_some_iff.mpr ⟨inside, one⟩
    rw [runEnd, dif_pos inside, if_pos one]
    obtain ⟨ones, stops⟩ := ih next fun k le le' => by rwa [le_antisymm le' le]
    refine ⟨?_, stops⟩
    intro k le le'
    obtain rfl | less := le.eq_or_lt
    · exact here
    · exact ones k less le'
  | case2 j inside zero =>
    rw [runEnd, dif_pos inside, if_neg zero]
    refine ⟨single, ?_⟩
    intro one
    exact zero (List.getElem?_eq_some_iff.mp one).2
  | case3 j outside =>
    rw [runEnd, dif_neg outside]
    refine ⟨single, ?_⟩
    intro one
    exact outside (List.getElem?_eq_some_iff.mp one).1

/-- The outer loop lists the runs when it has listed those before its window. -/
lemma eventsFrom_listsRuns (h : Scanned (Positive yTrue) i (found.map Event.span)) :
    ListsRuns (Positive yTrue) ((eventsFrom yTrue i found).map Event.span) := by
  induction i, found using eventsFrom.induct yTrue with
  | case1 i found inside one ih =>
    rw [eventsFrom, dif_pos inside, if_pos one]
    apply ih
    -- the inner loop closes the run, also where the labels end
    obtain ⟨ones, stops⟩ := runEnd_spec (List.getElem?_eq_some_iff.mpr ⟨inside, one⟩)
    rw [List.map_append]
    exact h.found le_runEnd ones stops
  | case2 i found inside zero ih =>
    rw [eventsFrom, dif_pos inside, if_neg zero]
    apply ih
    apply h.skip
    intro one
    exact zero (List.getElem?_eq_some_iff.mp one).2
  | case3 i found outside =>
    rw [eventsFrom, dif_neg outside]
    apply h.listsRuns
    intro k le one
    have inside := (List.getElem?_eq_some_iff.mp one).1
    omega

/-- The events are the maximal runs of ones. -/
lemma events_listsRuns : ListsRuns (Positive yTrue) ((events yTrue).map Event.span) :=
  eventsFrom_listsRuns .start

example : (events [0, 0, 1, 1, 1, 0, 0, 1, 1, 0]).map Event.span = [(2, 4), (7, 8)] := by
  decide +kernel

/-- Nothing is known yet of whether an event is detected. -/
def Event.Fresh (e : Event) : Prop := e.detected = false ∧ e.detectionDelay = none

/-- The events that are extracted are fresh. -/
lemma eventsFrom_fresh (h : ∀ e ∈ found, e.Fresh) : ∀ e ∈ eventsFrom yTrue i found, e.Fresh := by
  induction i, found using eventsFrom.induct yTrue with
  | case1 i found inside one ih =>
    rw [eventsFrom, dif_pos inside, if_pos one]
    apply ih
    intro e mem
    rcases List.mem_append.mp mem with old | new
    · exact h e old
    · cases List.mem_singleton.mp new
      exact ⟨rfl, rfl⟩
  | case2 i found inside zero ih =>
    rw [eventsFrom, dif_pos inside, if_neg zero]
    exact ih h
  | case3 i found outside =>
    rw [eventsFrom, dif_neg outside]
    exact h

end

section
variable {yPred : List Int} {e : Event} {es : List Event} {windowSeconds : PyFloat}

/-- The predictions that are found to fire. -/
lemma mem_fired {d : Nat} :
    d ∈ fired yPred e ↔ e.start + d ≤ e.end_ ∧ yPred[e.start + d]? = some 1 := by
  unfold fired
  rw [List.mem_findIdxs_iff_exists_getElem_pos]
  have here : ((yPred.drop e.start).take (e.end_ + 1 - e.start))[d]? = some 1 ↔
      e.start + d ≤ e.end_ ∧ yPred[e.start + d]? = some 1 := by
    rw [List.getElem?_take, List.getElem?_drop]
    split
    · rename_i less
      exact (and_iff_right (by omega)).symm
    · rename_i beyond
      refine iff_of_false nofun ?_
      rintro ⟨inside, _⟩
      omega
  rw [← here, List.getElem?_eq_some_iff]
  simp only [decide_eq_true_eq]

/-- Where none is found, none fires. -/
lemma fired_nil (none' : fired yPred e = []) : ¬ Fires yPred e := by
  rintro ⟨k, inside, le, fires⟩
  obtain ⟨d, rfl⟩ := Nat.exists_eq_add_of_le le
  have mem := mem_fired.mpr ⟨inside, fires⟩
  rw [none'] at mem
  cases mem

/-- The first that is found is the first that fires. -/
lemma fired_cons {d rest} (some' : fired yPred e = d :: rest) : FirstFires yPred e d := by
  obtain ⟨inside, fires⟩ := mem_fired.mp (some' ▸ List.mem_cons_self)
  refine ⟨inside, fires, ?_⟩
  intro earlier less fires'
  have mem : earlier ∈ fired yPred e := mem_fired.mpr ⟨by omega, fires'⟩
  -- the positions come in order, so nothing fires before the head
  have increasing : (d :: rest).Pairwise (· < ·) := by
    rw [← some']
    exact List.pairwise_findIdxs
  rw [some'] at mem
  rcases List.mem_cons.mp mem with rfl | later
  · exact absurd less (lt_irrefl _)
  · exact absurd (List.rel_of_pairwise_cons increasing later) (by omega)

/-- The prediction that fires first is one that fires. -/
lemma FirstFires.toFires {d} (h : FirstFires yPred e d) : Fires yPred e :=
  ⟨e.start + d, h.inside, Nat.le_add_right _ _, h.fires⟩

/-- Only one comes first. -/
lemma FirstFires.unique {d d'} (h : FirstFires yPred e d) (h' : FirstFires yPred e d') :
    d = d' := by
  apply le_antisymm
  · by_contra less
    exact h.first d' (not_le.mp less) h'.fires
  · by_contra less
    exact h'.first d (not_le.mp less) h.fires

/-- The loop finds what the predictions make of each event, and the delays of those in which one
fires. -/
lemma detectEvents_spec (fresh : ∀ e ∈ es, e.Fresh) :
    List.Forall₂ (Detects yPred) es (detectEvents yPred es).1 ∧
      List.Forall₂ (FirstFires yPred) (es.filter fun e => Fires yPred e)
        (detectEvents yPred es).2 := by
  induction es with
  | nil => exact ⟨.nil, .nil⟩
  | cons e es ih =>
    obtain ⟨found, delays⟩ := ih fun e mem => fresh e (List.mem_cons_of_mem _ mem)
    obtain ⟨undetected, undelayed⟩ := fresh e List.mem_cons_self
    unfold detectEvents
    dsimp only
    split
    · rename_i none'
      have silent := fired_nil none'
      rw [List.filter_cons_of_neg (by simpa using silent)]
      refine ⟨.cons ⟨rfl, ?_, ?_⟩ found, delays⟩
      · rw [undetected]
        exact iff_of_false nofun silent
      · intro d
        rw [undelayed]
        exact iff_of_false nofun fun first => silent first.toFires
    · rename_i d rest some'
      have first := fired_cons some'
      rw [List.filter_cons_of_pos (by simpa using first.toFires)]
      refine ⟨.cons ⟨rfl, iff_of_true rfl first.toFires, ?_⟩ found, .cons first delays⟩
      intro d'
      constructor
      · rintro ⟨⟩
        exact first
      · intro first'
        rw [first.unique first']

/-- As many events are found to be detected as a prediction fires in. -/
lemma countP_detected {found : List Event} (h : List.Forall₂ (Detects yPred) es found) :
    found.countP (·.detected) = es.countP fun e => Fires yPred e := by
  induction h with
  | nil => rfl
  | cons first _ ih =>
    rw [List.countP_cons, List.countP_cons, ih]
    simp only [first.detected, decide_eq_true_eq]

/-- The false alarms per hour are never divided by zero. -/
lemma exists_alarmsPerHour {alarms normal} :
    ∃ perHour, alarmsPerHour alarms normal windowSeconds = .ok perHour := by
  obtain ⟨hours, divided⟩ := @PyFloat.exists_divBy .nearest
    (.mulBy .nearest (.nearest normal) windowSeconds) (.fin 3600) (by decide)
  unfold alarmsPerHour
  rw [divided, Except.ok_bind]
  split
  · rename_i some'
    -- `normal_hours > 0` keeps the second division from zero
    have nonzero : hours ≠ .fin 0 := by
      rintro rfl
      cases some'
    obtain ⟨perHour, divided⟩ := @PyFloat.exists_divBy .nearest (.nearest alarms) hours nonzero
    rw [divided]
    exact ⟨_, rfl⟩
  · exact ⟨_, rfl⟩

end

/-- The metrics are about the maximal runs of ones: an event counts as detected exactly when a
prediction inside it fires, its delay is that of the first one, and the recall is the share of the
events that are detected. -/
theorem eventMetrics_counts {yTrue yPred : List Int} {windowSeconds}
    (same : yPred.length = yTrue.length) :
    ListsRuns (fun k => yTrue[k]? = some 1) ((events yTrue).map Event.span) ∧
    List.Forall₂ (Detects yPred) (events yTrue) (detectEvents yPred (events yTrue)).1 ∧
    ∃ m, eventMetrics yTrue yPred windowSeconds = .ok m ∧
      Counts yPred (events yTrue) windowSeconds m := by
  have fresh : ∀ e ∈ events yTrue, e.Fresh := eventsFrom_fresh nofun
  obtain ⟨found, delays⟩ := @detectEvents_spec yPred (events yTrue) fresh
  have total := found.length_eq
  -- the recall is guarded by the events that came out of the loop
  have none' : (detectEvents yPred (events yTrue)).1 = [] ↔ events yTrue = [] := by
    rw [← List.length_eq_zero_iff, ← total, List.length_eq_zero_iff]
  obtain ⟨perHour, alarms⟩ := @exists_alarmsPerHour windowSeconds
    ((yPred.zip yTrue).countP fun w => w.1 = 1 ∧ w.2 = 0) (yTrue.countP (· = 0))
  refine ⟨events_listsRuns, found, ?_⟩
  unfold eventMetrics
  dsimp only
  rw [NumPy.broadcast_zip same, Except.ok_bind, alarms, Except.ok_bind]
  refine ⟨_, rfl, total.symm, countP_detected found, ?_, _, delays, rfl, rfl, rfl⟩
  simp only [none', countP_detected found, total]

/-- Two events, of which the first is detected one window late and the second is missed. -/
theorem eventMetrics_counts_two :
    ∃ m, eventMetrics [0, 1, 1, 0, 1] [0, 0, 1, 1, 0] = .ok m ∧ m.nEvents = 2 ∧
      m.eventsDetected = 1 ∧ m.eventRecall = .fin (1 / 2) := by
  obtain ⟨_, _, m, reported, counts⟩ := @eventMetrics_counts [0, 1, 1, 0, 1] [0, 0, 1, 1, 0]
    (.fin 10) rfl
  refine ⟨m, reported, ?_, ?_, ?_⟩
  · rw [counts.nEvents]
    decide +kernel
  · rw [counts.eventsDetected]
    decide +kernel
  · rw [counts.eventRecall]
    decide +kernel

end SentinelOps.Ml
