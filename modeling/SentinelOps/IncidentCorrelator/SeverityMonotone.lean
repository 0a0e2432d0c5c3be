import SentinelOps.IncidentCorrelator.Commits
import SentinelOps.IncidentCorrelator.Histories
import SentinelOps.Lib.Rounding

/-!
# Severity never goes down

The severity engine is monotone: where no aggregate has decreased every rule that fired still fires,
whatever the thresholds are. The aggregates of an incident only grow as it absorbs anomalies, in
whatever order they come, and nothing else writes its severity. `severity_monotone` puts this
together over every run of either repository.
-/

namespace SentinelOps.IncidentCorrelator

/-- No input has decreased. -/
structure SeverityInputs.Grow (i j : SeverityInputs) : Prop where
  anomalyCount : i.anomalyCount ≤ j.anomalyCount
  distinctAbnormalSignals : i.distinctAbnormalSignals ≤ j.distinctAbnormalSignals
  maxAnomalyScore : i.maxAnomalyScore.Rises j.maxAnomalyScore
  maxErrorRate : i.maxErrorRate.Rises j.maxErrorRate
  maxLatencyP95Ms : i.maxLatencyP95Ms.Rises j.maxLatencyP95Ms
  durationSeconds : i.durationSeconds.Rises j.durationSeconds

/-- Every incident is still there, with a severity that is not lower. -/
def NeverLowered (d d' : Incidents) : Prop :=
  ∀ id s, d.get? id = some s → ∃ s', d'.get? id = some s' ∧
    s.incident.severity.rank ≤ s'.incident.severity.rank

section
variable {cfg : SeverityConfig} {i j : SeverityInputs}

/-- A rule whose condition is implied fires at the same level. -/
lemma rule_sublist {p q : Prop} [Decidable p] [Decidable q] {level : Severity} {r r' : String}
    (h : p → q) : ((rule p level r).map (·.1)).Sublist ((rule q level r').map (·.1)) := by
  unfold rule
  by_cases fires : p
  · rw [if_pos fires, if_pos (h fires)]
    exact List.Sublist.refl _
  · rw [if_neg fires]
    exact List.nil_sublist _

/-- When no input has decreased, every level of a rule that fired is still that of one. -/
lemma SeverityInputs.Grow.fired (h : i.Grow j) :
    ((firedRules i cfg).map (·.1)).Sublist ((firedRules j cfg).map (·.1)) := by
  unfold firedRules
  simp only [List.map_append]
  -- one implication for each rule
  refine .append (.append (.append (.append (.append (.append (.append ?_ ?_) ?_) ?_) ?_) ?_) ?_) ?_
  · exact rule_sublist fun fires => fires.trans h.anomalyCount
  · exact rule_sublist fun fires => fires.trans (Int.ofNat_le.mpr h.anomalyCount)
  · exact rule_sublist fun fires => fires.trans (Int.ofNat_le.mpr h.distinctAbnormalSignals)
  · exact rule_sublist h.maxErrorRate.le
  · exact rule_sublist h.maxLatencyP95Ms.le
  · exact rule_sublist h.durationSeconds.le
  · exact rule_sublist h.maxErrorRate.le
  · apply rule_sublist
    rintro ⟨long, many⟩
    exact ⟨h.durationSeconds.le long, many.trans (Int.ofNat_le.mpr h.distinctAbnormalSignals)⟩

/-- The top level is one of the levels, and none is above it. -/
lemma topLevel_spec {first : Severity} {levels : List Severity} :
    topLevel first levels ∈ first :: levels ∧
      ∀ s ∈ first :: levels, s.rank ≤ (topLevel first levels).rank := by
  induction levels generalizing first with
  | nil => simp [topLevel]
  | cons s levels ih =>
    obtain ⟨mem, top⟩ := @ih (if first.rank < s.rank then s else first)
    have step : topLevel first (s :: levels) =
        topLevel (if first.rank < s.rank then s else first) levels := rfl
    rw [step]
    have above := top _ List.mem_cons_self
    refine ⟨?_, ?_⟩
    · rcases List.mem_cons.mp mem with e | later
      · rw [e]
        split <;> simp
      · exact List.mem_cons_of_mem _ (List.mem_cons_of_mem _ later)
    · intro t ht
      rcases List.mem_cons.mp ht with rfl | ht
      · refine le_trans ?_ above
        split <;> omega
      · rcases List.mem_cons.mp ht with rfl | ht
        · refine le_trans ?_ above
          split <;> omega
        · exact top t (List.mem_cons_of_mem _ ht)

/-- The verdict when some rule fires: its level is the highest of a rule that fires, its reasons are
those of the rules that fire at it. -/
lemma evaluateSeverity_fired (some' : firedRules i cfg ≠ []) :
    (evaluateSeverity i cfg).level ∈ (firedRules i cfg).map (·.1) ∧
    (∀ s ∈ (firedRules i cfg).map (·.1), s.rank ≤ (evaluateSeverity i cfg).level.rank) ∧
    (evaluateSeverity i cfg).reasons = ((firedRules i cfg).filter fun f =>
      decide (f.1 = (evaluateSeverity i cfg).level)).map (·.2) := by
  unfold evaluateSeverity
  cases fired : firedRules i cfg with
  | nil => exact absurd fired some'
  | cons f rest =>
    obtain ⟨mem, top⟩ := @topLevel_spec f.1 (rest.map (·.1))
    exact ⟨mem, top, rfl⟩

/-- The verdict when no rule fires. -/
lemma evaluateSeverity_none (none' : firedRules i cfg = []) :
    evaluateSeverity i cfg = ⟨.info, ["no rules fired"]⟩ := by
  unfold evaluateSeverity
  rw [none']

/-- The level is not lower when no input has decreased. -/
lemma SeverityInputs.Grow.level (h : i.Grow j) :
    (evaluateSeverity i cfg).level.rank ≤ (evaluateSeverity j cfg).level.rank := by
  by_cases none' : firedRules i cfg = []
  · rw [evaluateSeverity_none none']
    exact Nat.zero_le _
  · obtain ⟨mem, _, _⟩ := evaluateSeverity_fired none'
    have still := h.fired.subset mem
    have some' : firedRules j cfg ≠ [] := by
      intro none''
      rw [none''] at still
      cases still
    exact (evaluateSeverity_fired some').2.1 _ still

end

section
variable {cfg : SeverityConfig} {d d' d0 : Incidents} {i : Incident} {signal : AnomalySignal}

/-- The severity of an incident is the one of its aggregates, and it names every signal once. -/
structure Assessed (cfg : SeverityConfig) (i : Incident) : Prop where
  severity : i.severity = (evaluateSeverity i.severityInputs cfg).level
  distinct : i.abnormalSignalNames.Nodup

/-- No aggregate decreases when an incident absorbs an anomaly. -/
lemma aggregate_grow {now} (distinct : i.abnormalSignalNames.Nodup) :
    i.severityInputs.Grow (aggregate i signal now).severityInputs where
  anomalyCount := Nat.le_succ _
  distinctAbnormalSignals := by
    have kept : i.abnormalSignalNames ⊆
        Py.sortedSet (i.abnormalSignalNames ++ signal.abnormalSignals) := by
      intro name mem
      rw [Py.mem_sortedSet]
      exact List.mem_append_left _ mem
    exact (distinct.subperm kept).length_le
  maxAnomalyScore := .to_max
  maxErrorRate := .to_max
  maxLatencyP95Ms := .to_max
  durationSeconds := by
    apply PyFloat.Rises.max
    apply PyFloat.Rises.of_le
    apply PyFloat.totalSeconds_mono
    change i.lastEvidenceAt - i.startedAt ≤
      max i.lastEvidenceAt signal.windowEnd - min i.startedAt signal.windowStart
    exact sub_le_sub (le_max_left _ _) (min_le_left _ _)

/-- What has absorbed an anomaly is assessed. -/
lemma assessed_absorb {now} : Assessed cfg (absorb cfg i signal now) where
  severity := rfl
  distinct := Py.nodup_sortedSet

/-- An incident that absorbs an anomaly keeps its severity or rises. -/
lemma Assessed.absorb {now} (h : Assessed cfg i) :
    i.severity.rank ≤ (IncidentCorrelator.absorb cfg i signal now).severity.rank := by
  rw [h.severity]
  exact (aggregate_grow h.distinct).level

/-- What is kept of a store while an anomaly is processed. -/
structure Kept (cfg : SeverityConfig) (d0 d : Incidents) : Prop where
  keyed : Keyed d
  assessed : ∀ id s, d.get? id = some s → Assessed cfg s.incident
  neverLowered : NeverLowered d0 d

/-- A write neither lowers the severity of an incident that was there nor replaces one by a new
incident. -/
def Fits (cfg : SeverityConfig) (d0 : Incidents) : Write → Prop
  | .insertIncident i => Assessed cfg i ∧ d0.get? i.id = none
  | .updateIncident i => Assessed cfg i ∧
    ∀ s, d0.get? i.id = some s → s.incident.severity.rank ≤ i.severity.rank
  | _ => True

/-- Nothing is lowered where nothing changes. -/
lemma NeverLowered.refl : NeverLowered d d :=
  fun _ s found => ⟨s, found, le_rfl⟩

/-- Runs of changes that lower nothing lower nothing. -/
lemma NeverLowered.trans {d''} (h : NeverLowered d d') (h' : NeverLowered d' d'') :
    NeverLowered d d'' := by
  intro id s found
  obtain ⟨s', found', le⟩ := h id s found
  obtain ⟨s'', found'', le'⟩ := h' id s' found'
  exact ⟨s'', found'', le.trans le'⟩

/-- A change of one incident lowers nothing when it does not lower that one. -/
lemma NeverLowered.set {id s} (h : NeverLowered d0 d)
    (up : ∀ s0, d0.get? id = some s0 → s0.incident.severity.rank ≤ s.incident.severity.rank) :
    NeverLowered d0 (d.set id s) := by
  intro id' s0 found
  rw [Dict.get?_set]
  split
  · rename_i e
    subst e
    exact ⟨s, rfl, up s0 found⟩
  · exact h id' s0 found

namespace Kept

/-- An assessed incident is stored under its id. -/
lemma put {id s} (h : Kept cfg d0 d) (own : s.incident.id = id) (assessed : Assessed cfg s.incident)
    (up : ∀ s0, d0.get? id = some s0 → s0.incident.severity.rank ≤ s.incident.severity.rank) :
    Kept cfg d0 (d.set id s) where
  keyed := h.keyed.set own
  assessed := by
    intro id' x hx
    rcases get?_set_cases hx with ⟨_, rfl⟩ | ⟨_, hx⟩
    · exact assessed
    · exact h.assessed id' x hx
  neverLowered := h.neverLowered.set up

/-- What is stored with an incident changes, the incident does not. -/
lemma beside {id s s'} (h : Kept cfg d0 d) (found : d.get? id = some s)
    (same : s'.incident = s.incident) : Kept cfg d0 (d.set id s') := by
  apply h.put
  · rw [same]
    exact h.keyed id s found
  · rw [same]
    exact h.assessed id s found
  · intro s0 found0
    obtain ⟨s1, found1, le⟩ := h.neverLowered id s0 found0
    cases found.symm.trans found1
    rw [same]
    exact le

/-- One write. -/
lemma write {m m' : Store} {w} (h : Kept cfg d0 m.incidents) (fits : Fits cfg d0 w)
    (applied : Applies m w m') : Kept cfg d0 m'.incidents := by
  cases applied with
  | @inserted i _ =>
    obtain ⟨assessed, absent⟩ := fits
    refine h.put rfl assessed ?_
    intro s0 found0
    rw [absent] at found0
    cases found0
  | updated _ => exact h.put rfl fits.1 fits.2
  | added found => exact h.beside found rfl
  | recorded found => exact h.beside found rfl
  | linked => exact h

end Kept

end

section
variable {cfg : ProcessorConfig} {d0 : Incidents} {signal : AnomalySignal} {m : Store}

/-- The writes of a unit of work fit, when the id it draws is new. -/
lemma Kept.staged {env ws out} (h : Kept cfg.severity d0 m.incidents)
    (fresh : d0.get? (newIncidentId env.token) = none)
    (staged : unitOfWork cfg signal env m = .ok (ws, out)) : ∀ w ∈ ws, Fits cfg.severity d0 w := by
  have opens : ∀ reason, ∀ w ∈ openWrites cfg.severity signal reason env,
      Fits cfg.severity d0 w := by
    intro reason w mem
    simp only [openWrites, List.mem_cons, List.not_mem_nil, or_false] at mem
    rcases mem with rfl | rfl | rfl
    · exact ⟨assessed_absorb, fresh⟩
    · trivial
    · trivial
  -- the row that was read has not fallen since
  have up : ∀ a, m.lockActiveIncident signal.key = some a → Assessed cfg.severity a ∧
      ∀ s, d0.get? a.id = some s → s.incident.severity.rank ≤ a.severity.rank := by
    intro a found
    obtain ⟨s', there, rfl, _⟩ := lockActiveIncident_some h.keyed found
    refine ⟨h.assessed _ s' there, ?_⟩
    intro s found0
    obtain ⟨s1, found1, le⟩ := h.neverLowered _ s found0
    cases there.symm.trans found1
    exact le
  rcases unitOfWork_ok staged with ⟨_, rfl, _⟩ | ⟨_, p, links, planned, rfl, _, _⟩
  · intro w mem
    cases mem
  · intro w mem
    rcases List.mem_append.mp mem with mem | mem
    · rcases plan_cases planned with ⟨_, reason, hw, _⟩ | ⟨a, reason, found, hw, _⟩ |
        ⟨a, reason, found, hw, _⟩
      · rw [hw] at mem
        exact opens reason w mem
      · obtain ⟨assessed, up⟩ := up a found
        rw [hw] at mem
        simp only [List.mem_cons, List.not_mem_nil, or_false] at mem
        rcases mem with rfl | rfl
        · exact ⟨assessed_absorb, fun s found0 => (up s found0).trans assessed.absorb⟩
        · trivial
      · obtain ⟨assessed, up⟩ := up a found
        rw [hw] at mem
        rcases List.mem_append.mp mem with mem | mem
        · simp only [List.mem_cons, List.not_mem_nil, or_false] at mem
          rcases mem with rfl | rfl
          · exact ⟨⟨assessed.severity, assessed.distinct⟩, up⟩
          · trivial
        · exact opens reason w mem
    · obtain ⟨r, _, rfl⟩ := List.mem_map.mp mem
      trivial

/-- One attempt. -/
lemma Kept.processOnce {env} (h : Kept cfg.severity d0 m.incidents)
    (fresh : d0.get? (newIncidentId env.token) = none) :
    Kept cfg.severity d0 (processOnce cfg signal env m).1.incidents := by
  unfold IncidentCorrelator.processOnce
  split
  · exact h
  · rename_i ws out staged
    have fits := h.staged fresh staged
    apply commit_keeps (P := fun m => Kept cfg.severity d0 m.incidents) h
    intro w mem m m' h applied
    exact h.write (fits w mem) applied

end

section
variable {cfg : ProcessorConfig} {w w' : MemoryService} {l : MemoryLabel}

/-- A manual transition leaves the severity and what it is made of as it is. -/
lemma Kept.transition {scfg : SeverityConfig} {d0 d : Incidents} {id s target actor reason now}
    (h : Kept scfg d0 d) (found : d.get? id = some s) :
    Kept scfg d0 (d.set id (s.transition target actor reason now)) := by
  obtain ⟨severity, distinct⟩ := h.assessed id s found
  refine h.put (h.keyed id s found) ⟨severity, distinct⟩ ?_
  intro s0 found0
  obtain ⟨s1, found1, le⟩ := h.neverLowered id s0 found0
  cases found.symm.trans found1
  exact le

/-- One step over the in-memory store lowers nothing. -/
lemma memoryStep_kept (h : Kept cfg.severity w.store.incidents w.store.incidents)
    (st : memoryStep cfg w l = some w') :
    Kept cfg.severity w.store.incidents w'.store.incidents := by
  cases l with
  | process signal env =>
    unfold memoryStep at st
    dsimp only at st
    split at st
    · rename_i fresh
      cases st
      unfold newIds at fresh
      rw [List.all_eq_true] at fresh
      apply processFrom_keeps (P := fun m => Kept cfg.severity w.store.incidents m.incidents) h
      intro k less m h
      apply h.processOnce
      exact Option.isNone_iff_eq_none.mp (fresh k (List.mem_range.mpr (by omega)))
    · cases st
  | request r =>
    cases st
    exact h
  | advance i now =>
    rcases memoryStep_advance st with ⟨same, _⟩ | ⟨r, s, _, found, result⟩
    · rw [same]
      exact h
    · rw [result]
      exact h.transition found

/-- What is kept from one store to the next starts anew there. -/
lemma Kept.restart {scfg : SeverityConfig} {d0 d : Incidents} (h : Kept scfg d0 d) :
    Kept scfg d d :=
  ⟨h.keyed, h.assessed, .refl⟩

end

section
variable {cfg : ProcessorConfig} {d d' : Database} {l : SqlLabel}

/-- What absorbs an anomaly lowers nothing. -/
lemma Absorbs.neverLowered {scfg : SeverityConfig} {signal} {d d' : Incidents}
    (ok : IncidentsOk scfg d) (h : Absorbs scfg signal d d') : NeverLowered d d' := by
  have new : ∀ {d : Incidents} {id s}, d.get? id = none → ∀ s0, d.get? id = some s0 →
      s0.incident.severity.rank ≤ (s : StoredIncident).incident.severity.rank := by
    intro d id s fresh s0 found0
    rw [fresh] at found0
    cases found0
  cases h with
  | opened _ fresh => exact NeverLowered.refl.set (new fresh)
  | @appended _ s _ _ found _ _ =>
    apply NeverLowered.refl.set
    intro s0 found0
    cases found.symm.trans found0
    have summary := ok.summary _ s found
    have assessed : Assessed scfg s.incident := by
      refine ⟨congrArg SeverityVerdict.level summary.verdict, ?_⟩
      rw [summary.names]
      exact Py.nodup_sortedSet
    exact assessed.absorb
  | @superseded _ s _ _ found _ _ fresh =>
    apply NeverLowered.set
    · apply NeverLowered.refl.set
      intro s0 found0
      cases found.symm.trans found0
      exact le_rfl
    · exact new fresh

/-- One step over the database lowers nothing. -/
lemma sqlStep_neverLowered (ok : DatabaseOk cfg d) (st : sqlStep cfg d l = some d') :
    NeverLowered d.tables.incidents d'.tables.incidents := by
  rcases sqlStep_cases ok st with ⟨same, _⟩ |
    ⟨i, env, signal, tx, out, p, links, _, _, open', _, planned, staged, result⟩ |
    ⟨i, env, r, s, _, _, _, found, _, result⟩
  · rw [same]
    exact .refl
  · rw [result]
    have held := (ok.transactions i signal tx open').held
    exact (planned.absorbs held staged).1.neverLowered ok.incidents
  · rw [result]
    apply NeverLowered.refl.set
    intro s0 found0
    cases found.symm.trans found0
    exact le_rfl

end

/-- The level of the severity engine does not fall when no input has decreased, its reasons are
those of the rules that fire at the level or say that no rule fires, and no run of the processor
lowers the severity of an incident, active or not. -/
theorem severity_monotone (cfg : ProcessorConfig) :
    (∀ i j : SeverityInputs, i.Grow j →
      (evaluateSeverity i cfg.severity).level.rank ≤ (evaluateSeverity j cfg.severity).level.rank) ∧
    (∀ i : SeverityInputs,
      (firedRules i cfg.severity ≠ [] → (evaluateSeverity i cfg.severity).reasons =
        ((firedRules i cfg.severity).filter fun f =>
          decide (f.1 = (evaluateSeverity i cfg.severity).level)).map (·.2)) ∧
      (firedRules i cfg.severity = [] →
        evaluateSeverity i cfg.severity = ⟨.info, ["no rules fired"]⟩)) ∧
    (∀ w0 w w' ls ls', (memoryService cfg).init w0 → (memoryService cfg).Run w0 ls w →
      (memoryService cfg).Run w ls' w' → NeverLowered w.store.incidents w'.store.incidents) ∧
    ∀ d0 d d' ls ls', (sqlCorrelator cfg).init d0 → (sqlCorrelator cfg).Run d0 ls d →
      (sqlCorrelator cfg).Run d ls' d' → NeverLowered d.tables.incidents d'.tables.incidents := by
  refine ⟨fun i j h => h.level, fun i => ⟨fun some' => (evaluateSeverity_fired some').2.2,
    evaluateSeverity_none⟩, ?_, ?_⟩
  · rintro ⟨store, requests⟩ w w' ls ls' ⟨rfl, rfl⟩ run run'
    have start : Kept cfg.severity w.store.incidents w.store.incidents := by
      apply run.invariant (I := fun w => Kept cfg.severity w.store.incidents w.store.incidents)
      · intro s l s' h st
        exact (memoryStep_kept h st).restart
      · refine ⟨?_, ?_, .refl⟩
        · intro id s found
          cases found
        · intro id s found
          cases found
    have kept : Kept cfg.severity w.store.incidents w'.store.incidents := by
      refine run'.invariant (I := fun v => Kept cfg.severity w.store.incidents v.store.incidents) ?_
        start
      intro s l s' h st
      have next := memoryStep_kept h.restart st
      exact ⟨next.keyed, next.assessed, h.neverLowered.trans next.neverLowered⟩
    exact kept.neverLowered
  · intro d0 d d' ls ls' init run run'
    have ok := databaseOk_of_reachable ⟨d0, ls, init, run⟩
    have both : DatabaseOk cfg d' ∧ NeverLowered d.tables.incidents d'.tables.incidents := by
      refine run'.invariant (I := fun v => DatabaseOk cfg v ∧
        NeverLowered d.tables.incidents v.tables.incidents) ?_ ⟨ok, .refl⟩
      intro s l s' h st
      exact ⟨h.1.step st, h.2.trans (sqlStep_neverLowered h.1 st)⟩
    exact both.2

/-- An anomaly, as it is processed. -/
def observed (eventId : String) (at' : Int) (errorRate : ℚ) : MemoryLabel :=
  .process { anomalyOf "orders-service" eventId at' with
    signals := .ofList [("error_rate", .fin errorRate)] } fun _ => { token := eventId }

/-- The severities of the incidents of a store. -/
def Store.severities (m : Store) : List Severity := m.incidents.values.map (·.incident.severity)

/-- One anomaly opens an incident. A worse one follows, then one that is earlier and less bad. -/
lemma observed_states :
    ((memoryService {}).exec {} [observed "evt-1" 0 0]).map (·.store.severities) = some [.low] ∧
    ((memoryService {}).exec {} ([observed "evt-1" 0 0] ++
      [observed "evt-2" 90 (1 / 4), observed "evt-3" 60 0])).map (·.store.severities) =
        some [.high] := by
  constructor <;> decide +kernel

/-- In that run the severity rises. -/
theorem severity_monotone_rising : ∃ w w' : MemoryService,
    w.store.severities = [.low] ∧ w'.store.severities = [.high] ∧
      NeverLowered w.store.incidents w'.store.incidents := by
  obtain ⟨first, later⟩ := observed_states
  obtain ⟨w, run, low⟩ := Option.map_eq_some_iff.mp first
  obtain ⟨w', run', high⟩ := Option.map_eq_some_iff.mp later
  rw [← Machine.run_iff_exec] at run run'
  obtain ⟨v, before, after⟩ := run'.cut
  cases run.deterministic before
  exact ⟨w, w', low, high, (severity_monotone {}).2.2.1 {} w w' _ _ ⟨rfl, rfl⟩ run after⟩

/-- Without an anomaly no rule fires, and yet there is a reason. -/
theorem severity_reasons_none : ¬ ∀ (i : SeverityInputs) (cfg : SeverityConfig),
    (evaluateSeverity i cfg).reasons = ((firedRules i cfg).filter fun f =>
      decide (f.1 = (evaluateSeverity i cfg).level)).map (·.2) := by
  intro all
  have same := all ⟨0, 0, .fin 0, .fin 0, .fin 0, .fin 0⟩ {}
  exact absurd same (by decide +kernel)

end SentinelOps.IncidentCorrelator
