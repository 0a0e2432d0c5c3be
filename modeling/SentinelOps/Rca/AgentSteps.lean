import SentinelOps.Rca.Agent

/-!
# What a step of the agent does

`begin_investigation` adds a row to an incident that has no active one, `complete_investigation`
makes an active row terminal, and nothing else touches the rows. `TaskEffect` lists every way a step
of a task can end; `effect_of_stepTask` says that the list is complete.
-/

namespace SentinelOps.Rca

variable {β : Type} {cfg : AgentConfig β} {env : AgentEnv β} {db db' : InvestigationDatabase}
  {t : Task} {id incidentId : String}

/-- What is handed to the repository has a terminal status. -/
lemma isTerminal_completion {deps : GraphDeps β} {result : Invocation} :
    (completion deps result).status.isTerminal = true := by
  cases result with
  | returned state =>
    by_cases terminal : state.status.isTerminal = true
    · simp [completion, terminal]
    · simp only [completion, if_neg terminal]
      rfl
  | recursionError | raised escaped => rfl

namespace InvestigationDatabase

/-- The insert of an investigation meets neither its id nor an active one of its incident. -/
def Vacant (db : InvestigationDatabase) (incidentId id : String) : Prop :=
  db.investigations.get? id = none ∧ db.activeOf incidentId = []

/-- When the insert of an investigation succeeds. -/
lemma beginInvestigation_ok {trigger mode now inv} (valid : mode = "mock" ∨ mode = "live") :
    db.beginInvestigation incidentId trigger mode id now = .ok (inv, db') ↔
      db.Vacant incidentId id ∧
      newInvestigation id incidentId trigger mode now = inv ∧
      { db with investigations :=
        db.investigations.set id (newRow id incidentId trigger mode now) } = db' := by
  have readable : rowToInvestigation (newRow id incidentId trigger mode now) =
      some (newInvestigation id incidentId trigger mode now) := by
    simp [rowToInvestigation, newRow, newInvestigation, valid]
  unfold beginInvestigation
  split
  · rename_i taken
    simp only [reduceCtorEq, false_iff, not_and]
    rintro ⟨free, none_active⟩
    obtain some_id | some_active := taken
    · rw [free] at some_id
      cases some_id
    · exact absurd none_active some_active
  · rename_i free
    simp only [not_or, not_not, Bool.not_eq_true] at free
    simp only [readable, Except.ok.injEq, Prod.mk.injEq]
    constructor
    · rintro ⟨same, same'⟩
      exact ⟨⟨by simpa using free.1, free.2⟩, same, same'⟩
    · rintro ⟨_, same, same'⟩
      exact ⟨same, same'⟩

/-- A completion rewrites the row of its investigation. -/
lemma completeInvestigation_row {iso c now inv}
    (done : db.completeInvestigation iso id c now = .ok (inv, db')) :
    ∃ row, db.investigations.get? id = some row ∧
      db'.investigations = db.investigations.set id (completedRow row c now) := by
  unfold completeInvestigation at done
  split at done
  · cases done
  · rename_i row present
    dsimp only at done
    split at done
    · split at done
      · cases done
      · rename_i db1 inserted
        split at done
        · cases done
        · cases done
          refine ⟨row, present, ?_⟩
          have kept : db1.investigations = db.investigations := by
            unfold insertOutcome at inserted
            simp only [Option.bind_eq_bind, Option.bind_eq_some_iff, Option.some.injEq] at inserted
            obtain ⟨_, _, _, _, _, _, rfl⟩ := inserted
            rfl
          rw [kept]
    · cases done

/-- A row that was found is one of the incident. -/
lemma ofIncident_of_latest {inv} (found : db.getLatestInvestigation incidentId = .ok (some inv)) :
    db.ofIncident incidentId ≠ [] := by
  intro none_there
  simp [getLatestInvestigation, none_there, newest, loaded] at found

/-- An active row that was found is one of the incident. -/
lemma ofIncident_of_active {inv} (found : db.getActiveInvestigation incidentId = .ok (some inv)) :
    db.ofIncident incidentId ≠ [] := by
  intro none_there
  simp [getActiveInvestigation, activeOf, none_there, newest, loaded] at found

/-- The rows of the incidents after an insert. -/
lemma ofIncident_begin {i trigger mode now inv} (valid : mode = "mock" ∨ mode = "live")
    (inserted : db.beginInvestigation incidentId trigger mode id now = .ok (inv, db')) :
    db'.ofIncident i = db.ofIncident i ++
      if incidentId = i then [newRow id incidentId trigger mode now] else [] := by
  obtain ⟨⟨free, _⟩, _, rfl⟩ := (beginInvestigation_ok valid).mp inserted
  unfold ofIncident
  rw [Dict.filter_values_set_of_absent free]
  by_cases same : incidentId = i <;> simp [newRow, same]

/-- A completion leaves the number of an incident's rows. -/
lemma length_ofIncident_complete {i iso c now inv}
    (done : db.completeInvestigation iso id c now = .ok (inv, db')) :
    (db'.ofIncident i).length = (db.ofIncident i).length := by
  obtain ⟨row, present, rows⟩ := completeInvestigation_row done
  unfold ofIncident
  rw [rows]
  exact Dict.length_filter_values_set present rfl

end InvestigationDatabase

/-- The agent after a step of one of its tasks. -/
def Agent.after (s : Agent) (k : Nat) (r : TaskStep) : Agent where
  db := r.db
  tasks := s.tasks.set k r.task
  committed := s.committed ++ r.committed.toList
  rejected := s.rejected ++ r.rejected.toList
  brokenOff := s.brokenOff ++ r.broken.toList

/-- The repository accepts the outcome of an investigation's run. -/
def Completes (cfg : AgentConfig β) (env : AgentEnv β) (db : InvestigationDatabase)
    (inv : Investigation) : Prop :=
  ∃ done, db.completeInvestigation cfg.iso inv.id
    (runToCompletion (investigationDeps cfg env inv) env.nodes) env.now = .ok done

/-- The ways a step of a task can end. -/
inductive TaskEffect (cfg : AgentConfig β) (env : AgentEnv β) (db : InvestigationDatabase)
    (t : Task) : TaskStep → Prop where
  | found {i} :
    t.phase = .checking i ∨ t.phase = .lookingUp i →
    db.ofIncident i ≠ [] →
    TaskEffect cfg env db t { db, task := handled t }
  | vacant {i} :
    t.phase = .checking i →
    TaskEffect cfg env db t { db, task := { t with phase := .beginning i } }
  | refused {i} :
    t.phase = .beginning i →
    ¬ db.Vacant i env.id →
    TaskEffect cfg env db t { db, task := { t with phase := .lookingUp i } }
  | failed {i e} :
    t.phase = .checking i ∨ t.phase = .beginning i ∨ t.phase = .lookingUp i →
    (t.phase = .beginning i → env.call.applied = true → ¬ db.Vacant i env.id) →
    TaskEffect cfg env db t { db, task := raises cfg t i e }
  | reserved {i trigger inv db'} :
    t.phase = .beginning i →
    env.call.raised = none →
    db.beginInvestigation i trigger cfg.mode env.id env.now = .ok (inv, db') →
    TaskEffect cfg env db t { db := db', task := { t with phase := .running inv } }
  | lost {i trigger inv db' e} :
    t.phase = .beginning i →
    env.call.raised ≠ none ∧ env.call.applied = true →
    db.beginInvestigation i trigger cfg.mode env.id env.now = .ok (inv, db') →
    TaskEffect cfg env db t { db := db', task := raises cfg t i e, broken := some inv }
  | completed {inv inv' db' task} :
    t.phase = .running inv →
    env.call.applied = true →
    db.completeInvestigation cfg.iso inv.id
      (runToCompletion (investigationDeps cfg env inv) env.nodes) env.now = .ok (inv', db') →
    task = handled t ∨ (∃ e, task = raises cfg t inv.incidentId e) →
    TaskEffect cfg env db t { db := db', task }
  | broke {inv e} :
    t.phase = .running inv →
    ¬ (env.call.applied = true ∧ Completes cfg env db inv) →
    TaskEffect cfg env db t { db, task := raises cfg t inv.incidentId e, broken := some inv }
  | rejected {reason n a} :
    t.phase = .rejecting reason →
    t.caller = .consumer n a →
    TaskEffect cfg env db t
      { db, task := { t with phase := .committing false }, rejected := some n }
  | left {reason} :
    t.phase = .rejecting reason →
    TaskEffect cfg env db t { db, task := { t with phase := .ended } }
  | committed {inTry n a phase} :
    t.phase = .committing inTry →
    t.caller = .consumer n a →
    phase = .ended ∨ (∃ reason, phase = .rejecting reason) →
    TaskEffect cfg env db t
      { db, task := { t with phase }, committed := if env.call.applied = true then some n else none }

/-- A task elsewhere is not at its insert. -/
lemma not_beginning {i j} (at_ : t.phase = .checking i ∨ t.phase = .lookingUp i)
    (there : t.phase = .beginning j) : False := by
  obtain at_ | at_ := at_ <;> cases at_.symm.trans there

/-- The effects of the check. -/
lemma checking_effect {i} (at_ : t.phase = .checking i) :
    TaskEffect cfg env db t (stepChecking cfg env db t i) := by
  have elsewhere (there : t.phase = .beginning i) (_ : env.call.applied = true) :
      ¬ db.Vacant i env.id := (not_beginning (.inl at_) there).elim
  unfold stepChecking result
  cases env.call.raised with
  | some e => exact .failed (.inl at_) elsewhere
  | none =>
    match read : db.getLatestInvestigation i with
    | .error e => exact .failed (.inl at_) elsewhere
    | .ok (some inv) =>
      exact .found (.inl at_) (InvestigationDatabase.ofIncident_of_latest read)
    | .ok none => exact .vacant at_

/-- The effects of the query for the active investigation. -/
lemma lookingUp_effect {i} (at_ : t.phase = .lookingUp i) :
    TaskEffect cfg env db t (stepLookingUp cfg env db t i) := by
  have elsewhere (there : t.phase = .beginning i) (_ : env.call.applied = true) :
      ¬ db.Vacant i env.id := (not_beginning (.inr at_) there).elim
  unfold stepLookingUp result
  cases env.call.raised with
  | some e => exact .failed (.inr (.inr at_)) elsewhere
  | none =>
    match read : db.getActiveInvestigation i with
    | .error e => exact .failed (.inr (.inr at_)) elsewhere
    | .ok (some inv) =>
      exact .found (.inr at_) (InvestigationDatabase.ofIncident_of_active read)
    | .ok none => exact .failed (.inr (.inr at_)) elsewhere

/-- A call that returned took effect. -/
lemma applied_of_raised {o : Kafka.CommitOutcome} (returned : o.raised = none) :
    o.applied = true := by
  cases o with
  | ok => rfl
  | failed applied e => cases returned

/-- The effects of the insert. -/
lemma beginning_effect {i} (at_ : t.phase = .beginning i) :
    TaskEffect cfg env db t (stepBeginning cfg env db t i) := by
  have occupied {trigger e}
      (failed : db.beginInvestigation i trigger cfg.mode env.id env.now = .error e) :
      ¬ db.Vacant i env.id := by
    intro vacant
    have inserted : db.beginInvestigation i trigger cfg.mode env.id env.now =
        .ok (newInvestigation env.id i trigger cfg.mode env.now, _) :=
      (InvestigationDatabase.beginInvestigation_ok cfg.mode_ok).mpr ⟨vacant, rfl, rfl⟩
    cases failed.symm.trans inserted
  unfold stepBeginning
  dsimp only
  split
  · rename_i returned inserted
    exact .reserved at_ returned inserted
  · rename_i failed
    exact .refused at_ (occupied failed)
  · rename_i failed
    exact .failed (.inr (.inl at_)) fun _ _ => occupied failed
  · rename_i raised inserted
    split
    · rename_i applied
      exact .lost at_ ⟨by simp [raised], applied⟩ inserted
    · rename_i unapplied
      exact .failed (.inr (.inl at_)) fun _ applied => absurd applied unapplied
  · rename_i failed
    exact .failed (.inr (.inl at_)) fun _ _ => occupied failed

/-- The effects of a run. -/
lemma running_effect {inv} (at_ : t.phase = .running inv) :
    TaskEffect cfg env db t (stepRunning cfg env db t inv) := by
  unfold stepRunning
  dsimp only
  split
  · rename_i returned done
    exact .completed at_ (applied_of_raised returned) done (.inl rfl)
  · rename_i failed
    refine .broke at_ ?_
    rintro ⟨_, done, accepted⟩
    cases failed.symm.trans accepted
  · rename_i done
    split
    · rename_i applied
      exact .completed at_ applied done (.inr ⟨_, rfl⟩)
    · rename_i unapplied
      exact .broke at_ fun both => unapplied both.1
  · rename_i failed
    refine .broke at_ ?_
    rintro ⟨_, done, accepted⟩
    cases failed.symm.trans accepted

/-- The effects of a rejection. -/
lemma rejecting_effect {reason n a} (at_ : t.phase = .rejecting reason)
    (by_ : t.caller = .consumer n a) : TaskEffect cfg env db t (stepRejecting env db t n) := by
  unfold stepRejecting
  split
  · exact .rejected at_ by_
  · exact .left at_

/-- The effects of a commit. -/
lemma committing_effect {inTry n a} (at_ : t.phase = .committing inTry)
    (by_ : t.caller = .consumer n a) :
    TaskEffect cfg env db t (stepCommitting env db t n inTry) := by
  unfold stepCommitting
  dsimp only
  split
  · exact .committed at_ by_ (.inl rfl)
  · split
    · exact .committed at_ by_ (.inr ⟨_, rfl⟩)
    · exact .committed at_ by_ (.inl rfl)

/-- Every step of a task is one of the effects. -/
theorem effect_of_stepTask {r} (st : stepTask cfg env db t = some r) :
    TaskEffect cfg env db t r := by
  unfold stepTask at st
  split at st
  · rename_i at_
    cases st
    exact checking_effect at_
  · rename_i at_
    cases st
    exact beginning_effect at_
  · rename_i at_
    cases st
    exact lookingUp_effect at_
  · rename_i at_
    cases st
    exact running_effect at_
  · rename_i at_ by_
    cases st
    exact rejecting_effect at_ by_
  · rename_i at_ by_
    cases st
    exact committing_effect at_ by_
  · cases st
  · cases st
  · cases st

/-- A step of the agent that is one of a task is one of the effects. -/
lemma agentStep_advance {s s' : Agent} {k} (st : agentStep cfg s (.advance k env) = some s') :
    ∃ t r, s.tasks[k]? = some t ∧ TaskEffect cfg env s.db t r ∧ s' = s.after k r := by
  simp only [agentStep] at st
  split at st
  · cases st
  · rename_i t there
    obtain ⟨r, stepped, rfl⟩ := Option.map_eq_some_iff.mp st
    exact ⟨t, r, there, effect_of_stepTask stepped, rfl⟩

end SentinelOps.Rca
