import SentinelOps.Rca.AgentSteps
import SentinelOps.Rca.RoundTrip

/-!
# One investigation per incident

The check for an existing investigation and the insert that reserves one are two steps, and the only
constraint behind them covers active investigations: an insert is accepted again once the
investigation it did not see was completed. `one_investigation_iff` says that a run keeps to one
investigation per incident exactly when no insert comes that late.
-/

namespace SentinelOps.Rca

variable {β : Type} {cfg : AgentConfig β}

/-- No incident has two investigations. -/
def AtMostOneInvestigation (s : Agent) : Prop := ∀ i, (s.db.ofIncident i).length ≤ 1

/-- A step is no insert into an incident whose investigations are all completed. -/
def Timely (env : AgentEnv β) (db : InvestigationDatabase) (t : Task) : Prop :=
  ∀ i, t.phase = .beginning i → env.call.applied = true →
    db.investigations.get? env.id = none → db.ofIncident i ≠ [] → db.activeOf i ≠ []

/-- No insert reaches an incident whose investigations are all completed. -/
def NoLateInsert (s : Agent) : AgentLabel β → Prop
  | .advance k env => ∀ t, s.tasks[k]? = some t → Timely env s.db t
  | .deliver _ _ | .submit _ _ | .restart _ => True

section
variable {env : AgentEnv β} {db db' : InvestigationDatabase} {t : Task}

/-- An insert keeps to one investigation per incident exactly when it is no late one. -/
lemma atMostOne_insert {i trigger inv} (one : ∀ i, (db.ofIncident i).length ≤ 1)
    (at_ : t.phase = .beginning i) (applied : env.call.applied = true)
    (inserted : db.beginInvestigation i trigger cfg.mode env.id env.now = .ok (inv, db')) :
    (∀ j, (db'.ofIncident j).length ≤ 1) ↔ Timely env db t := by
  obtain ⟨⟨free, inactive⟩, _, _⟩ :=
    (InvestigationDatabase.beginInvestigation_ok cfg.mode_ok).mp inserted
  constructor
  · intro few j at_' _ _ some_row
    cases at_.symm.trans at_'
    have grown := few i
    rw [InvestigationDatabase.ofIncident_begin cfg.mode_ok inserted] at grown
    have none_before : (db.ofIncident i).length = 0 := by simpa using grown
    exact absurd (List.length_eq_zero_iff.mp none_before) some_row
  · intro timely j
    rw [InvestigationDatabase.ofIncident_begin cfg.mode_ok inserted]
    by_cases same : i = j
    · subst same
      by_cases none_before : db.ofIncident i = []
      · simp [none_before]
      · exact absurd inactive (timely i at_ applied free none_before)
    · simpa [same] using one j

/-- A step that adds no row keeps to one investigation per incident, and is no late insert. -/
lemma atMostOne_keep (one : ∀ i, (db.ofIncident i).length ≤ 1)
    (same : ∀ i, (db'.ofIncident i).length = (db.ofIncident i).length)
    (no_insert : ∀ i, t.phase = .beginning i → env.call.applied = true → ¬ db.Vacant i env.id) :
    (∀ j, (db'.ofIncident j).length ≤ 1) ↔ Timely env db t := by
  refine iff_of_true ?_ ?_
  · intro j
    rw [same]
    exact one j
  · intro j at_ applied free _ inactive
    exact no_insert j at_ applied ⟨free, inactive⟩

/-- A step of a task keeps to one investigation per incident exactly when it is no late insert. -/
lemma atMostOne_effect {r} (one : ∀ i, (db.ofIncident i).length ≤ 1)
    (effect : TaskEffect cfg env db t r) :
    (∀ i, (r.db.ofIncident i).length ≤ 1) ↔ Timely env db t := by
  cases effect with
  | found at_ _ =>
    exact atMostOne_keep one (fun _ => rfl) fun _ there _ => (not_beginning at_ there).elim
  | vacant at_ | broke at_ | rejected at_ | left at_ | committed at_ =>
    exact atMostOne_keep one (fun _ => rfl) fun _ there _ => by cases at_.symm.trans there
  | refused at_ occupied =>
    refine atMostOne_keep one (fun _ => rfl) ?_
    intro i there _
    cases at_.symm.trans there
    exact occupied
  | failed at_ occupied =>
    refine atMostOne_keep one (fun _ => rfl) ?_
    intro i there applied
    obtain at_ | at_ | at_ := at_
    · cases at_.symm.trans there
    · cases at_.symm.trans there
      exact occupied at_ applied
    · cases at_.symm.trans there
  | reserved at_ returned inserted =>
    exact atMostOne_insert one at_ (applied_of_raised returned) inserted
  | lost at_ raised inserted => exact atMostOne_insert one at_ raised.2 inserted
  | completed at_ _ done =>
    exact atMostOne_keep one (fun _ => InvestigationDatabase.length_ofIncident_complete done)
      fun _ there _ => by cases at_.symm.trans there

end

/-- Every run of deliveries, submissions, failures and restarts has at most one investigation per
incident throughout exactly when no insert in it reaches an incident whose investigations are all
completed. -/
theorem one_investigation_iff {ls s} (r : (agent cfg).Run {} ls s) :
    (agent cfg).Always AtMostOneInvestigation {} ls ↔
      (agent cfg).EachStep (fun s l _ => NoLateInsert s l) {} ls := by
  refine r.always_iff (I := fun _ => True) (fun _ _ _ _ _ => trivial) ?_ trivial ?_
  · intro s l s' _ one st
    cases l with
    | deliver p n | submit p i | restart p =>
      cases st
      exact iff_of_true one trivial
    | advance k env =>
      obtain ⟨t, r, there, effect, rfl⟩ := agentStep_advance st
      refine (atMostOne_effect one effect).trans ?_
      constructor
      · intro timely t' there'
        cases there.symm.trans there'
        exact timely
      · intro timely
        exact timely t there
  · intro i
    exact Nat.zero_le _

/-- An agent whose topic opens one incident. -/
def sampleAgent : AgentConfig SourceAnswers where
  log _ := .opened "inc_0a1b2c"
  mode := "live"
  mode_ok := .inr rfl
  registry := (sampleDeps .default).registry
  provider := "anthropic"
  model := none
  limits := .default
  iso := sampleIso

/-- A call that returns, for an investigation with the given id whose model is not reached. -/
def sampleCall (id : String) : AgentEnv SourceAnswers where
  id := id
  nodes _ := sampleEnv { sampleReplies with plan := fun _ => .error (.other "RuntimeError") }

/-- A delivery and a request for one incident, and the order in which their tasks take their
steps. -/
def deliveryAndRequest (tasks : List Nat) : List (AgentLabel SourceAnswers) :=
  [.deliver 0 0, .submit 0 "inc_0a1b2c"] ++
    tasks.map fun k => .advance k (sampleCall (if k = 0 then "rca_1" else "rca_2"))

/-- Whether an insert comes late. -/
def lateTest (s : Agent) : AgentLabel SourceAnswers → Bool
  | .advance k env =>
    match (s.tasks[k]?).map Task.phase with
    | some (.beginning i) =>
      !(env.call.applied && (s.db.investigations.get? env.id).isNone) ||
        (s.db.ofIncident i).isEmpty || !(s.db.activeOf i).isEmpty
    | _ => true
  | .deliver _ _ | .submit _ _ | .restart _ => true

/-- The test is sound. -/
lemma noLateInsert_of_test {s : Agent} {l} (passed : lateTest s l = true) : NoLateInsert s l := by
  cases l with
  | deliver p n | submit p i | restart p => trivial
  | advance k env =>
    intro t there i at_ applied free some_row inactive
    simp [lateTest, there, at_, applied, free, inactive, some_row] at passed

/-- A request whose insert comes while the record's investigation runs starts none. -/
theorem one_investigation_queued : ∃ s,
    (agent sampleAgent).Run {} (deliveryAndRequest [1, 0, 0, 1, 1, 0, 0]) s ∧
      (agent sampleAgent).Always AtMostOneInvestigation {}
        (deliveryAndRequest [1, 0, 0, 1, 1, 0, 0]) := by
  have checked : (agent sampleAgent).check lateTest (fun _ => true) {}
      (deliveryAndRequest [1, 0, 0, 1, 1, 0, 0]) = true := by decide +kernel
  obtain ⟨s, r, _, each⟩ := Machine.run_of_check
    (Q := fun s l _ => NoLateInsert s l) (fun _ _ _ passed => noLateInsert_of_test passed) checked
  exact ⟨s, r, (one_investigation_iff r).mpr each⟩

/-- A request is checked before the record's investigation is begun, and its insert comes after that
investigation is completed. -/
theorem two_investigations : ∃ s,
    (agent sampleAgent).Run {} (deliveryAndRequest [1, 0, 0, 0, 1]) s ∧
      (s.db.ofIncident "inc_0a1b2c").length = 2 := by
  have whole : ((agent sampleAgent).exec {} (deliveryAndRequest [1, 0, 0, 0, 1])).map
      (fun s => (s.db.ofIncident "inc_0a1b2c").length) = some 2 := by decide +kernel
  obtain ⟨s, run, two⟩ := Option.map_eq_some_iff.mp whole
  exact ⟨s, Machine.run_iff_exec.mpr run, two⟩

end SentinelOps.Rca
