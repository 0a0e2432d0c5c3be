import SentinelOps.Rca.OneInvestigation

/-!
# No opened incident is dropped

The open investigations of the database are the ones that a task runs and the ones whose run was
broken off, each once (`OpenOk`), and what a consumer's task is at tells what its record led to
(`Follows`). Nothing takes up a run that was broken off, and a later attempt or redelivery is done
with the record as soon as it finds the row: `never_dropped_iff` says that a run of the agent drops
no incident exactly when it never comes to both, a broken run and a committed offset of one incident.
-/

namespace SentinelOps.Rca

open Kafka (ClientError CommitOutcome)

variable {β : Type} {cfg : AgentConfig β} {env : AgentEnv β} {db db' : InvestigationDatabase}
  {t : Task} {os : List Investigation}

/-- The investigations that tasks run. -/
def Agent.runs (s : Agent) : List Investigation := s.tasks.filterMap Task.runs

/-- The investigations that a task runs, or whose run was broken off. -/
def Agent.opens (s : Agent) : List Investigation := s.runs ++ s.brokenOff

/-- The active rows of the database are those of the open investigations. -/
structure OpenOk (db : InvestigationDatabase) (os : List Investigation) : Prop where
  keyed : ∀ {id row}, db.investigations.get? id = some row → row.id = id
  nodup : (os.map Investigation.id).Nodup
  recorded : ∀ inv ∈ os, ∃ row, db.investigations.get? inv.id = some row ∧
    row.incidentId = inv.incidentId ∧ row.status ∈ InvestigationDatabase.activeStatuses
  listed : ∀ {id row}, db.investigations.get? id = some row →
    row.status ∈ InvestigationDatabase.activeStatuses → ∃ inv ∈ os, inv.id = id

@[simp] lemma runs_handled : (handled t).runs = none := by
  unfold handled
  cases t.caller <;> rfl

@[simp] lemma runs_raises {i e} : (raises cfg t i e).runs = none := by
  unfold raises
  cases t.caller with
  | api => rfl
  | consumer n a =>
    dsimp only
    split
    · rfl
    · split <;> rfl

namespace OpenOk

/-- The order of the open investigations does not matter. -/
lemma perm {os'} (h : OpenOk db os) (same : os.Perm os') : OpenOk db os' where
  keyed := h.keyed
  nodup := (same.map _).nodup_iff.mp h.nodup
  recorded inv member := h.recorded inv (same.mem_iff.mpr member)
  listed present active := by
    obtain ⟨inv, member, own⟩ := h.listed present active
    exact ⟨inv, same.mem_iff.mp member, own⟩

/-- An insert opens an investigation. -/
lemma insert {i trigger id now inv} (h : OpenOk db os)
    (inserted : db.beginInvestigation i trigger cfg.mode id now = .ok (inv, db')) :
    OpenOk db' (inv :: os) := by
  obtain ⟨⟨free, _⟩, rfl, rfl⟩ :=
    (InvestigationDatabase.beginInvestigation_ok cfg.mode_ok).mp inserted
  have other {inv} (member : inv ∈ os) : inv.id ≠ id := by
    rintro rfl
    obtain ⟨row, present, _⟩ := h.recorded inv member
    cases free.symm.trans present
  constructor
  · intro id' row present
    rw [Dict.get?_set] at present
    split at present
    · rename_i same
      cases present
      exact same.symm
    · exact h.keyed present
  · rw [List.map_cons, List.nodup_cons]
    refine ⟨?_, h.nodup⟩
    intro member
    obtain ⟨inv, there, same⟩ := List.mem_map.mp member
    exact other there same
  · intro inv member
    rw [Dict.get?_set]
    obtain rfl | member := List.mem_cons.mp member
    · refine ⟨_, if_pos rfl, rfl, ?_⟩
      show str InvestigationStatus.pending ∈ _
      decide
    · rw [if_neg (other member)]
      exact h.recorded inv member
  · intro id' row present active
    rw [Dict.get?_set] at present
    split at present
    · rename_i same
      exact ⟨_, List.mem_cons_self, same.symm⟩
    · obtain ⟨inv, member, own⟩ := h.listed present active
      exact ⟨inv, List.mem_cons_of_mem _ member, own⟩

/-- A completion closes an investigation. -/
lemma complete {inv iso} {deps : GraphDeps β} {result now inv'} (h : OpenOk db (inv :: os))
    (done : db.completeInvestigation iso inv.id (completion deps result) now = .ok (inv', db')) :
    OpenOk db' os := by
  obtain ⟨row, present, rows⟩ := InvestigationDatabase.completeInvestigation_row done
  have closed : (InvestigationDatabase.completedRow row (completion deps result) now).status ∉
      InvestigationDatabase.activeStatuses := by
    show str (completion deps result).status ∉ _
    have terminal : (completion deps result).status.isTerminal = true := isTerminal_completion
    generalize (completion deps result).status = status at terminal
    cases status <;> first | decide | cases terminal
  have nodup := h.nodup
  rw [List.map_cons, List.nodup_cons] at nodup
  constructor
  · intro id' row' present'
    rw [rows, Dict.get?_set] at present'
    split at present'
    · rename_i same
      cases present'
      exact (h.keyed present).trans same.symm
    · exact h.keyed present'
  · exact nodup.2
  · intro inv' member
    have other : inv'.id ≠ inv.id := by
      intro same
      exact nodup.1 (List.mem_map.mpr ⟨inv', member, same⟩)
    rw [rows, Dict.get?_set_ne other]
    exact h.recorded inv' (List.mem_cons_of_mem _ member)
  · intro id' row' present' active
    rw [rows, Dict.get?_set] at present'
    split at present'
    · cases present'
      exact absurd active closed
    · rename_i other
      obtain ⟨inv', member, own⟩ := h.listed present' active
      obtain rfl | member := List.mem_cons.mp member
      · exact absurd own.symm other
      · exact ⟨inv', member, own⟩

/-- A step of a task opens what it begins and closes what it completes. -/
lemma effect {r} (h : OpenOk db (t.runs.toList ++ os)) (e : TaskEffect cfg env db t r) :
    OpenOk r.db ((r.task.runs.toList ++ r.broken.toList) ++ os) := by
  cases e with
  | found at_ _ =>
    have idle : t.runs = none := by
      obtain at_ | at_ := at_ <;> simp [Task.runs, at_]
    simpa [idle] using h
  | vacant at_ | refused at_ | rejected at_ | left at_ =>
    simpa [Task.runs, at_] using h
  | failed at_ _ =>
    have idle : t.runs = none := by
      obtain at_ | at_ | at_ := at_ <;> simp [Task.runs, at_]
    simpa [idle] using h
  | reserved at_ _ inserted =>
    have opened := (show OpenOk db os by simpa [Task.runs, at_] using h).insert inserted
    simpa [Task.runs] using opened
  | lost at_ _ inserted =>
    have opened := (show OpenOk db os by simpa [Task.runs, at_] using h).insert inserted
    simpa using opened
  | completed at_ _ done over_ =>
    have closed := (show OpenOk db (_ :: os) by simpa [Task.runs, at_] using h).complete done
    obtain rfl | ⟨e, rfl⟩ := over_ <;> simpa using closed
  | @broke inv e at_ _ =>
    have busy : t.runs = some inv := by simp [Task.runs, at_]
    simpa [busy] using h
  | committed at_ _ next =>
    obtain rfl | ⟨reason, rfl⟩ := next <;> simpa [Task.runs, at_] using h

end OpenOk

/-- What a consumer's task is at, in terms of its record. -/
def Follows (cfg : AgentConfig β) (db : InvestigationDatabase) (rejected : List Nat) (n : Nat) :
    Phase → Prop
  | .checking i | .beginning i | .lookingUp i => cfg.log n = .opened i
  | .running inv => cfg.log n = .opened inv.incidentId
  | .committing true => ∀ i, cfg.log n = .opened i → db.ofIncident i ≠ []
  | .committing false => n ∈ rejected
  | .rejecting _ | .ended => True

/-- A task of the consumer follows its record. -/
def TaskOk (cfg : AgentConfig β) (db : InvestigationDatabase) (rejected : List Nat) (t : Task) :
    Prop :=
  ∀ n a, t.caller = .consumer n a → Follows cfg db rejected n t.phase

/-- A record that is done with was rejected, or its incident has an investigation. -/
def Done (cfg : AgentConfig β) (db : InvestigationDatabase) (rejected : List Nat) (n : Nat) :
    Prop :=
  n ∈ rejected ∨ ∀ i, cfg.log n = .opened i → db.ofIncident i ≠ []

/-- No step of a task takes a row from an incident. -/
lemma ofIncident_effect {r} (e : TaskEffect cfg env db t r) {i} (some_row : db.ofIncident i ≠ []) :
    r.db.ofIncident i ≠ [] := by
  cases e with
  | found | vacant | refused | failed | broke | rejected | left | committed => exact some_row
  | reserved _ _ inserted | lost _ _ inserted =>
    rw [InvestigationDatabase.ofIncident_begin cfg.mode_ok inserted]
    simp [some_row]
  | completed _ _ done =>
    intro none_left
    have same := InvestigationDatabase.length_ofIncident_complete (i := i) done
    rw [none_left] at same
    exact some_row (List.length_eq_zero_iff.mp same.symm)

section
variable {rejected rejected' : List Nat}

/-- What a task follows is not undone by what others do. -/
lemma TaskOk.mono (ok : TaskOk cfg db rejected t)
    (rows : ∀ i, db.ofIncident i ≠ [] → db'.ofIncident i ≠ [])
    (more : rejected ⊆ rejected') : TaskOk cfg db' rejected' t := by
  intro n a by_
  have follows := ok n a by_
  cases at_ : t.phase with
  | checking i | beginning i | lookingUp i | running inv =>
    rw [at_] at follows
    exact follows
  | committing inTry =>
    rw [at_] at follows
    cases inTry with
    | true =>
      intro i opened
      exact rows i (follows i opened)
    | false => exact more follows
  | rejecting reason | ended => trivial

/-- What is done with stays so. -/
lemma Done.mono {n} (done : Done cfg db rejected n)
    (rows : ∀ i, db.ofIncident i ≠ [] → db'.ofIncident i ≠ [])
    (more : rejected ⊆ rejected') : Done cfg db' rejected' n := by
  obtain listed | found := done
  · exact .inl (more listed)
  · right
    intro i opened
    exact rows i (found i opened)

/-- An exception takes the task back to its record, or to its end. -/
lemma taskOk_raises {i e} (opened : ∀ n a, t.caller = .consumer n a → cfg.log n = .opened i) :
    TaskOk cfg db rejected (raises cfg t i e) := by
  intro n a by_
  unfold raises at by_ ⊢
  cases caller : t.caller with
  | api => trivial
  | consumer m b =>
    rw [caller] at by_
    dsimp only at by_ ⊢
    split
    · trivial
    · split
      · rename_i again
        rw [if_neg (by assumption), if_pos again] at by_
        cases by_
        exact opened _ _ caller
      · trivial

/-- An investigation of its incident is there: the task is done with its record. -/
lemma taskOk_handled {i} (opened : ∀ n a, t.caller = .consumer n a → cfg.log n = .opened i)
    (some_row : db.ofIncident i ≠ []) : TaskOk cfg db rejected (handled t) := by
  intro n a by_
  unfold handled at by_ ⊢
  cases caller : t.caller with
  | api => trivial
  | consumer m b =>
    rw [caller] at by_
    cases by_
    intro j opened'
    cases (opened _ _ caller).symm.trans opened'
    exact some_row

/-- A row of an incident. -/
lemma ofIncident_of_row {id row} (present : db.investigations.get? id = some row) :
    db.ofIncident row.incidentId ≠ [] := by
  apply List.ne_nil_of_mem (a := row)
  exact List.mem_filter.mpr ⟨Dict.mem_values_iff.mpr ⟨id, present⟩, by simp⟩

/-- After a step, a task of the consumer still follows its record. -/
lemma TaskOk.effect {r} (h : OpenOk db (t.runs.toList ++ os)) (ok : TaskOk cfg db rejected t)
    (e : TaskEffect cfg env db t r) :
    TaskOk cfg r.db (rejected ++ r.rejected.toList) r.task := by
  -- what the phase before the step says of the record
  have was {p} (at_ : t.phase = p) (n a) (by_ : t.caller = .consumer n a) :
      Follows cfg db rejected n p := at_ ▸ ok n a by_
  cases e with
  | found at_ some_row =>
    refine taskOk_handled ?_ some_row
    obtain at_ | at_ := at_ <;> exact was at_
  | vacant at_ | refused at_ _ => exact was at_
  | failed at_ _ =>
    apply taskOk_raises
    obtain at_ | at_ | at_ := at_ <;> exact was at_
  | reserved at_ _ inserted =>
    obtain ⟨_, rfl, _⟩ := (InvestigationDatabase.beginInvestigation_ok cfg.mode_ok).mp inserted
    exact was at_
  | lost at_ => exact taskOk_raises (was at_)
  | @completed inv _ _ _ at_ _ done next =>
    obtain rfl | ⟨e, rfl⟩ := next
    · refine taskOk_handled (was at_) ?_
      have member : inv ∈ t.runs.toList ++ os := by simp [Task.runs, at_]
      obtain ⟨row, present, own, _⟩ := h.recorded inv member
      have rows := InvestigationDatabase.length_ofIncident_complete (i := inv.incidentId) done
      intro none_left
      rw [none_left] at rows
      rw [← own] at rows
      exact ofIncident_of_row present (List.length_eq_zero_iff.mp rows.symm)
    · exact taskOk_raises (was at_)
  | broke at_ _ => exact taskOk_raises (was at_)
  | rejected at_ by_ =>
    intro n a by_'
    cases by_.symm.trans by_'
    simp [Follows]
  | left => exact fun _ _ _ => trivial
  | committed _ _ next =>
    obtain rfl | ⟨reason, rfl⟩ := next <;> exact fun _ _ _ => trivial

/-- A step of a task that commits an offset is done with its record. -/
lemma Done.effect {r n} (ok : TaskOk cfg db rejected t) (e : TaskEffect cfg env db t r)
    (committed : r.committed = some n) : Done cfg db rejected n := by
  cases e with
  | found | vacant | refused | failed | reserved | lost | completed | broke | rejected | left =>
    cases committed
  | @committed inTry m a _ at_ by_ _ =>
    have follows := ok m a by_
    rw [at_] at follows
    dsimp only at committed
    split at committed
    · cases committed
      cases inTry with
      | true => exact .inr follows
      | false => exact .inl follows
    · cases committed

end

/-- A step breaks off a run of the incident: its call does not come to a completion, or the insert
is not confirmed. -/
def Breaks (cfg : AgentConfig β) (env : AgentEnv β) (db : InvestigationDatabase) (t : Task)
    (i : String) : Prop :=
  (∃ inv, t.phase = .running inv ∧ inv.incidentId = i ∧
    ¬ (env.call.applied = true ∧ Completes cfg env db inv)) ∨
  t.phase = .beginning i ∧ (env.call.raised ≠ none ∧ env.call.applied = true) ∧ db.Vacant i env.id

/-- A step commits the offset. -/
def CommitsOffset (env : AgentEnv β) (t : Task) (n : Nat) : Prop :=
  (∃ inTry, t.phase = .committing inTry) ∧ (∃ a, t.caller = .consumer n a) ∧
    env.call.applied = true

/-- Which runs a step of a task breaks off. -/
lemma breaks_effect {r i} (e : TaskEffect cfg env db t r) :
    (∃ inv ∈ r.broken, inv.incidentId = i) ↔ Breaks cfg env db t i := by
  -- a step that breaks off none
  have none_broken (unbroken : ¬ Breaks cfg env db t i) :
      (∃ inv ∈ (none : Option Investigation), inv.incidentId = i) ↔ Breaks cfg env db t i :=
    iff_of_false (by simp) unbroken
  cases e with
  | found at_ _ =>
    apply none_broken
    rintro (⟨inv, there, _⟩ | ⟨there, _⟩) <;> obtain at_ | at_ := at_ <;> cases at_.symm.trans there
  | vacant at_ | rejected at_ | left at_ | committed at_ =>
    apply none_broken
    rintro (⟨inv, there, _⟩ | ⟨there, _⟩) <;> cases at_.symm.trans there
  | refused at_ occupied =>
    apply none_broken
    rintro (⟨inv, there, _⟩ | ⟨there, _, vacant⟩)
    · cases at_.symm.trans there
    · cases at_.symm.trans there
      exact occupied vacant
  | failed at_ occupied =>
    apply none_broken
    rintro (⟨inv, there, _⟩ | ⟨there, raised, vacant⟩)
    · obtain at_ | at_ | at_ := at_ <;> cases at_.symm.trans there
    · obtain at_ | at_ | at_ := at_ <;> cases at_.symm.trans there
      exact occupied at_ raised.2 vacant
  | reserved at_ returned =>
    apply none_broken
    rintro (⟨inv, there, _⟩ | ⟨_, raised, _⟩)
    · cases at_.symm.trans there
    · exact raised.1 returned
  -- the insertion was committed although the call raised: the investigation stays behind
  | lost at_ raised inserted =>
    obtain ⟨vacant, rfl, _⟩ :=
      (InvestigationDatabase.beginInvestigation_ok cfg.mode_ok).mp inserted
    constructor
    · rintro ⟨_, ⟨⟩, rfl⟩
      exact .inr ⟨at_, raised, vacant⟩
    · rintro (⟨inv, there, _⟩ | ⟨there, _⟩)
      · cases at_.symm.trans there
      · cases at_.symm.trans there
        exact ⟨_, rfl, rfl⟩
  | completed at_ applied done =>
    apply none_broken
    rintro (⟨inv, there, _, unfinished⟩ | ⟨there, _⟩)
    · cases at_.symm.trans there
      exact unfinished ⟨applied, _, done⟩
    · cases at_.symm.trans there
  | broke at_ unfinished =>
    constructor
    · rintro ⟨_, ⟨⟩, own⟩
      exact .inl ⟨_, at_, own, unfinished⟩
    · rintro (⟨inv, there, own, _⟩ | ⟨there, _⟩)
      · cases at_.symm.trans there
        exact ⟨_, rfl, own⟩
      · cases at_.symm.trans there

/-- Which offsets a step of a task commits. -/
lemma commits_effect {r n} (e : TaskEffect cfg env db t r) :
    n ∈ r.committed ↔ CommitsOffset env t n := by
  -- a step elsewhere commits none
  have none_committed (elsewhere : ∀ inTry, t.phase ≠ .committing inTry) :
      n ∈ (none : Option Nat) ↔ CommitsOffset env t n :=
    iff_of_false (by simp) fun commits => elsewhere _ commits.1.choose_spec
  cases e with
  | found at_ _ =>
    apply none_committed
    intro inTry there
    obtain at_ | at_ := at_ <;> cases at_.symm.trans there
  | failed at_ _ =>
    apply none_committed
    intro inTry there
    obtain at_ | at_ | at_ := at_ <;> cases at_.symm.trans there
  | vacant at_ | refused at_ | reserved at_ | lost at_ | completed at_ | broke at_ | rejected at_
  | left at_ =>
    apply none_committed
    intro inTry there
    cases at_.symm.trans there
  | committed at_ by_ _ =>
    by_cases applied : env.call.applied = true
    · simp only [applied, if_true, Option.mem_def, Option.some.injEq]
      constructor
      · rintro rfl
        exact ⟨⟨_, at_⟩, ⟨_, by_⟩, applied⟩
      · rintro ⟨_, ⟨a, by_'⟩, _⟩
        cases by_.symm.trans by_'
        rfl
    · simp only [applied]
      exact iff_of_false (by simp) fun commits => applied commits.2.2

/-- What holds of the agent at every moment. -/
structure AgentOk (cfg : AgentConfig β) (s : Agent) : Prop where
  opens : OpenOk s.db s.opens
  tasks : ∀ t ∈ s.tasks, TaskOk cfg s.db s.rejected t
  done : ∀ n ∈ s.committed, Done cfg s.db s.rejected n

/-- The values of a list at one position and elsewhere. -/
lemma perm_filterMap_set {α γ : Type} {f : α → Option γ} {xs : List α} {k : Nat} {x : α}
    (there : xs[k]? = some x) : ∃ rest, (xs.filterMap f).Perm ((f x).toList ++ rest) ∧
      ∀ y, ((xs.set k y).filterMap f).Perm ((f y).toList ++ rest) := by
  induction xs generalizing k with
  | nil => cases there
  | cons z xs ih =>
    cases k with
    | zero =>
      cases there
      refine ⟨xs.filterMap f, ?_, fun y => ?_⟩
      · cases h : f x <;> simp [h]
      · cases h : f y <;> simp [h]
    | succ k =>
      obtain ⟨rest, before, after⟩ := ih (k := k) (by simpa using there)
      have grow {ys : List α} {o : Option γ} (same : (ys.filterMap f).Perm (o.toList ++ rest)) :
          ((z :: ys).filterMap f).Perm (o.toList ++ ((f z).toList ++ rest)) := by
        have moved : ((f z).toList ++ ys.filterMap f).Perm (o.toList ++ ((f z).toList ++ rest)) :=
          (same.append_left _).trans (by
            rw [← List.append_assoc, ← List.append_assoc]
            exact List.perm_append_comm.append_right rest)
        cases h : f z with
        | none => simpa [h] using moved
        | some w => simpa [h] using moved
      exact ⟨_, grow before, fun y => grow (after y)⟩

/-- The values of a list some of whose elements are emptied. -/
lemma perm_filterMap_map {α γ : Type} {f : α → Option γ} {p : α → Prop} [DecidablePred p]
    {g : α → α} (emptied : ∀ x, f (g x) = none) (xs : List α) :
    (xs.filterMap f).Perm ((xs.map fun x => if p x then g x else x).filterMap f ++
      (xs.filter fun x => decide (p x)).filterMap f) := by
  induction xs with
  | nil => rfl
  | cons x xs ih =>
    by_cases hp : p x
    · cases h : f x with
      | none => simpa [hp, h, emptied] using ih
      | some y => simpa [hp, h, emptied] using (ih.cons y).trans List.perm_middle.symm
    · cases h : f x <;> simpa [hp, h] using ih

namespace AgentOk

variable {s s' : Agent}

lemma initial : AgentOk cfg {} where
  opens := by
    constructor
    · intro id row present
      cases present
    · exact List.nodup_nil
    · rintro inv ⟨⟩
    · intro id row present
      cases present
  tasks := by rintro t ⟨⟩
  done := by rintro n ⟨⟩

/-- A task that is added. -/
lemma add (h : AgentOk cfg s) {t} (idle : t.runs = none) (ok : TaskOk cfg s.db s.rejected t) :
    AgentOk cfg { s with tasks := s.tasks ++ [t] } where
  opens := by
    have same : Agent.opens { s with tasks := s.tasks ++ [t] } = s.opens := by
      simp [Agent.opens, Agent.runs, idle]
    rw [same]
    exact h.opens
  tasks t' member := by
    obtain member | member := List.mem_append.mp member
    · exact h.tasks t' member
    · cases List.mem_singleton.mp member
      exact ok
  done := h.done

/-- The end of a process breaks off what its tasks run. -/
lemma restart (h : AgentOk cfg s) {p} (st : agentStep cfg s (.restart p) = some s') :
    AgentOk cfg s' := by
  cases st
  constructor
  · refine h.opens.perm ?_
    have ended (t : Task) : Task.runs { t with phase := .ended } = none := rfl
    have split := (perm_filterMap_map (p := fun t => t.process = p) ended s.tasks).append_right
      s.brokenOff
    rw [List.append_assoc] at split
    exact split.trans (List.perm_append_comm.append_left _)
  · intro t member
    obtain ⟨t', member', rfl⟩ := List.mem_map.mp member
    split
    · exact fun _ _ _ => trivial
    · exact h.tasks t' member'
  · exact h.done

/-- A step of a task. -/
lemma advance (h : AgentOk cfg s) {k env} (st : agentStep cfg s (.advance k env) = some s') :
    AgentOk cfg s' := by
  obtain ⟨t, r, there, effect, rfl⟩ := agentStep_advance st
  obtain ⟨rest, before, after⟩ := perm_filterMap_set (f := Task.runs) there
  have opens := h.opens.perm (before.append_right s.brokenOff)
  rw [List.append_assoc] at opens
  have member : t ∈ s.tasks := List.mem_of_getElem? there
  have rows {i} (some_row : s.db.ofIncident i ≠ []) := ofIncident_effect effect some_row
  have more : s.rejected ⊆ s.rejected ++ r.rejected.toList := List.subset_append_left _ _
  constructor
  · refine (opens.effect effect).perm ?_
    have moved := ((after r.task).append_right (s.brokenOff ++ r.broken.toList)).symm
    refine List.Perm.trans ?_ moved
    simp only [List.append_assoc]
    refine List.Perm.append_left _ (List.perm_append_comm.trans ?_)
    rw [List.append_assoc]
  · intro t' member'
    obtain member' | rfl := List.mem_or_eq_of_mem_set member'
    · exact (h.tasks t' member').mono (fun _ => rows) more
    · exact (h.tasks t member).effect opens effect
  · intro n member'
    obtain old | new := List.mem_append.mp member'
    · exact (h.done n old).mono (fun _ => rows) more
    · have committed : r.committed = some n := by simpa using new
      exact (Done.effect (h.tasks t member) effect committed).mono (fun _ => rows) more

/-- Every step keeps it. -/
lemma step (h : AgentOk cfg s) {l} (st : (agent cfg).step s l = some s') : AgentOk cfg s' := by
  cases l with
  | deliver p n =>
    cases st
    refine h.add ?_ ?_
    · by_cases untried : cfg.maxRetries ≤ 0
      · simp [received, Task.runs, untried]
      · cases opened : cfg.log n <;> simp [received, Task.runs, untried, opened]
    · rintro m a by_
      cases by_
      unfold received
      dsimp only
      split
      · trivial
      · cases opened : cfg.log n with
        | ignored =>
          intro i there
          cases opened.symm.trans there
        | malformed text => trivial
        | opened i => exact opened
  | submit p i =>
    cases st
    exact h.add rfl (by rintro n a ⟨⟩)
  | advance k env => exact h.advance st
  | restart p => exact h.restart st

end AgentOk

/-- No record whose offset is committed is lost: it was rejected or its incident has an
investigation, and every investigation of the incident is terminal or owned by a live run. -/
def NeverDropped (cfg : AgentConfig β) (s : Agent) : Prop :=
  ∀ n ∈ s.committed, ∀ i, cfg.log n = .opened i →
    (n ∈ s.rejected ∨ s.db.ofIncident i ≠ []) ∧
      ∀ row ∈ s.db.activeOf i, ∃ inv ∈ s.runs, inv.id = row.id

/-- The offset a step of the agent commits. -/
def Commits (s : Agent) : AgentLabel β → Nat → Prop
  | .advance k env, n => ∃ t, s.tasks[k]? = some t ∧ CommitsOffset env t n
  | .deliver _ _, _ | .submit _ _, _ | .restart _, _ => False

/-- The incident of which a step of the agent breaks off a run. -/
def BreaksOff (cfg : AgentConfig β) (s : Agent) : AgentLabel β → String → Prop
  | .advance k env, i => ∃ t, s.tasks[k]? = some t ∧ Breaks cfg env s.db t i
  | .restart p, i => ∃ t ∈ s.tasks, t.process = p ∧ ∃ inv, t.runs = some inv ∧ inv.incidentId = i
  | .deliver _ _, _ | .submit _ _, _ => False

/-- No offset is committed of an incident of which a run was broken off, and no run is broken off of
an incident of which an offset is committed. -/
def Unbroken (cfg : AgentConfig β) (s : Agent) (l : AgentLabel β) : Prop :=
  ∀ n i, cfg.log n = .opened i →
    (Commits s l n → ∀ inv ∈ s.brokenOff, inv.incidentId ≠ i) ∧
      (BreaksOff cfg s l i → n ∉ s.committed)

section
variable {s s' : Agent}

/-- Nothing is dropped as long as no incident has both a committed offset and a broken run. -/
lemma neverDropped_iff (ok : AgentOk cfg s) : NeverDropped cfg s ↔
    ∀ n ∈ s.committed, ∀ i, cfg.log n = .opened i → ∀ inv ∈ s.brokenOff, inv.incidentId ≠ i := by
  constructor
  · rintro kept n committed i opened inv broken rfl
    obtain ⟨row, present, own, active⟩ :=
      ok.opens.recorded inv (List.mem_append_right _ broken)
    have row_active : row ∈ s.db.activeOf inv.incidentId := by
      simp only [InvestigationDatabase.activeOf, InvestigationDatabase.ofIncident, List.mem_filter,
        decide_eq_true_eq]
      exact ⟨⟨Dict.mem_values_iff.mpr ⟨_, present⟩, own⟩, active⟩
    obtain ⟨inv', running, same⟩ := (kept n committed _ opened).2 row row_active
    -- the investigation would be both run and broken off
    have nodup := ok.opens.nodup
    rw [Agent.opens, List.map_append, List.nodup_append] at nodup
    refine nodup.2.2 inv'.id (List.mem_map_of_mem running) inv.id (List.mem_map_of_mem broken) ?_
    rw [same]
    exact ok.opens.keyed present
  · intro unbroken n committed i opened
    refine ⟨(ok.done n committed).imp_right fun found => found i opened, ?_⟩
    intro row row_active
    simp only [InvestigationDatabase.activeOf, InvestigationDatabase.ofIncident, List.mem_filter,
      decide_eq_true_eq] at row_active
    obtain ⟨⟨there, own⟩, active⟩ := row_active
    obtain ⟨id, present⟩ := Dict.mem_values_iff.mp there
    obtain ⟨inv, member, same⟩ := ok.opens.listed present active
    obtain running | broken := List.mem_append.mp member
    · exact ⟨inv, running, same.trans (ok.opens.keyed present).symm⟩
    · obtain ⟨row', present', own', _⟩ := ok.opens.recorded inv member
      rw [same] at present'
      cases present.symm.trans present'
      exact absurd (own'.symm.trans own) (unbroken n committed i opened inv broken)

/-- The offsets that are committed after a step. -/
lemma mem_committed_step {l n} (st : (agent cfg).step s l = some s') :
    n ∈ s'.committed ↔ n ∈ s.committed ∨ Commits s l n := by
  cases l with
  | deliver p m | submit p i | restart p =>
    cases st
    simp [Commits]
  | advance k env =>
    obtain ⟨t, r, there, effect, rfl⟩ := agentStep_advance st
    simp only [Agent.after, List.mem_append, Option.mem_toList, ← commits_effect effect, Commits,
      there, Option.some.injEq, exists_eq_left', Option.mem_def]

/-- The incidents of which runs are broken off after a step. -/
lemma broken_step {l i} (st : (agent cfg).step s l = some s') :
    (∃ inv ∈ s'.brokenOff, inv.incidentId = i) ↔
      (∃ inv ∈ s.brokenOff, inv.incidentId = i) ∨ BreaksOff cfg s l i := by
  cases l with
  | deliver p m | submit p j =>
    cases st
    simp [BreaksOff]
  | restart p =>
    cases st
    simp only [List.mem_append, List.mem_filterMap, List.mem_filter, decide_eq_true_eq, or_and_right,
      exists_or, BreaksOff]
    refine or_congr_right ⟨?_, ?_⟩
    · rintro ⟨inv, ⟨t, ⟨member, own⟩, running⟩, incident⟩
      exact ⟨t, member, own, inv, running, incident⟩
    · rintro ⟨t, member, own, inv, running, incident⟩
      exact ⟨inv, ⟨t, ⟨member, own⟩, running⟩, incident⟩
  | advance k env =>
    obtain ⟨t, r, there, effect, rfl⟩ := agentStep_advance st
    simp only [Agent.after, List.mem_append, Option.mem_toList, or_and_right, exists_or, BreaksOff,
      there, Option.some.injEq, exists_eq_left', ← breaks_effect effect, Option.mem_def]

/-- A step that commits an offset breaks off no run. -/
lemma not_both {l n i} (commits : Commits s l n) : ¬ BreaksOff cfg s l i := by
  cases l with
  | deliver p m | submit p j | restart p => exact commits.elim
  | advance k env =>
    obtain ⟨t, there, ⟨inTry, at_⟩, _⟩ := commits
    rintro ⟨t', there', ⟨inv, at_', _⟩ | ⟨at_', _⟩⟩ <;> cases there.symm.trans there' <;>
      cases at_.symm.trans at_'

/-- A run of deliveries, redeliveries, submissions, failures, cancellations and restarts drops no
incident exactly when it never comes to both, a broken run and a committed offset of one
incident. -/
theorem never_dropped_iff {ls s} (r : (agent cfg).Run {} ls s) :
    (agent cfg).Always (NeverDropped cfg) {} ls ↔
      (agent cfg).EachStep (fun s l _ => Unbroken cfg s l) {} ls := by
  refine r.always_iff (I := AgentOk cfg) (fun _ _ _ ok st => ok.step st) ?_ AgentOk.initial ?_
  · intro s l s' ok kept st
    rw [neverDropped_iff (ok.step st)]
    rw [neverDropped_iff ok] at kept
    constructor
    · intro unbroken n i opened
      constructor
      · intro commits inv broken own
        obtain ⟨inv', broken', own'⟩ := (broken_step st).mpr (.inl ⟨inv, broken, own⟩)
        exact unbroken n ((mem_committed_step st).mpr (.inr commits)) i opened inv' broken' own'
      · intro breaks committed
        obtain ⟨inv, broken, own⟩ := (broken_step st).mpr (.inr breaks)
        exact unbroken n ((mem_committed_step st).mpr (.inl committed)) i opened inv broken own
    · intro steps n committed i opened inv broken own
      obtain committed | commits := (mem_committed_step st).mp committed <;>
        obtain ⟨inv', broken', own'⟩ | breaks := (broken_step st).mp ⟨inv, broken, own⟩
      · exact kept n committed i opened inv' broken' own'
      · exact (steps n i opened).2 breaks committed
      · exact (steps n i opened).1 commits inv' broken' own'
      · exact not_both commits breaks
  · rintro n ⟨⟩

end

/-- A delivery of the record, and the calls its task makes. -/
def delivery (calls : List CommitOutcome) : List (AgentLabel SourceAnswers) :=
  .deliver 0 0 :: calls.map fun call => .advance 0 { sampleCall "rca_1" with call }

/-- The error of a database that cannot be reached. -/
def refused : ClientError where
  name := "OperationalError"
  text := "connection refused"

/-- Whether no run is broken off so far, the step included. -/
def unbrokenTest (s : Agent) (l : AgentLabel SourceAnswers) : Bool :=
  ((agent sampleAgent).step s l).any fun s' => s'.brokenOff.isEmpty

/-- The test is sound. -/
lemma unbroken_of_test {s : Agent} {l} (passed : unbrokenTest s l = true) :
    Unbroken sampleAgent s l := by
  obtain ⟨s', st, empty⟩ := (Option.any_eq_true _ _).mp passed
  have none_broken {i} : ¬ ∃ inv ∈ s'.brokenOff, inv.incidentId = i := by
    simp [List.isEmpty_iff.mp empty]
  intro n i _
  constructor
  · intro _ inv broken own
    exact none_broken ((broken_step st).mpr (.inl ⟨inv, broken, own⟩))
  · intro breaks
    exact absurd ((broken_step st).mpr (.inr breaks)) none_broken

/-- A record whose handler checks, begins, runs and is done. -/
theorem never_dropped_handled : ∃ s,
    (agent sampleAgent).Run {} (delivery [.ok, .ok, .ok, .ok]) s ∧ s.committed = [0] ∧
      (agent sampleAgent).Always (NeverDropped sampleAgent) {} (delivery [.ok, .ok, .ok, .ok]) := by
  have checked : (agent sampleAgent).check unbrokenTest (fun s => decide (s.committed = [0])) {}
      (delivery [.ok, .ok, .ok, .ok]) = true := by decide +kernel
  obtain ⟨s, r, committed, each⟩ := Machine.run_of_check
    (Q := fun s l _ => Unbroken sampleAgent s l) (fun _ _ _ passed => unbroken_of_test passed)
    checked
  exact ⟨s, r, of_decide_eq_true committed, (never_dropped_iff r).mpr each⟩

/-- The call for the completion fails, the second attempt finds the row and the offset is committed:
the investigation stays pending and nobody runs it. -/
theorem incident_dropped : ∃ s,
    (agent sampleAgent).Run {} (delivery [.ok, .ok, .failed false refused, .ok, .ok]) s ∧
      ¬ NeverDropped sampleAgent s := by
  have whole : ((agent sampleAgent).exec {} (delivery [.ok, .ok, .failed false refused, .ok, .ok])).map
      (fun s => (s.committed, s.runs.isEmpty, (s.db.activeOf "inc_0a1b2c").length)) =
        some ([0], true, 1) := by decide +kernel
  obtain ⟨s, run, facts⟩ := Option.map_eq_some_iff.mp whole
  obtain ⟨committed, facts⟩ := Prod.mk.inj facts
  obtain ⟨idle, one⟩ := Prod.mk.inj facts
  refine ⟨s, Machine.run_iff_exec.mpr run, ?_⟩
  intro kept
  obtain ⟨row, rows⟩ := List.length_eq_one_iff.mp one
  obtain ⟨_, owned⟩ := kept 0 (by simp [committed]) "inc_0a1b2c" rfl
  obtain ⟨inv, running, _⟩ := owned row (by simp [rows])
  rw [List.isEmpty_iff.mp idle] at running
  cases running

end SentinelOps.Rca
