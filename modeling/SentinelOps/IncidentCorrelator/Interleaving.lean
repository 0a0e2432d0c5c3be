import SentinelOps.IncidentCorrelator.SqlInvariant

/-!
# Concurrent processing over the SQL repository

`DatabaseOk` is kept by every step of every task. `concurrent_processing`: in every database that
any interleaving of processor calls and API transitions reaches, a key has one active incident at
most, an acknowledged event is evidence of exactly one incident, once, the aggregates of an incident
are those of its evidence, and what is evidence was acknowledged; a step of a call that does not
acknowledge its event leaves the rows as they are.
-/

namespace SentinelOps.IncidentCorrelator

namespace Database

/-- The task is a call of the processor that has a transaction open. -/
def Open (d : Database) (i : Nat) (signal : AnomalySignal) (tx : Transaction) : Prop :=
  ∃ w : Worker, d.tasks[i]? = some (.worker w) ∧ w.signal = signal ∧ w.phase = .running tx

/-- The task is a call of the processor that has acknowledged the event. -/
def Acknowledged (d : Database) (i : Nat) (eventId : String) : Prop :=
  ∃ (w : Worker) (out : ProcessOutcome), d.tasks[i]? = some (.worker w) ∧ w.phase = .returned out ∧
    w.signal.eventId = eventId

end Database

/-- What holds of an open transaction. -/
structure TransactionOk (cfg : ProcessorConfig) (d : Database) (i : Nat) (signal : AnomalySignal)
    (tx : Transaction) : Prop where
  held : Held d.tables signal tx
  progress : Progress cfg d.tables signal tx
  apart : ∀ j signal' tx', j ≠ i → d.Open j signal' tx' → Apart tx tx'

/-- What holds of a database and the tasks over it. -/
structure DatabaseOk (cfg : ProcessorConfig) (d : Database) : Prop where
  incidents : IncidentsOk cfg.severity d.tables.incidents
  transactions : ∀ i signal tx, d.Open i signal tx → TransactionOk cfg d i signal tx
  acknowledged : ∀ i ev, d.Acknowledged i ev → ∃ id, Evident d.tables.incidents id ev
  traced : ∀ id ev, Evident d.tables.incidents id ev → ∃ i, d.Acknowledged i ev

variable {cfg : ProcessorConfig} {d : Database} {i j : Nat} {signal signal' : AnomalySignal}
  {tx tx' : Transaction} {env : StepEnv}

/-- No other task has a property that none has. -/
lemma other_eq_false {p : Task → Bool} (h : d.other i p = false) (ne : j ≠ i) {task}
    (at' : d.tasks[j]? = some task) : p task = false := by
  unfold Database.other at h
  rw [List.any_eq_false] at h
  have mem : task ∈ d.tasks.eraseIdx i := List.mem_eraseIdx_iff_getElem?.mpr ⟨j, ne, at'⟩
  simpa using h task mem

/-- No other transaction has locked a row that no other task locks. -/
lemma not_locked {id} (h : d.other i (·.locks id) = false) (ne : j ≠ i)
    (open' : d.Open j signal' tx') : tx'.locked ≠ some id := by
  obtain ⟨w, at', _, phase⟩ := open'
  have free := other_eq_false h ne at'
  obtain ⟨s, a, _⟩ := w
  cases phase
  simpa [Task.locks, Task.transaction] using free

/-- No other transaction has inserted an incident of a key or an id that no other task inserts. -/
lemma not_inserted {key id} (h : d.other i (·.inserts key id) = false) (ne : j ≠ i)
    (open' : d.Open j signal' tx') {x} (inserted : .insertIncident x ∈ tx'.staged) :
    x.correlationKey ≠ key ∧ x.id ≠ id := by
  obtain ⟨w, at', _, phase⟩ := open'
  have free := other_eq_false h ne at'
  obtain ⟨s, a, _⟩ := w
  cases phase
  simp only [Task.inserts, Task.transaction, Option.any_some, List.any_eq_false] at free
  simpa using free _ inserted

/-- No other transaction has inserted evidence of an event that no other task adds. -/
lemma not_added {ev} (h : d.other i (·.adds ev) = false) (ne : j ≠ i)
    (open' : d.Open j signal' tx') {id e} (added : .addEvidence id e ∈ tx'.staged) :
    e.eventId ≠ ev := by
  obtain ⟨w, at', _, phase⟩ := open'
  have free := other_eq_false h ne at'
  obtain ⟨s, a, _⟩ := w
  cases phase
  simp only [Task.adds, Task.transaction, Option.any_some, List.any_eq_false] at free
  simpa using free _ added

/-- A write that the database takes: nothing it shows or that another task has written stands against
it. -/
def Admitted (d : Database) (i : Nat) (tx : Transaction) (write : Write) : Prop :=
  let view := d.tables.applyWrites tx.staged
  (∀ x, write = .insertIncident x → view.incidents.get? x.id = none ∧
    NoneActive view.incidents x.correlationKey ∧
    d.other i (·.inserts x.correlationKey x.id) = false) ∧
  ∀ id e, write = .addEvidence id e → view.evidenceExists e.eventId = false ∧
    d.other i (·.adds e.eventId) = false

/-- What a flush that goes through was. -/
lemma flush_goesOn {write phase} (st : flush d i tx write phase = some (.goesOn tx')) :
    tx' = { tx with phase, staged := tx.staged ++ [write] } ∧ Admitted d i tx write := by
  unfold flush at st
  dsimp only at st
  cases write with
  -- the two unique indexes: a row that shows, or one that another transaction holds
  | insertIncident x =>
    dsimp only at st
    split at st
    · cases st
    · rename_i clear
      split at st
      · cases st
      · rename_i free
        push Not at clear
        refine ⟨(StatementResult.goesOn.inj (Option.some.inj st)).symm, ?_, ?_⟩
        · intro x' same
          cases same
          refine ⟨Option.not_isSome_iff_eq_none.mp clear.1, activeOf_eq_nil.mp clear.2, ?_⟩
          exact Bool.not_eq_true _ ▸ free
        · intro id e same
          cases same
  | addEvidence id e =>
    dsimp only at st
    split at st
    · cases st
    · rename_i clear
      split at st
      · cases st
      · rename_i free
        refine ⟨(StatementResult.goesOn.inj (Option.some.inj st)).symm, ?_, ?_⟩
        · intro x same
          cases same
        · intro id' e' same
          cases same
          exact ⟨Bool.not_eq_true _ ▸ clear, Bool.not_eq_true _ ▸ free⟩
  | updateIncident x =>
    dsimp only at st
    split at st
    · refine ⟨(StatementResult.goesOn.inj (Option.some.inj st)).symm, ?_, ?_⟩
      · intro x same
        cases same
      · intro id e same
        cases same
    · cases st
  | addTransition id x =>
    refine ⟨(StatementResult.goesOn.inj (Option.some.inj st)).symm, ?_, ?_⟩
    · intro x same
      cases same
    · intro id e same
      cases same
  | linkIncident r =>
    dsimp only at st
    split at st
    · cases st
    · split at st
      · cases st
      · refine ⟨(StatementResult.goesOn.inj (Option.some.inj st)).symm, ?_, ?_⟩
        · intro x same
          cases same
        · intro id e same
          cases same

/-- No evidence of an event shows. -/
lemma evidenceExists_eq_false {t : Tables} {ev} (h : t.evidenceExists ev = false) :
    Unseen t.incidents ev := by
  intro id s e found mem own
  unfold Tables.evidenceExists at h
  rw [List.any_eq_false] at h
  have none' := h s (Dict.mem_values_iff.mpr ⟨id, found⟩)
  rw [List.any_eq_true] at none'
  exact none' ⟨e, mem, decide_eq_true own⟩

/-- Evidence of an event shows. -/
lemma evidenceExists_eq_true {t : Tables} {ev} (h : t.evidenceExists ev = true) :
    ∃ id, Evident t.incidents id ev := by
  unfold Tables.evidenceExists at h
  obtain ⟨s, mem, h⟩ := List.any_eq_true.mp h
  obtain ⟨id, found⟩ := Dict.mem_values_iff.mp mem
  obtain ⟨e, he, own⟩ := List.any_eq_true.mp h
  rw [← of_decide_eq_true own]
  exact ⟨id, s, found, List.mem_map_of_mem he⟩

namespace TransactionOk

/-- A transaction that has written and locked nothing. -/
lemma idle (empty : tx.staged = []) (none' : tx.locked = none)
    (progress : Progress cfg d.tables signal tx) : TransactionOk cfg d i signal tx := by
  refine ⟨⟨?_, ?_, ?_, ?_⟩, progress, fun j signal' tx' _ _ => ⟨?_, ?_, ?_⟩⟩ <;>
    simp [empty, none']

/-- A transaction that has just begun. -/
lemma begun : TransactionOk cfg d i signal {} := idle rfl rfl ⟨rfl, rfl⟩

/-- A transaction that goes on without a write or a lock. -/
lemma moves (h : TransactionOk cfg d i signal tx) (staged : tx'.staged = tx.staged)
    (locked : tx'.locked = tx.locked) (progress : Progress cfg d.tables signal tx') :
    TransactionOk cfg d i signal tx' := by
  obtain ⟨phase, ws, l, n⟩ := tx
  obtain ⟨phase', ws', l', n'⟩ := tx'
  cases staged
  cases locked
  refine ⟨⟨h.held.locked, h.held.absent, h.held.own, h.held.unseen⟩, progress, ?_⟩
  intro j signal' tx' ne open'
  obtain ⟨a, b, c⟩ := h.apart j signal' tx' ne open'
  exact ⟨a, b, c⟩

/-- A transaction that has planned its writes, after the locking read. -/
lemma planned (empty : tx.staged = []) {active aenv}
    (row : ∀ a, active = some a → (∃ s, d.tables.incidents.get? a.id = some s ∧ s.incident = a) ∧
      a.correlationKey = signal.key ∧ a.isActive = true)
    (free : ∀ a, active = some a → d.other i (·.locks a.id) = false)
    (st : IncidentCorrelator.planned cfg signal active aenv tx = .goesOn tx') :
    TransactionOk cfg d i signal tx' := by
  unfold IncidentCorrelator.planned at st
  split at st
  · rename_i p made
    cases st
    refine ⟨⟨?_, ?_, ?_, ?_⟩, ⟨⟨active, aenv, made, rfl, ?_⟩, ?_⟩, ?_⟩
    · intro id own
      obtain ⟨a, some', rfl⟩ := Option.map_eq_some_iff.mp own
      obtain ⟨⟨s, found, rfl⟩, key, act⟩ := row a some'
      exact ⟨s, found, key, act⟩
    · intro x mem
      simp [empty] at mem
    · intro x mem
      simp [empty] at mem
    · intro id e mem
      simp [empty] at mem
    · intro a some'
      exact (row a some').1
    · simp [empty]
    · intro j signal' tx' ne open'
      refine ⟨?_, ?_, ?_⟩
      · intro id own
        obtain ⟨a, some', rfl⟩ := Option.map_eq_some_iff.mp own
        exact not_locked (free a some') ne open'
      · intro x x' mem
        simp [empty] at mem
      · intro id id' e e' mem
        simp [empty] at mem
  · cases st

/-- A transaction after a write that the database takes. -/
lemma flushed (h : TransactionOk cfg d i signal tx) {write phase} (admitted : Admitted d i tx write)
    (before : ∀ x, write = .insertIncident x → ∀ w ∈ tx.staged, w.target = tx.locked)
    (progress : Progress cfg d.tables signal { tx with phase, staged := tx.staged ++ [write] }) :
    TransactionOk cfg d i signal { tx with phase, staged := tx.staged ++ [write] } := by
  obtain ⟨insertable, addable⟩ := admitted
  refine ⟨⟨h.held.locked, ?_, ?_, ?_⟩, progress, ?_⟩
  · intro x mem
    rcases List.mem_append.mp mem with old | new
    · exact h.held.absent x old
    · exact applyWrites_keeps (insertable x (List.mem_singleton.mp new).symm).1
  · intro x mem id s found key active
    rcases List.mem_append.mp mem with old | new
    · exact h.held.own x old id s found key active
    · have write' := (List.mem_singleton.mp new).symm
      -- another active row of the key would still show beside what the transaction has written
      by_contra other
      have shows : (d.tables.applyWrites tx.staged).incidents.get? id = some s := by
        rw [get?_applyWrites_ne]
        · exact found
        · intro w mem'
          rw [before x write' w mem']
          exact other
      rw [(insertable x write').2.1 id s shows key] at active
      cases active
  · intro id e mem
    rcases List.mem_append.mp mem with old | new
    · exact h.held.unseen id e old
    · have clear := evidenceExists_eq_false (addable id e (List.mem_singleton.mp new).symm).1
      intro id' s e' found he'
      have other : ∀ x, .insertIncident x ∈ tx.staged → x.id ≠ id' := by
        rintro x mem' rfl
        rw [h.held.absent x mem'] at found
        cases found
      obtain ⟨s', shows, kept⟩ := applyWrites_grows found other
      exact clear id' s' e' shows (kept e' he')
  · intro j signal' tx' ne open'
    have apart := h.apart j signal' tx' ne open'
    refine ⟨apart.locked, ?_, ?_⟩
    · intro x x' mem mem'
      rcases List.mem_append.mp mem with old | new
      · exact apart.inserted x x' old mem'
      · obtain ⟨_, _, free⟩ := insertable x (List.mem_singleton.mp new).symm
        obtain ⟨key, id⟩ := not_inserted free ne open' mem'
        exact ⟨key.symm, id.symm⟩
    · intro id id' e e' mem mem'
      rcases List.mem_append.mp mem with old | new
      · exact apart.added id id' e e' old mem'
      · obtain ⟨_, free⟩ := addable id e (List.mem_singleton.mp new).symm
        exact (not_added free ne open' mem').symm

end TransactionOk

/-- What may precede the insertion of an incident is about the row that is locked. -/
lemma Progress.before {write rest p} (h : Progress cfg d.tables signal tx)
    (phase : tx.phase = .writing (write :: rest) p) {x} (insert' : write = .insertIncident x) :
    ∀ w ∈ tx.staged, w.target = tx.locked := by
  unfold Progress at h
  rw [phase] at h
  obtain ⟨⟨active, aenv, made, locked, _⟩, split'⟩ := h
  rw [insert'] at split'
  rw [locked]
  exact plan_insert made split'

/-- A statement that goes on keeps what holds of its transaction. -/
lemma statement_ok (ok : DatabaseOk cfg d) (h : TransactionOk cfg d i signal tx)
    (st : statement cfg d i env signal tx = some (.goesOn tx')) :
    TransactionOk cfg d i signal tx' := by
  have progress := h.progress
  unfold Progress at progress
  unfold statement at st
  dsimp only at st
  cases phase : tx.phase with
  | begun =>
    rw [phase] at st progress
    obtain ⟨empty, none'⟩ := progress
    have e := (StatementResult.goesOn.inj (Option.some.inj st)).symm
    rw [e]
    refine .idle empty none' ?_
    unfold Progress
    by_cases seen : (d.tables.applyWrites tx.staged).evidenceExists signal.eventId = true
    · rw [if_pos seen]
      rw [empty] at seen
      exact .inl ⟨empty, evidenceExists_eq_true seen⟩
    · rw [if_neg seen]
      exact ⟨empty, none'⟩
  | unseen =>
    rw [phase] at st progress
    have e := (StatementResult.goesOn.inj (Option.some.inj st)).symm
    rw [e]
    exact .idle progress.1 progress.2 progress
  | locking candidate =>
    rw [phase] at st progress
    cases candidate with
    | none =>
      refine .planned progress.1 ?_ ?_ (Option.some.inj st)
      · intro a some'
        cases some'
      · intro a some'
        cases some'
    | some id =>
      dsimp only at st
      split at st
      · cases st
      · rename_i free
        -- under the lock the row is read again, with the key and the activity in the condition
        have row : ∀ a, ((d.tables.incidents.get? id).filter fun s =>
            s.incident.correlationKey = signal.key ∧ s.incident.isActive = true).map (·.incident) =
              some a → a.id = id ∧ (∃ s, d.tables.incidents.get? a.id = some s ∧ s.incident = a) ∧
              a.correlationKey = signal.key ∧ a.isActive = true := by
          intro a some'
          obtain ⟨s, filtered, rfl⟩ := Option.map_eq_some_iff.mp some'
          obtain ⟨found, matches'⟩ := Option.filter_eq_some_iff.mp filtered
          have own := ok.incidents.keyed id s found
          exact ⟨own, ⟨s, own ▸ found, rfl⟩, of_decide_eq_true matches'⟩
        refine .planned progress.1 (fun a some' => (row a some').2) ?_ (Option.some.inj st)
        intro a some'
        rw [(row a some').1]
        exact Bool.not_eq_true _ ▸ free
  | writing rest p =>
    rw [phase] at st progress
    cases rest with
    | nil =>
      have e := (StatementResult.goesOn.inj (Option.some.inj st)).symm
      rw [e]
      refine h.moves rfl rfl ?_
      have written : tx.staged ++ [] = p.writes := progress.2
      refine ⟨progress.1, [], ?_⟩
      rw [← written]
      simp
    | cons write rest =>
      obtain ⟨e, admitted⟩ := flush_goesOn st
      rw [e]
      refine h.flushed admitted (fun x same => h.progress.before phase same) ?_
      refine ⟨progress.1, ?_⟩
      rw [← progress.2, List.append_assoc]
      rfl
  | linking candidates p =>
    rw [phase] at st progress
    cases candidates with
    | nil =>
      have e := (StatementResult.goesOn.inj (Option.some.inj st)).symm
      rw [e]
      exact h.moves rfl rfl (.inr ⟨p, progress⟩)
    | cons other rest =>
      dsimp only at st
      split at st
      · cases st
      · have e := (StatementResult.goesOn.inj (Option.some.inj st)).symm
        rw [e]
        exact h.moves rfl rfl progress
      · have e := (StatementResult.goesOn.inj (Option.some.inj st)).symm
        rw [e]
        refine h.moves rfl rfl ?_
        unfold Progress
        split <;> rename_i choice <;> split at choice <;> cases choice <;> exact progress
  | inserting r candidates p =>
    rw [phase] at st progress
    obtain ⟨e, admitted⟩ := flush_goesOn st
    obtain ⟨planned, links, staged⟩ := progress
    rw [e]
    refine h.flushed admitted ?_ ?_
    · intro x same
      cases same
    · refine ⟨planned, links ++ [r], ?_⟩
      rw [staged, List.map_append, List.append_assoc]
      rfl
  | committing out =>
    rw [phase] at st
    cases st

/-- The end of a transaction is its commit. -/
lemma statement_committing {out} (ends : tx.phase = .committing out) :
    statement cfg d i env signal tx = some (.commits out) := by
  unfold statement
  rw [ends]

/-- A commit is the end of its transaction. -/
lemma statement_commits {out} (st : statement cfg d i env signal tx = some (.commits out)) :
    tx.phase = .committing out := by
  unfold statement at st
  dsimp only at st
  have flush_not : ∀ write phase, flush d i tx write phase ≠ some (.commits out) := by
    intro write phase
    unfold flush
    dsimp only
    split
    · split_ifs <;> rintro ⟨⟩
    · split_ifs <;> rintro ⟨⟩
    · split_ifs <;> rintro ⟨⟩
    · rintro ⟨⟩
    · split_ifs <;> rintro ⟨⟩
  have planned_not : ∀ active aenv, planned cfg signal active aenv tx ≠ .commits out := by
    intro active aenv
    unfold planned
    split <;> rintro ⟨⟩
  cases phase : tx.phase with
  | begun =>
    rw [phase] at st
    cases st
  | unseen =>
    rw [phase] at st
    cases st
  | locking candidate =>
    rw [phase] at st
    cases candidate with
    | none => exact absurd (Option.some.inj st) (planned_not _ _)
    | some id =>
      dsimp only at st
      split at st
      · cases st
      · exact absurd (Option.some.inj st) (planned_not _ _)
  | writing rest p =>
    rw [phase] at st
    cases rest with
    | nil => cases st
    | cons write rest => exact absurd st (flush_not _ _)
  | linking candidates p =>
    rw [phase] at st
    cases candidates with
    | nil => cases st
    | cons other rest =>
      dsimp only at st
      split at st <;> cases st
  | inserting r candidates p =>
    rw [phase] at st
    exact absurd st (flush_not _ _)
  | committing out' =>
    rw [phase] at st
    cases st
    rfl

/-- A transaction is not disturbed as long as the rows stay as they are. -/
lemma Held.quiet {t : Tables} (h : Held t signal tx) : Undisturbed t t tx where
  locked _ _ := rfl
  absent := h.absent
  active _ _ _ s' found key active := ⟨s', found, key, active⟩
  unseen := h.unseen
  grows _ _ there := there

section
variable {t' : Tables} {tasks' : List Task} {task' : Task}

/-- One task steps, or is new: what has to be shown of it, of the rows and of the others. -/
lemma DatabaseOk.replace (ok : DatabaseOk cfg d) (here : tasks'[i]? = some task')
    (others : ∀ j, j ≠ i → tasks'[j]? = d.tasks[j]?) (pending : ∀ ev, ¬ d.Acknowledged i ev)
    (incidents : IncidentsOk cfg.severity t'.incidents)
    (quiet : ∀ j signal tx, j ≠ i → d.Open j signal tx → Undisturbed d.tables t' tx)
    (grows : ∀ id ev, Evident d.tables.incidents id ev → Evident t'.incidents id ev)
    (own : ∀ w tx, task' = .worker w → w.phase = .running tx →
      Held t' w.signal tx ∧ Progress cfg t' w.signal tx ∧
        ∀ j signal' tx', j ≠ i → d.Open j signal' tx' → Apart tx tx')
    (returned : ∀ w out, task' = .worker w → w.phase = .returned out →
      ∃ id, Evident t'.incidents id w.signal.eventId)
    (traced : ∀ id ev, Evident t'.incidents id ev → Evident d.tables.incidents id ev ∨
      ∃ w out, task' = .worker w ∧ w.phase = .returned out ∧ w.signal.eventId = ev) :
    DatabaseOk cfg { tables := t', tasks := tasks' } where
  incidents := incidents
  transactions j signal tx := by
    rintro ⟨w, at', rfl, phase⟩
    by_cases e : j = i
    · subst e
      have same : task' = .worker w := Option.some.inj (here.symm.trans at')
      obtain ⟨held, progress, apart⟩ := own w tx same phase
      refine ⟨held, progress, ?_⟩
      rintro j' signal' tx' ne ⟨w', at'', rfl, phase'⟩
      exact apart j' _ tx' ne ⟨w', (others j' ne).symm.trans at'', rfl, phase'⟩
    · have before : d.Open j w.signal tx := ⟨w, (others j e).symm.trans at', rfl, phase⟩
      have h := ok.transactions j w.signal tx before
      have undisturbed := quiet j w.signal tx e before
      refine ⟨h.held.undisturbed undisturbed, h.progress.undisturbed undisturbed, ?_⟩
      rintro j' signal' tx' ne ⟨w', at'', rfl, phase'⟩
      by_cases e' : j' = i
      · subst e'
        have same : task' = .worker w' := Option.some.inj (here.symm.trans at'')
        exact ((own w' tx' same phase').2.2 j _ tx e before).symm
      · exact h.apart j' _ tx' ne ⟨w', (others j' e').symm.trans at'', rfl, phase'⟩
  acknowledged j ev := by
    rintro ⟨w, out, at', phase, rfl⟩
    by_cases e : j = i
    · subst e
      exact returned w out (Option.some.inj (here.symm.trans at')) phase
    · obtain ⟨id, there⟩ := ok.acknowledged j _ ⟨w, out, (others j e).symm.trans at', phase, rfl⟩
      exact ⟨id, grows id _ there⟩
  traced id ev there := by
    rcases traced id ev there with old | ⟨w, out, same, phase, event⟩
    · obtain ⟨j, w, out, at', phase, event⟩ := ok.traced id ev old
      have ne : j ≠ i := by
        rintro rfl
        exact pending ev ⟨w, out, at', phase, event⟩
      exact ⟨j, w, out, (others j ne).trans at', phase, event⟩
    · exact ⟨i, w, out, same ▸ here, phase, event⟩

/-- One task steps, or is new, and the rows stay as they are. -/
lemma DatabaseOk.goesOn (ok : DatabaseOk cfg d) (here : tasks'[i]? = some task')
    (others : ∀ j, j ≠ i → tasks'[j]? = d.tasks[j]?) (pending : ∀ ev, ¬ d.Acknowledged i ev)
    (own : ∀ w tx, task' = .worker w → w.phase = .running tx → TransactionOk cfg d i w.signal tx)
    (silent : ∀ w out, task' = .worker w → w.phase ≠ .returned out) :
    DatabaseOk cfg { tables := d.tables, tasks := tasks' } := by
  apply ok.replace here others pending ok.incidents
  · intro j signal tx _ open'
    exact (ok.transactions j signal tx open').held.quiet
  · intro id ev there
    exact there
  · intro w tx same phase
    have h := own w tx same phase
    exact ⟨h.held, h.progress, h.apart⟩
  · intro w out same phase
    exact absurd phase (silent w out same)
  · intro id ev there
    exact .inl there

end

/-- An exception ends a call or starts its next attempt. -/
lemma Worker.fail_phase {w : Worker} {e} :
    (w.fail cfg e).signal = w.signal ∧ ((w.fail cfg e).phase = .running {} ∨
      ∃ x, (w.fail cfg e).phase = .raised x) := by
  unfold Worker.fail
  split
  · split
    · exact ⟨rfl, .inr ⟨_, rfl⟩⟩
    · exact ⟨rfl, .inl rfl⟩
  · exact ⟨rfl, .inr ⟨_, rfl⟩⟩

/-- A task that is set at its place. -/
lemma tasks_set {task : Task} (task' : Task) (at' : d.tasks[i]? = some task) :
    (d.tasks.set i task')[i]? = some task' ∧
      ∀ j, j ≠ i → (d.tasks.set i task')[j]? = d.tasks[j]? := by
  refine ⟨?_, fun j ne => List.getElem?_set_ne ne.symm⟩
  obtain ⟨h, _⟩ := List.getElem?_eq_some_iff.mp at'
  simp [h]

/-- A task that is appended. -/
lemma tasks_append (task' : Task) : (d.tasks ++ [task'])[d.tasks.length]? = some task' ∧
    ∀ j, j ≠ d.tasks.length → (d.tasks ++ [task'])[j]? = d.tasks[j]? := by
  refine ⟨by simp, fun j ne => ?_⟩
  rcases Nat.lt_or_gt_of_ne ne with lt | gt
  · exact List.getElem?_append_left lt
  · rw [List.getElem?_eq_none (by simp; omega), List.getElem?_eq_none (by omega)]

/-- A call that has failed or restarted. -/
lemma DatabaseOk.failed (ok : DatabaseOk cfg d) {w : Worker} {tx e}
    (at' : d.tasks[i]? = some (.worker w)) (phase : w.phase = .running tx) :
    DatabaseOk cfg { tables := d.tables, tasks := d.tasks.set i (.worker (w.fail cfg e)) } := by
  obtain ⟨here, others⟩ := tasks_set (.worker (w.fail cfg e)) at'
  apply ok.goesOn here others
  · rintro ev ⟨w', out, at'', phase', _⟩
    cases at'.symm.trans at''
    cases phase.symm.trans phase'
  · rintro w' tx' ⟨⟩ phase'
    rcases (@Worker.fail_phase cfg w e).2 with again | ⟨x, ended⟩
    · cases again.symm.trans phase'
      exact .begun
    · cases ended.symm.trans phase'
  · rintro w' out ⟨⟩ phase'
    rcases (@Worker.fail_phase cfg w e).2 with again | ⟨x, ended⟩
    · cases again.symm.trans phase'
    · cases ended.symm.trans phase'

/-- A call that has committed its transaction. -/
lemma DatabaseOk.committed (ok : DatabaseOk cfg d) {w : Worker} {tx out}
    (at' : d.tasks[i]? = some (.worker w)) (running : w.phase = .running tx)
    (ends : tx.phase = .committing out) :
    DatabaseOk cfg { tables := d.tables.applyWrites tx.staged
                     tasks := d.tasks.set i (.worker { w with phase := .returned out }) } := by
  obtain ⟨here, others⟩ := tasks_set (.worker { w with phase := .returned out }) at'
  have h := ok.transactions i w.signal tx ⟨w, at', rfl, running⟩
  have pending : ∀ ev, ¬ d.Acknowledged i ev := by
    rintro ev ⟨w', out', at'', phase', _⟩
    cases at'.symm.trans at''
    cases running.symm.trans phase'
  have progress := h.progress
  unfold Progress at progress
  rw [ends] at progress
  rcases progress with ⟨empty, id, there⟩ | ⟨p, planned, links, staged⟩
  · -- the event had been evidence already, so nothing was written
    have same : d.tables.applyWrites tx.staged = d.tables := by
      rw [empty]
      rfl
    rw [same]
    apply ok.replace here others pending ok.incidents
    · intro j signal' tx' _ open'
      exact (ok.transactions j signal' tx' open').held.quiet
    · intro id ev there
      exact there
    · rintro w' tx' ⟨⟩ phase'
      cases phase'
    · rintro w' out' ⟨⟩ _
      exact ⟨id, there⟩
    · intro id ev there
      exact .inl there
  · obtain ⟨absorbs, unseen⟩ := planned.absorbs h.held staged
    obtain ⟨target, evident⟩ := absorbs.evident
    apply ok.replace here others pending (ok.incidents.absorbs unseen absorbs)
    · intro j signal' tx' ne open'
      exact (h.apart j signal' tx' ne open').undisturbed planned h.held
        (ok.transactions j signal' tx' open').held staged
    · intro id ev there
      exact (evident id ev).mpr (.inl there)
    · rintro w' tx' ⟨⟩ phase'
      cases phase'
    · rintro w' out' ⟨⟩ _
      exact ⟨target, (evident _ _).mpr (.inr ⟨rfl, rfl⟩)⟩
    · intro id ev there
      rcases (evident id ev).mp there with old | ⟨_, rfl⟩
      · exact .inl old
      · exact .inr ⟨_, out, rfl, rfl, rfl⟩

/-- What a manual transition that goes through was. -/
lemma applyRequest_cases {r now t' phase'} (st : applyRequest d i r now = some (t', phase')) :
    (t' = d.tables ∧ ∀ s, d.tables.incidents.get? r.incidentId = some s →
      reactivates d.tables r.incidentId s r.target = true) ∨
    ∃ s, d.tables.incidents.get? r.incidentId = some s ∧
      d.other i (·.locks r.incidentId) = false ∧
      reactivates d.tables r.incidentId s r.target = false ∧
      (r.target.isActive = true →
        d.other i (·.inserts s.incident.correlationKey r.incidentId) = false) ∧
      t' = { d.tables with
        incidents := d.tables.incidents.set r.incidentId (s.transition r.target r.actor r.reason now) } ∧
      phase' = .answered 200 := by
  unfold applyRequest at st
  split at st
  · rename_i absent
    cases st
    refine .inl ⟨rfl, fun s found => ?_⟩
    rw [absent] at found
    cases found
  · rename_i s found
    split at st
    · cases st
    · rename_i unlocked
      split at st
      · rename_i double
        cases st
        refine .inl ⟨rfl, fun s' found' => ?_⟩
        rw [found] at found'
        cases found'
        exact double
      · rename_i single
        split at st
        · cases st
        · rename_i free
          cases st
          push Not at free
          refine .inr ⟨s, found, Bool.not_eq_true _ ▸ unlocked, Bool.not_eq_true _ ▸ single, ?_, rfl,
            rfl⟩
          intro active
          exact Bool.not_eq_true _ ▸ free active

/-- What one step over the database is: a call or a request comes in, a call goes on, fails or
commits, a request is read or refused, or it is carried out. -/
inductive SqlStepped (cfg : ProcessorConfig) (d : Database) : SqlLabel → Database → Prop
  | called {signal : AnomalySignal} :
    SqlStepped cfg d (.process signal) { d with tasks := d.tasks ++ [.worker (.start cfg signal)] }
  | requested {r : TransitionRequest} :
    SqlStepped cfg d (.request r) { d with tasks := d.tasks ++ [.request r .received] }
  | goesOn {i : Nat} {env : StepEnv} {w : Worker} {tx tx' : Transaction}
    (at' : d.tasks[i]? = some (.worker w)) (running : w.phase = .running tx)
    (ran : statement cfg d i env w.signal tx = some (.goesOn tx')) :
    SqlStepped cfg d (.advance i env)
      { d with tasks := d.tasks.set i (.worker { w with phase := .running tx' }) }
  | failed {i : Nat} {env : StepEnv} {w : Worker} {tx : Transaction} {e : Error}
    (at' : d.tasks[i]? = some (.worker w)) (running : w.phase = .running tx)
    (raised : env.raised = some e ∨ statement cfg d i env w.signal tx = some (.raises e)) :
    SqlStepped cfg d (.advance i env) { d with tasks := d.tasks.set i (.worker (w.fail cfg e)) }
  | commits {i : Nat} {env : StepEnv} {w : Worker} {tx : Transaction} {out : ProcessOutcome}
    (at' : d.tasks[i]? = some (.worker w)) (running : w.phase = .running tx)
    (calm : env.raised = none) (ends : tx.phase = .committing out) :
    SqlStepped cfg d (.advance i env)
      { tables := d.tables.applyWrites tx.staged
        tasks := d.tasks.set i (.worker { w with phase := .returned out }) }
  | answered {i : Nat} {env : StepEnv} {r : TransitionRequest} {phase phase' : RequestPhase}
    (at' : d.tasks[i]? = some (.request r phase))
    (refused : phase = .validated → env.raised = none →
      ∀ s, d.tables.incidents.get? r.incidentId = some s →
        reactivates d.tables r.incidentId s r.target = true) :
    SqlStepped cfg d (.advance i env) { d with tasks := d.tasks.set i (.request r phase') }
  | moved {i : Nat} {env : StepEnv} {r : TransitionRequest} {s : StoredIncident}
    (at' : d.tasks[i]? = some (.request r .validated)) (calm : env.raised = none)
    (found : d.tables.incidents.get? r.incidentId = some s)
    (unlocked : d.other i (·.locks r.incidentId) = false)
    (single : reactivates d.tables r.incidentId s r.target = false)
    (free : r.target.isActive = true →
      d.other i (·.inserts s.incident.correlationKey r.incidentId) = false) :
    SqlStepped cfg d (.advance i env)
      { tables := { d.tables with
          incidents :=
            d.tables.incidents.set r.incidentId (s.transition r.target r.actor r.reason env.now) }
        tasks := d.tasks.set i (.request r (.answered 200)) }

/-- Every step is one of these. -/
lemma sqlStep_stepped {l d'} (st : sqlStep cfg d l = some d') : SqlStepped cfg d l d' := by
  cases l with
  | process signal =>
    cases st
    exact .called
  | request r =>
    cases st
    exact .requested
  | advance i env =>
    unfold sqlStep at st
    dsimp only at st
    split at st
    · cases st
    · rename_i w at'
      obtain ⟨⟨t', w'⟩, next, rfl⟩ := Option.map_eq_some_iff.mp st
      unfold stepWorker at next
      split at next
      · cases next
      · cases next
      · rename_i tx running
        split at next
        · rename_i e raised
          cases next
          exact .failed at' running (.inl raised)
        · rename_i calm
          obtain ⟨result, ran, e⟩ := Option.map_eq_some_iff.mp next
          cases result with
          | goesOn tx' =>
            cases e
            exact .goesOn at' running ran
          | raises x =>
            cases e
            exact .failed at' running (.inr ran)
          | commits out =>
            cases e
            exact .commits at' running calm (statement_commits ran)
    · rename_i r phase at'
      obtain ⟨⟨t', phase'⟩, next, rfl⟩ := Option.map_eq_some_iff.mp st
      unfold stepRequest at next
      split at next
      · cases next
      · have same : t' = d.tables := by
          split at next <;> cases next <;> rfl
        cases same
        refine .answered at' ?_
        rintro ⟨⟩
      · split at next
        · rename_i raised
          cases next
          refine .answered at' ?_
          intro _ calm
          cases raised.symm.trans calm
        · rename_i calm
          rcases applyRequest_cases next with ⟨rfl, refused⟩ |
            ⟨s, found, unlocked, single, free, rfl, rfl⟩
          · exact .answered at' fun _ _ => refused
          · exact .moved at' calm found unlocked single free

/-- A request that is read or refused. -/
lemma DatabaseOk.answered (ok : DatabaseOk cfg d) {r phase phase'}
    (at' : d.tasks[i]? = some (.request r phase)) :
    DatabaseOk cfg { d with tasks := d.tasks.set i (.request r phase') } := by
  obtain ⟨here, others⟩ := tasks_set (.request r phase') at'
  apply ok.goesOn here others
  · rintro ev ⟨w', out', at'', _⟩
    cases at'.symm.trans at''
  · rintro w tx ⟨⟩
  · rintro w out ⟨⟩

/-- A request that is carried out. -/
lemma DatabaseOk.moved (ok : DatabaseOk cfg d) {r s phase phase' now}
    (at' : d.tasks[i]? = some (.request r phase))
    (found : d.tables.incidents.get? r.incidentId = some s)
    (unlocked : d.other i (·.locks r.incidentId) = false)
    (single : reactivates d.tables r.incidentId s r.target = false)
    (free : r.target.isActive = true →
      d.other i (·.inserts s.incident.correlationKey r.incidentId) = false) :
    DatabaseOk cfg
      { tables := { d.tables with
          incidents :=
            d.tables.incidents.set r.incidentId (s.transition r.target r.actor r.reason now) }
        tasks := d.tasks.set i (.request r phase') } := by
  obtain ⟨here, others⟩ := tasks_set (.request r phase') at'
  have pending : ∀ ev, ¬ d.Acknowledged i ev := by
    rintro ev ⟨w', out', at'', _⟩
    cases at'.symm.trans at''
  have evident : ∀ id ev, Evident (d.tables.incidents.set r.incidentId
      (s.transition r.target r.actor r.reason now)) id ev ↔
        Evident d.tables.incidents id ev := fun id ev =>
    @evident_set_same _ _ s (s.transition r.target r.actor r.reason now) found rfl id ev
  apply ok.replace here others pending
  · -- the transition keeps the evidence, and the index keeps a second incident from being
    -- active
    apply ok.incidents.set
    · exact ok.incidents.keyed _ s found
    · intro active id' x hx ne key
      by_contra busy
      rw [Bool.not_eq_false] at busy
      have any : (d.tables.incidents.activeOf s.incident.correlationKey).any (fun x =>
          x.incident.id ≠ r.incidentId) = true := by
        rw [List.any_eq_true]
        refine ⟨x, mem_activeOf.mpr ⟨⟨id', hx⟩, key, busy⟩, decide_eq_true ?_⟩
        rw [ok.incidents.keyed id' x hx]
        exact ne
      have target : r.target.isActive = true := active
      rw [reactivates, target, any] at single
      cases single
    · intro e he id' x e' hx ne he' same'
      exact ne (ok.incidents.once id' _ x s e' e hx found he' he same')
    · exact ok.incidents.distinct _ s found
    · exact (ok.incidents.summary _ s found).congr ⟨_, _, _, _, _, rfl⟩
  · intro j signal' tx' ne open'
    have h := (ok.transactions j signal' tx' open').held
    have apart : ∀ id, tx'.locked = some id → id ≠ r.incidentId := by
      rintro id own rfl
      exact not_locked unlocked ne open' own
    refine ⟨?_, ?_, ?_, ?_, fun id ev there => (evident _ _).mpr there⟩
    · intro id own
      exact Dict.get?_set_ne (apart id own)
    · intro x inserted
      have absent := h.absent x inserted
      refine (Dict.get?_set_ne ?_).trans absent
      intro same
      rw [same, found] at absent
      cases absent
    · intro x inserted id s' found' key active
      rw [Dict.get?_set] at found'
      split at found'
      · rename_i same
        cases found'
        have target : r.target.isActive = true := active
        exact absurd key.symm (not_inserted (free target) ne open' inserted).1
      · exact ⟨s', found', key, active⟩
    · intro id e added
      rw [unseen_iff]
      intro id' there
      exact unseen_iff.mp (h.unseen id e added) id' ((evident _ _).mp there)
  · intro id ev there
    exact (evident _ _).mpr there
  · rintro w tx ⟨⟩
  · rintro w out ⟨⟩
  · intro id ev there
    exact .inl ((evident _ _).mp there)

/-- Every step keeps what holds of a database. -/
lemma DatabaseOk.step (ok : DatabaseOk cfg d) {l d'} (st : sqlStep cfg d l = some d') :
    DatabaseOk cfg d' := by
  have fresh : ∀ ev, ¬ d.Acknowledged d.tasks.length ev := by
    rintro ev ⟨w', out', at'', _⟩
    simp at at''
  cases sqlStep_stepped st with
  | @called signal =>
    obtain ⟨here, others⟩ := @tasks_append d (.worker (.start cfg signal))
    apply ok.goesOn here others fresh
    · rintro w tx ⟨⟩ phase
      unfold Worker.start at phase
      dsimp only at phase
      split at phase
      · cases phase
      · cases phase
        exact .begun
    · rintro w out ⟨⟩ phase
      unfold Worker.start at phase
      dsimp only at phase
      split at phase <;> cases phase
  | @requested r =>
    obtain ⟨here, others⟩ := @tasks_append d (.request r .received)
    apply ok.goesOn here others fresh
    · rintro w tx ⟨⟩
    · rintro w out ⟨⟩
  | @goesOn i env w tx tx' at' running ran =>
    have h := ok.transactions i w.signal tx ⟨w, at', rfl, running⟩
    obtain ⟨here, others⟩ := tasks_set (.worker { w with phase := .running tx' }) at'
    apply ok.goesOn here others
    · rintro ev ⟨w', out, at'', phase', _⟩
      cases at'.symm.trans at''
      cases running.symm.trans phase'
    · rintro w' tx'' ⟨⟩ ⟨⟩
      exact statement_ok ok h ran
    · rintro w' out ⟨⟩ ⟨⟩
  | failed at' running _ => exact ok.failed at' running
  | commits at' running _ ends => exact ok.committed at' running ends
  | answered at' _ => exact ok.answered at'
  | moved at' _ found unlocked single free => exact ok.moved at' found unlocked single free

/-- Every reachable database satisfies it. -/
theorem databaseOk_of_reachable (reach : (sqlCorrelator cfg).Reachable d) : DatabaseOk cfg d := by
  obtain ⟨d0, ls, ⟨tables, tasks⟩, run⟩ := reach
  refine run.invariant (fun s l s' ok st => DatabaseOk.step ok st) ?_
  obtain ⟨t, ts⟩ := d0
  cases tables
  cases tasks
  refine ⟨⟨?_, ?_, ?_, ?_, ?_⟩, ?_, ?_, ?_⟩
  · intro id s found
    cases found
  · intro id id' s s' found
    cases found
  · intro id id' s s' e e' found
    cases found
  · intro id s found
    cases found
  · intro id s found
    cases found
  · rintro i signal tx ⟨w, at', _⟩
    cases at'
  · rintro i ev ⟨w, out, at', _⟩
    cases at'
  · rintro id ev ⟨s, found, _⟩
    cases found

/-- In every database that any interleaving reaches: a key has at most one active incident, an
acknowledged event is evidence of exactly one incident, once, the aggregates of every incident are
those of its evidence, and an event is evidence only if a call has acknowledged it; and a step of a
call that does not acknowledge its event leaves the rows as they are. -/
theorem concurrent_processing (cfg : ProcessorConfig) {d : Database}
    (reach : (sqlCorrelator cfg).Reachable d) :
    (∀ id id' s s', d.tables.incidents.get? id = some s → d.tables.incidents.get? id' = some s' →
      s.incident.correlationKey = s'.incident.correlationKey → s.incident.isActive = true →
      s'.incident.isActive = true → id = id') ∧
    (∀ i ev, d.Acknowledged i ev → ∃ id s, d.tables.incidents.get? id = some s ∧
      (s.evidence.map (·.eventId)).count ev = 1 ∧
      ∀ id' s', d.tables.incidents.get? id' = some s' → ev ∈ s'.evidence.map (·.eventId) →
        id' = id) ∧
    (∀ id s, d.tables.incidents.get? id = some s → Summarizes cfg.severity s.incident s.evidence) ∧
    (∀ id s, d.tables.incidents.get? id = some s → ∀ e ∈ s.evidence, ∃ i, d.Acknowledged i e.eventId) ∧
    ∀ i env w d', d.tasks[i]? = some (.worker w) →
      (sqlCorrelator cfg).step d (.advance i env) = some d' →
      (∀ ev, ¬ d'.Acknowledged i ev) → d'.tables = d.tables := by
  have ok := databaseOk_of_reachable reach
  refine ⟨ok.incidents.oneActive, ?_, ok.incidents.summary, ?_, ?_⟩
  · intro i ev acked
    obtain ⟨id, s, found, mem⟩ := ok.acknowledged i ev acked
    refine ⟨id, s, found, List.count_eq_one_of_mem (ok.incidents.distinct id s found) mem, ?_⟩
    intro id' s' found' mem'
    obtain ⟨e, he, rfl⟩ := List.mem_map.mp mem
    obtain ⟨e', he', same⟩ := List.mem_map.mp mem'
    exact ok.incidents.once id' id s' s e' e found' found he' he same
  · intro id s found e he
    exact ok.traced id e.eventId ⟨s, found, List.mem_map_of_mem he⟩
  · intro i env w d' at' st silent
    change sqlStep cfg d (.advance i env) = some d' at st
    cases sqlStep_stepped st with
    | goesOn | failed | answered => rfl
    -- only the commit of a call changes rows
    | @commits _ _ w' tx out there _ _ _ =>
      exact absurd ⟨_, out, (tasks_set _ there).1, rfl, rfl⟩ (silent w'.signal.eventId)
    | moved there => cases at'.symm.trans there

/-- Two calls that both find no active incident: the first one opens it, the second one loses the
race, starts again and appends. -/
def createRace : List SqlLabel :=
  [.process (anomalyOf "orders-service" "evt-1" 0), .process (anomalyOf "orders-service" "evt-2" 60)]
    ++ List.replicate 3 (.advance 0 { attempt := { token := "1" } })
    ++ List.replicate 3 (.advance 1 { attempt := { token := "2" } })
    ++ List.replicate 6 (.advance 0 {})
    ++ List.replicate 9 (.advance 1 { attempt := { token := "3" } })

/-- The event of a call that has returned, with the attempt that succeeded. -/
def Task.acknowledgement : Task → Option (String × Nat)
  | .worker { signal, attempt, phase := .returned _ } => some (signal.eventId, attempt)
  | _ => none

/-- The incidents of that run, and what its calls have acknowledged. -/
lemma createRace_states : ((sqlCorrelator {}).exec {} createRace).map (fun d =>
      (d.tables.incidents.entries.map fun x =>
        (x.1, x.2.incident.anomalyCount, x.2.evidence.map (·.eventId)),
      d.tasks[1]?.bind Task.acknowledgement)) =
    some ([("inc_1", 2, ["evt-1", "evt-2"])], some ("evt-2", 2)) := by
  decide +kernel

/-- In that run the second event is evidence of one incident, once, although its call lost the
race. -/
theorem concurrent_processing_createRace : ∃ d, (sqlCorrelator {}).Run {} createRace d ∧
    ∃ id s, d.tables.incidents.get? id = some s ∧ (s.evidence.map (·.eventId)).count "evt-2" = 1 := by
  obtain ⟨d, run, states⟩ := Option.map_eq_some_iff.mp createRace_states
  have r := Machine.run_iff_exec.mpr run
  obtain ⟨_, once, _⟩ := concurrent_processing {} ⟨{}, createRace, ⟨rfl, rfl⟩, r⟩
  obtain ⟨task, at', ack⟩ := Option.bind_eq_some_iff.mp (congrArg Prod.snd states)
  have acked : d.Acknowledged 1 "evt-2" := by
    unfold Task.acknowledgement at ack
    split at ack
    · rename_i signal attempt out
      obtain ⟨event, _⟩ := Prod.mk.inj (Option.some.inj ack)
      exact ⟨_, out, at', rfl, event⟩
    · cases ack
  obtain ⟨id, s, found, count, _⟩ := once 1 "evt-2" acked
  exact ⟨d, r, id, s, found, count⟩

end SentinelOps.IncidentCorrelator
