import SentinelOps.IncidentCorrelator.Interleaving
import Mathlib.Data.List.Sort

/-!
# Histories under concurrent transitions

The API validates a manual transition against an unlocked read and then applies it, so the status may
have changed in between, and the write does not look. `histories_are_paths`: over every run, of either
repository, the histories stay paths of the state machine exactly when every transition that is
applied finds a status that still allows it and, where the history is read by its times, is recorded
with a time not before the earlier ones. `late_acknowledgement` is a run in which a resolved incident
is acknowledged.
-/

namespace SentinelOps.IncidentCorrelator

/-- How far a status is from the start. -/
def IncidentStatus.rank : IncidentStatus → Nat
  | .open => 0
  | .acknowledged => 1
  | .investigating => 2
  | .mitigating => 3
  | .resolved => 4

/-- Every entry starts where the one before it ended. -/
inductive Chained : IncidentStatus → List StateTransition → IncidentStatus → Prop where
  | nil {s} :
    Chained s [] s
  | cons {s t ts u} :
    t.fromStatus = some s →
    Chained t.toStatus ts u →
    Chained s (t :: ts) u

/-- A history without gaps, whether or not the table allows its entries. -/
def IsChain (history : List StateTransition) (s : IncidentStatus) : Prop :=
  ∃ t ts, history = t :: ts ∧ t.fromStatus = none ∧ t.toStatus = .open ∧ Chained .open ts s

/-- The history of an incident as the SQL repository reads it: by `created_at`. -/
def byCreatedAt (history : List StateTransition) : List StateTransition :=
  history.insertionSort fun x y => x.createdAt ≤ y.createdAt

/-- Every history, as it is read, is a path that ends in the status of its incident, and a key has
one active incident at most. -/
structure HistoriesOk (read : List StateTransition → List StateTransition) (d : Incidents) : Prop where
  path : ∀ id s, d.get? id = some s → IsPath (read s.history) s.incident.status
  oneActive : ∀ id id' s s', d.get? id = some s → d.get? id' = some s' →
    s.incident.correlationKey = s'.incident.correlationKey → s.incident.isActive = true →
    s'.incident.isActive = true → id = id'

/-- A resolved incident stays resolved. -/
def ResolvedStay (d d' : Incidents) : Prop :=
  ∀ id s s', d.get? id = some s → d'.get? id = some s' → s.incident.status = .resolved →
    s'.incident.status = .resolved

/-- The in-memory store and the manual transitions that the API is working on. -/
structure MemoryService where
  store : Store := {}
  requests : List (TransitionRequest × RequestPhase) := []

/-- What happens next over the in-memory store: an anomaly is processed, a request arrives, or a
request takes a step. -/
inductive MemoryLabel where
  | process (signal : AnomalySignal) (env : Nat → AttemptEnv)
  | request (r : TransitionRequest)
  | advance (i : Nat) (now : Instant)

/-- The ids that the attempts draw are new. -/
def newIds (cfg : ProcessorConfig) (m : Store) (env : Nat → AttemptEnv) : Bool :=
  (List.range (cfg.maxRetries.toNat + 2)).all fun n =>
    (m.incidents.get? (newIncidentId (env n).token)).isNone

/-- One step over the in-memory store. -/
def memoryStep (cfg : ProcessorConfig) (w : MemoryService) : MemoryLabel → Option MemoryService
  | .process signal env =>
    if newIds cfg w.store env = true then
      some { w with store := (process cfg signal env w.store).1 }
    else none
  | .request r => some { w with requests := w.requests ++ [(r, .received)] }
  | .advance i now =>
    match w.requests[i]? with
    | none | some (_, .answered _) => none
    | some (r, .received) =>
      some { w with requests := w.requests.set i (r, validateRequest w.store.incidents r) }
    | some (r, .validated) =>
      some {
        store := w.store.applyTransition r.incidentId r.target r.actor r.reason now
        requests := w.requests.set i
          (r, .answered (if (w.store.incidents.get? r.incidentId).isSome = true then 200 else 500)) }

/-- The correlator over an empty in-memory store, with the two steps of a manual transition apart. -/
def memoryService (cfg : ProcessorConfig) : Machine MemoryService MemoryLabel where
  init w := w.store = {} ∧ w.requests = []
  step := memoryStep cfg

/-- A transition that is applied finds a status that still allows it. -/
def MemoryService.StillAllowed (w : MemoryService) (l : MemoryLabel) (_ : MemoryService) : Prop :=
  ∀ i now r s, l = .advance i now → w.requests[i]? = some (r, .validated) →
    w.store.incidents.get? r.incidentId = some s → r.target ∈ allowedTransitions s.incident.status

/-- A transition that is applied finds a status that still allows it, and every transition is
recorded with a time not before the earlier ones. -/
def Database.StillAllowed (d : Database) (l : SqlLabel) (_ : Database) : Prop :=
  ∀ i env, l = .advance i env → env.raised = none →
    (∀ r s, d.tasks[i]? = some (.request r .validated) →
      d.tables.incidents.get? r.incidentId = some s →
      reactivates d.tables r.incidentId s r.target = false →
      r.target ∈ allowedTransitions s.incident.status ∧ ∀ y ∈ s.history, y.createdAt ≤ env.now) ∧
    ∀ signal tx out, d.Open i signal tx → tx.phase = .committing out →
      ∀ id x s, .addTransition id x ∈ tx.staged → d.tables.incidents.get? id = some s →
        ∀ y ∈ s.history, y.createdAt ≤ x.createdAt

/-- The table leads away from the start. -/
lemma rank_lt {s t : IncidentStatus} (h : t ∈ allowedTransitions s) : s.rank < t.rank := by
  revert h
  cases s <;> cases t <;> decide

/-- The entries of a path start from where it starts on. -/
lemma PathFrom.rank_le {s ts u} (h : PathFrom s ts u) :
    ∀ t ∈ ts, ∃ s', t.fromStatus = some s' ∧ s.rank ≤ s'.rank := by
  induction h with
  | nil => simp
  | @cons s t ts u f a _ ih =>
    intro t' mem
    rcases List.mem_cons.mp mem with rfl | mem
    · exact ⟨s, f, le_rfl⟩
    · obtain ⟨s', f', le⟩ := ih t' mem
      exact ⟨s', f', (rank_lt a).le.trans le⟩

/-- The entries of a path in another order are no chain. -/
lemma PathFrom.eq_of_perm {s ts u} (h : PathFrom s ts u) {ts' u'} (chain : Chained s ts' u')
    (perm : ts'.Perm ts) : ts' = ts := by
  induction h generalizing ts' with
  | nil => exact List.perm_nil.mp perm
  | @cons s t ts u f a path ih =>
    cases chain with
    | nil => exact absurd perm.symm.eq_nil (List.cons_ne_nil _ _)
    | @cons _ t' ts' _ f' chain =>
      have same : t' = t := by
        rcases List.mem_cons.mp (perm.subset List.mem_cons_self) with same | later
        · exact same
        · obtain ⟨s', f'', le⟩ := path.rank_le t' later
          cases f'.symm.trans f''
          exact absurd (rank_lt a) (not_lt.mpr le)
      subst same
      rw [ih chain ((List.perm_cons t').mp perm)]

/-- A history without gaps reads as a path exactly when it is one and its times are in order. -/
lemma isPath_byCreatedAt {history s} (chain : IsChain history s) :
    IsPath (byCreatedAt history) s ↔
      IsPath history s ∧ history.Pairwise fun x y => x.createdAt ≤ y.createdAt := by
  have sorted : (byCreatedAt history).Pairwise fun x y => x.createdAt ≤ y.createdAt :=
    List.pairwise_insertionSort _ _
  constructor
  · intro path
    have same : history = byCreatedAt history := by
      have perm : (byCreatedAt history).Perm history := List.perm_insertionSort _ _
      obtain ⟨t, ts, e, none', _, path⟩ := path
      obtain ⟨t', ts', e', none'', _, chain⟩ := chain
      rw [e, e'] at perm
      rw [e, e']
      have same : t' = t := by
        rcases List.mem_cons.mp (perm.symm.subset List.mem_cons_self) with same | later
        · exact same
        · obtain ⟨s', f, _⟩ := path.rank_le t' later
          rw [none''] at f
          cases f
      subst same
      rw [path.eq_of_perm chain ((List.perm_cons t').mp perm.symm)]
    rw [← same] at path sorted
    exact ⟨path, sorted⟩
  · rintro ⟨path, ordered⟩
    unfold byCreatedAt
    rwa [List.Pairwise.insertionSort_eq ordered]

/-- The end of a path. -/
lemma PathFrom.snoc_inv {s ts x v} (h : PathFrom s (ts ++ [x]) v) :
    ∃ u, PathFrom s ts u ∧ x.fromStatus = some u ∧ x.toStatus ∈ allowedTransitions u ∧
      v = x.toStatus := by
  induction ts generalizing s with
  | nil =>
    cases h with
    | cons f a path =>
      cases path
      exact ⟨s, .nil, f, a, rfl⟩
  | cons t ts ih =>
    cases h with
    | cons f a path =>
      obtain ⟨u, path', f', a', e⟩ := ih path
      exact ⟨u, .cons f a path', f', a', e⟩

/-- A path with one entry more is one exactly when the table allows it. -/
lemma isPath_snoc {history u x} (h : IsPath history u) (from' : x.fromStatus = some u) :
    IsPath (history ++ [x]) x.toStatus ↔ x.toStatus ∈ allowedTransitions u := by
  refine ⟨?_, h.snoc from'⟩
  rintro ⟨t', ts', e, _, _, path'⟩
  obtain ⟨t, ts, rfl, _, _, path⟩ := h
  cases e
  obtain ⟨u', _, f', a', _⟩ := path'.snoc_inv
  cases from'.symm.trans f'
  exact a'

/-- A chain extended by one entry. -/
lemma Chained.snoc {s ts u x} (h : Chained s ts u) (from' : x.fromStatus = some u) :
    Chained s (ts ++ [x]) x.toStatus := by
  induction h with
  | nil => exact .cons from' .nil
  | cons f _ ih => exact .cons f (ih from')

/-- A history without gaps extended by one entry. -/
lemma IsChain.snoc {history u x} (h : IsChain history u) (from' : x.fromStatus = some u) :
    IsChain (history ++ [x]) x.toStatus := by
  obtain ⟨t, ts, rfl, f0, o0, chain⟩ := h
  exact ⟨t, ts ++ [x], rfl, f0, o0, chain.snoc from'⟩

section
variable {cfg : SeverityConfig} {signal : AnomalySignal} {env : AttemptEnv} {d d' : Incidents}

/-- An active incident may be resolved. -/
lemma resolved_allowed {s : Incident} (active : s.isActive = true) :
    .resolved ∈ allowedTransitions s.status := by
  have ne : s.status ≠ .resolved := of_decide_eq_true active
  cases e : s.status with
  | resolved => exact absurd e ne
  | _ => decide

/-- A property of histories that the writes for an anomaly keep: it holds of the history of a new
incident, and resolving an active incident keeps it. -/
lemma Writes.histories {P : List StateTransition → IncidentStatus → Prop}
    (w : Writes cfg signal env d d') (h : ∀ id s, d.get? id = some s → P s.history s.incident.status)
    (opened : ∀ reason, P (openedIncident cfg signal reason env).history .open)
    (resolved : ∀ id s reason, d.get? id = some s → s.incident.isActive = true →
      P s.history s.incident.status → P (s.resolved reason env).history .resolved) :
    ∀ id s, d'.get? id = some s → P s.history s.incident.status := by
  intro id' x hx
  cases w with
  | opened free =>
    rcases get?_set_cases hx with ⟨_, rfl⟩ | ⟨_, hx⟩
    · exact opened _
    · exact h id' x hx
  | @appended id s reason found key active =>
    rcases get?_set_cases hx with ⟨_, rfl⟩ | ⟨_, hx⟩
    · exact h id s found
    · exact h id' x hx
  | @superseded id s reason found key active =>
    rcases get?_set_cases hx with ⟨_, rfl⟩ | ⟨_, hx⟩
    · exact opened _
    · rcases get?_set_cases hx with ⟨_, rfl⟩ | ⟨_, hx⟩
      · exact resolved id s reason found active (h id s found)
      · exact h id' x hx

/-- The writes for an anomaly keep the histories paths. -/
lemma HistoriesOk.writes (h : HistoriesOk id d) (keys : KeysOk d) (w : Writes cfg signal env d d') :
    HistoriesOk id d' where
  path := by
    apply w.histories h.path
    · intro reason
      exact .opened rfl rfl
    · intro id s reason _ active path
      exact path.snoc rfl (resolved_allowed active)
  oneActive := (keys.writes w).oneActive

/-- The writes for an anomaly leave no gaps. -/
lemma chains_writes (h : ∀ id s, d.get? id = some s → IsChain s.history s.incident.status)
    (w : Writes cfg signal env d d') :
    ∀ id s, d'.get? id = some s → IsChain s.history s.incident.status := by
  apply w.histories h
  · intro reason
    exact ⟨_, [], rfl, rfl, rfl, .nil⟩
  · intro id s reason _ _ chain
    exact chain.snoc rfl

/-- The writes for an anomaly leave the resolved incidents resolved, when the id they draw is new. -/
lemma Writes.resolvedStay (w : Writes cfg signal env d d')
    (fresh : d.get? (newIncidentId env.token) = none) : ResolvedStay d d' := by
  intro id' x x' hx hx' closed
  have ne : id' ≠ newIncidentId env.token := by
    rintro rfl
    rw [fresh] at hx
    cases hx
  cases w with
  | opened _ =>
    rw [Dict.get?_set_ne ne, hx] at hx'
    cases hx'
    exact closed
  | @appended id s reason found key active =>
    rcases get?_set_cases hx' with ⟨rfl, rfl⟩ | ⟨_, hx'⟩
    · rw [found] at hx
      cases hx
      exact closed
    · rw [hx] at hx'
      cases hx'
      exact closed
  | @superseded id s reason found key active =>
    rw [Dict.get?_set_ne ne] at hx'
    rcases get?_set_cases hx' with ⟨rfl, rfl⟩ | ⟨_, hx'⟩
    · rfl
    · rw [hx] at hx'
      cases hx'
      exact closed

/-- What absorbs an anomaly leaves the resolved incidents resolved. -/
lemma Absorbs.resolvedStay (h : Absorbs cfg signal d d') : ResolvedStay d d' := by
  cases h with
  | opened free fresh => exact (Writes.opened free).resolvedStay fresh
  | superseded found key active fresh => exact (Writes.superseded found key active).resolvedStay fresh
  | @appended id s reason env found key active =>
    intro id' x x' hx hx' closed
    rcases get?_set_cases hx' with ⟨rfl, rfl⟩ | ⟨_, hx'⟩
    · rw [found] at hx
      cases hx
      exact closed
    · rw [hx] at hx'
      cases hx'
      exact closed

variable {incidentId : String} {s : StoredIncident} {target : IncidentStatus} {actor reason : String}
  {now : Instant}

/-- A manual transition keeps the histories paths exactly when the table allows it. -/
lemma HistoriesOk.transition (h : HistoriesOk id d) (keys : KeysOk d)
    (found : d.get? incidentId = some s) :
    HistoriesOk id (d.set incidentId (s.transition target actor reason now)) ↔
      target ∈ allowedTransitions s.incident.status := by
  have snoc : IsPath (s.transition target actor reason now).history target ↔ _ :=
    @isPath_snoc _ _ (manualTransition s.incident target actor reason now)
      (h.path incidentId s found) rfl
  constructor
  · intro h'
    exact snoc.mp (h'.path incidentId _ Dict.get?_set_self)
  · intro allowed
    have active : s.incident.isActive = true := by
      by_contra closed
      rw [Bool.not_eq_true] at closed
      have resolved : s.incident.status = .resolved := by
        simpa [Incident.isActive, IncidentStatus.isActive] using closed
      rw [resolved] at allowed
      cases allowed
    have keys' : KeysOk (d.set incidentId (s.transition target actor reason now)) :=
      keys.set (keys.keyed _ s found) fun _ id' x hx ne key => keys.only found active hx ne key
    refine ⟨?_, keys'.oneActive⟩
    intro id' x hx
    rcases get?_set_cases hx with ⟨_, rfl⟩ | ⟨_, hx⟩
    · exact snoc.mpr allowed
    · exact h.path id' x hx

/-- A manual transition that the table allows leaves the resolved incidents resolved. -/
lemma resolvedStay_transition (found : d.get? incidentId = some s)
    (allowed : target ∈ allowedTransitions s.incident.status) :
    ResolvedStay d (d.set incidentId (s.transition target actor reason now)) := by
  intro id' x x' hx hx' closed
  rcases get?_set_cases hx' with ⟨rfl, rfl⟩ | ⟨_, hx'⟩
  · rw [found] at hx
    cases hx
    rw [closed] at allowed
    cases allowed
  · rw [hx] at hx'
    cases hx'
    exact closed

end

variable {cfg : ProcessorConfig}

/-- Every incident is stored under its id. -/
def Keyed (d : Incidents) : Prop := ∀ id s, d.get? id = some s → s.incident.id = id

/-- Storing an incident under its id. -/
lemma Keyed.set {d : Incidents} (h : Keyed d) {id s} (own : s.incident.id = id) :
    Keyed (d.set id s) := by
  intro id' x hx
  rcases get?_set_cases hx with ⟨rfl, rfl⟩ | ⟨_, hx⟩
  · exact own
  · exact h id' x hx

/-- A write stores incidents under their ids. -/
lemma Applies.keyed {m m' : Store} {w} (applied : Applies m w m') (h : Keyed m.incidents) :
    Keyed m'.incidents := by
  cases applied with
  | inserted _ => exact h.set rfl
  | updated _ => exact h.set rfl
  | added found =>
    have own := h _ _ found
    exact h.set own
  | recorded found =>
    have own := h _ _ found
    exact h.set own
  | linked => exact h

/-- `process` stores incidents under their ids. -/
lemma process_keyed {signal env} {m : Store} (h : Keyed m.incidents) :
    Keyed (process cfg signal env m).1.incidents := by
  unfold process
  apply processFrom_keeps (P := fun m => Keyed m.incidents) h
  intro k _ m h
  unfold processOnce
  split
  · exact h
  · apply commit_keeps (P := fun m => Keyed m.incidents) h
    intro w _ m m' h applied
    exact applied.keyed h

section
variable {w w' : MemoryService} {l : MemoryLabel}

/-- What a transition that is applied does to the incidents. -/
lemma memoryStep_advance {i now} (st : memoryStep cfg w (.advance i now) = some w') :
    (w'.store = w.store ∧ ∀ r s, w.requests[i]? = some (r, .validated) →
      w.store.incidents.get? r.incidentId ≠ some s) ∨
    ∃ r s, w.requests[i]? = some (r, .validated) ∧ w.store.incidents.get? r.incidentId = some s ∧
      w'.store.incidents =
        w.store.incidents.set r.incidentId (s.transition r.target r.actor r.reason now) := by
  unfold memoryStep at st
  dsimp only at st
  split at st
  · cases st
  · cases st
  · rename_i r at'
    cases st
    refine .inl ⟨rfl, fun r' s at'' => ?_⟩
    cases at'.symm.trans at''
  · rename_i r at'
    cases st
    cases found : w.store.incidents.get? r.incidentId with
    | none =>
      refine .inl ⟨?_, ?_⟩
      · unfold Store.applyTransition
        rw [found]
      · intro r' s at'' found'
        cases at'.symm.trans at''
        rw [found] at found'
        cases found'
    | some s =>
      refine .inr ⟨r, s, at', found, ?_⟩
      unfold Store.applyTransition
      rw [found]
      rfl

/-- Every step stores incidents under their ids. -/
lemma memoryStep_keyed (h : Keyed w.store.incidents) (st : memoryStep cfg w l = some w') :
    Keyed w'.store.incidents := by
  cases l with
  | process signal env =>
    unfold memoryStep at st
    dsimp only at st
    split at st
    · cases st
      exact process_keyed h
    · cases st
  | request r =>
    cases st
    exact h
  | advance i now =>
    rcases memoryStep_advance st with ⟨same, _⟩ | ⟨r, s, _, found, moved⟩
    · rwa [same]
    · rw [moved]
      refine h.set ?_
      exact h r.incidentId s found

/-- One step over the in-memory store keeps the histories paths exactly when a transition that it
applies is still allowed. -/
lemma memoryStep_histories (keyed : Keyed w.store.incidents) (h : HistoriesOk id w.store.incidents)
    (st : memoryStep cfg w l = some w') :
    (HistoriesOk id w'.store.incidents ↔ w.StillAllowed l w') ∧
      (w.StillAllowed l w' → ResolvedStay w.store.incidents w'.store.incidents) := by
  have keys : KeysOk w.store.incidents := ⟨keyed, h.oneActive⟩
  have stay : ∀ d : Incidents, ResolvedStay d d := by
    intro d id s s' hx hx' closed
    rw [hx] at hx'
    cases hx'
    exact closed
  cases l with
  | process signal env =>
    have free : w.StillAllowed (.process signal env) w' := by
      intro i now r s e
      cases e
    unfold memoryStep at st
    dsimp only at st
    split at st
    · rename_i fresh
      cases st
      have new : w.store.incidents.get? (newIncidentId (env 1).token) = none := by
        unfold newIds at fresh
        rw [List.all_eq_true] at fresh
        exact Option.isNone_iff_eq_none.mp (fresh 1 (List.mem_range.mpr (by omega)))
      dsimp only
      rcases process_writes keys (Prod.mk.eta.symm : process cfg signal env w.store = _) with
        ⟨same, _⟩ | ⟨_, writes, _, _⟩
      · rw [same]
        exact ⟨iff_of_true h free, fun _ => stay _⟩
      · exact ⟨iff_of_true (h.writes keys writes) free, fun _ => writes.resolvedStay new⟩
    · cases st
  | request r =>
    cases st
    refine ⟨iff_of_true h ?_, fun _ => stay _⟩
    intro i now r' s e
    cases e
  | advance i now =>
    rcases memoryStep_advance st with ⟨same, none'⟩ | ⟨r, s, at', found, result⟩
    · rw [same]
      refine ⟨iff_of_true h ?_, fun _ => stay _⟩
      rintro i' now' r s ⟨⟩ at' found
      exact absurd found (none' r s at')
    · rw [result, h.transition keys found]
      refine ⟨⟨?_, ?_⟩, ?_⟩
      · rintro allowed i' now' r' s' ⟨⟩ at'' found'
        cases at'.symm.trans at''
        rw [found] at found'
        cases found'
        exact allowed
      · intro allowed
        exact allowed i now r s rfl at' found
      · intro allowed
        exact resolvedStay_transition found (allowed i now r s rfl at' found)

end

section
variable {d d' : Database} {l : SqlLabel}

/-- A call is silent unless it commits what it has written. -/
lemma stillAllowed_worker {i env} {w : Worker} (at' : d.tasks[i]? = some (.worker w))
    (empty : ∀ tx out, w.phase = .running tx → tx.phase = .committing out → env.raised = none →
      tx.staged = []) : d.StillAllowed (.advance i env) d' := by
  rintro i' env' ⟨⟩ calm
  refine ⟨?_, ?_⟩
  · intro r s at''
    cases at'.symm.trans at''
  · rintro signal tx out ⟨w'', at'', rfl, running⟩ ends id x s mem
    cases at'.symm.trans at''
    rw [empty tx out running ends calm] at mem
    cases mem

/-- A request is silent unless it is carried out. -/
lemma stillAllowed_request {i env r phase} (at' : d.tasks[i]? = some (.request r phase))
    (refused : phase = .validated → env.raised = none →
      ∀ s, d.tables.incidents.get? r.incidentId = some s →
        reactivates d.tables r.incidentId s r.target = true) :
    d.StillAllowed (.advance i env) d' := by
  rintro i' env' ⟨⟩ calm
  refine ⟨?_, ?_⟩
  · intro r' s at'' found single
    cases at'.symm.trans at''
    rw [refused rfl calm s found] at single
    cases single
  · rintro signal tx out ⟨w'', at'', _⟩
    cases at'.symm.trans at''

/-- What one step does to the incidents: nothing, the commit of a call, or a manual transition. -/
lemma sqlStep_cases (ok : DatabaseOk cfg d) (st : sqlStep cfg d l = some d') :
    (d'.tables.incidents = d.tables.incidents ∧ d.StillAllowed l d') ∨
    (∃ i env signal tx out p links, l = .advance i env ∧ env.raised = none ∧ d.Open i signal tx ∧
      tx.phase = .committing out ∧ Planned cfg d.tables signal tx p ∧
      tx.staged = p.writes ++ List.map .linkIncident links ∧
      d'.tables = d.tables.applyWrites tx.staged) ∨
    ∃ i env r s, l = .advance i env ∧ env.raised = none ∧
      d.tasks[i]? = some (.request r .validated) ∧
      d.tables.incidents.get? r.incidentId = some s ∧
      reactivates d.tables r.incidentId s r.target = false ∧
      d'.tables.incidents =
        d.tables.incidents.set r.incidentId (s.transition r.target r.actor r.reason env.now) := by
  cases sqlStep_stepped st with
  | called | requested =>
    refine .inl ⟨rfl, ?_⟩
    rintro i env ⟨⟩
  | goesOn at' running ran =>
    refine .inl ⟨rfl, stillAllowed_worker at' ?_⟩
    intro tx out running' ends _
    cases running.symm.trans running'
    cases (statement_committing ends).symm.trans ran
  | failed at' running raised =>
    refine .inl ⟨rfl, stillAllowed_worker at' ?_⟩
    intro tx out running' ends calm
    cases running.symm.trans running'
    rcases raised with raised | ran
    · cases raised.symm.trans calm
    · cases (statement_committing ends).symm.trans ran
  | @commits i env w tx out at' running calm ends =>
    have open' : d.Open i w.signal tx := ⟨w, at', rfl, running⟩
    have progress := (ok.transactions i w.signal tx open').progress
    unfold Progress at progress
    rw [ends] at progress
    rcases progress with ⟨empty, _⟩ | ⟨p, planned, links, staged⟩
    · refine .inl ⟨?_, stillAllowed_worker at' ?_⟩
      · rw [empty]
        rfl
      · intro tx' out' running' _ _
        cases running.symm.trans running'
        exact empty
    · exact .inr (.inl ⟨i, env, w.signal, tx, out, p, links, rfl, calm, open', ends, planned,
        staged, rfl⟩)
  | answered at' refused => exact .inl ⟨rfl, stillAllowed_request at' refused⟩
  | moved at' calm found _ single _ =>
    exact .inr (.inr ⟨_, _, _, _, rfl, calm, at', found, single, rfl⟩)

/-- The history of an incident has no gaps. -/
def Chains (d : Incidents) : Prop := ∀ id s, d.get? id = some s → IsChain s.history s.incident.status

/-- The times of every history are in order. -/
def Ordered (d : Incidents) : Prop :=
  ∀ id s, d.get? id = some s → s.history.Pairwise fun x y => x.createdAt ≤ y.createdAt

/-- Histories without gaps read as paths exactly when they are paths and in order. -/
lemma histories_byCreatedAt {d : Incidents} (chains : Chains d) :
    HistoriesOk byCreatedAt d ↔ HistoriesOk id d ∧ Ordered d := by
  constructor
  · intro h
    refine ⟨⟨?_, h.oneActive⟩, ?_⟩
    · intro id s found
      exact ((isPath_byCreatedAt (chains id s found)).mp (h.path id s found)).1
    · intro id s found
      exact ((isPath_byCreatedAt (chains id s found)).mp (h.path id s found)).2
  · rintro ⟨h, ordered⟩
    refine ⟨?_, h.oneActive⟩
    intro id s found
    exact (isPath_byCreatedAt (chains id s found)).mpr ⟨h.path id s found, ordered id s found⟩

/-- A history extended by one entry is in order exactly when the entry comes last. -/
lemma pairwise_snoc {history : List StateTransition} {x}
    (h : history.Pairwise fun x y => x.createdAt ≤ y.createdAt) :
    (List.Pairwise (fun x y : StateTransition => x.createdAt ≤ y.createdAt) (history ++ [x])) ↔
      ∀ y ∈ history, y.createdAt ≤ x.createdAt := by
  rw [List.pairwise_append]
  constructor
  · rintro ⟨_, _, last⟩ y mem
    exact last y mem x (List.mem_singleton_self x)
  · intro last
    refine ⟨h, List.pairwise_singleton _ _, ?_⟩
    intro y mem z hz
    rw [List.mem_singleton.mp hz]
    exact last y mem

/-- Every step leaves the histories without gaps. -/
lemma sqlStep_chains (ok : DatabaseOk cfg d) (h : Chains d.tables.incidents)
    (st : sqlStep cfg d l = some d') : Chains d'.tables.incidents := by
  rcases sqlStep_cases ok st with ⟨same, _⟩ |
    ⟨i, env, signal, tx, out, p, links, _, _, open', _, planned, staged, result⟩ |
    ⟨i, env, r, s, _, _, _, found, _, result⟩
  · rwa [same]
  · have held := (ok.transactions i signal tx open').held
    obtain ⟨env', writes⟩ := (planned.absorbs held staged).1.writes
    rw [result]
    exact chains_writes h writes
  · rw [result]
    intro id x hx
    rcases get?_set_cases hx with ⟨_, rfl⟩ | ⟨_, hx⟩
    · exact (h _ s found).snoc rfl
    · exact h id x hx

/-- A commit keeps the times of the histories in order exactly when what it records comes last. -/
lemma ordered_commit {i : Nat} {signal tx p links} (h : TransactionOk cfg d i signal tx)
    (ordered : Ordered d.tables.incidents) (planned : Planned cfg d.tables signal tx p)
    (staged : tx.staged = p.writes ++ List.map .linkIncident links) :
    Ordered (d.tables.applyWrites tx.staged).incidents ↔
      ∀ id x s, .addTransition id x ∈ tx.staged → d.tables.incidents.get? id = some s →
        ∀ y ∈ s.history, y.createdAt ≤ x.createdAt := by
  have absent : ∀ {env s}, .insertIncident (newIncident cfg.severity signal env) ∈ tx.staged →
      d.tables.incidents.get? (newIncidentId env.token) ≠ some s := by
    intro env s inserted found
    have gone : d.tables.incidents.get? (newIncidentId env.token) = none := h.held.absent _ inserted
    rw [gone] at found
    cases found
  rcases (planned.commits staged).2 with ⟨_, env, r, inserted, only, result⟩ |
    ⟨id, s, env, r, _, found, none', result⟩ | ⟨id, s, env, r, _, found, inserted, only, mem, result⟩
  · rw [result]
    refine iff_of_true ?_ ?_
    · intro id' x hx
      rcases get?_set_cases hx with ⟨_, rfl⟩ | ⟨_, hx⟩
      · exact List.pairwise_singleton _ _
      · exact ordered id' x hx
    · intro id' x s mem found
      rw [only id' x mem] at found
      exact absurd found (absent inserted)
  · rw [result]
    refine iff_of_true ?_ ?_
    · intro id' x hx
      rcases get?_set_cases hx with ⟨_, rfl⟩ | ⟨_, hx⟩
      · exact ordered id s found
      · exact ordered id' x hx
    · intro id' x s mem
      exact absurd mem (none' id' x)
  · rw [result]
    have ne : id ≠ newIncidentId env.token := by
      rintro rfl
      exact absent inserted found
    constructor
    · intro ordered' id' x s' mem' found'
      rcases only id' x mem' with rfl | ⟨rfl, rfl⟩
      · exact absurd found' (absent inserted)
      · rw [found] at found'
        cases found'
        refine (pairwise_snoc (ordered _ s found)).mp (ordered' id' (s.resolved r env) ?_)
        rw [Dict.get?_set_ne ne, Dict.get?_set_self]
    · intro last id' x hx
      rcases get?_set_cases hx with ⟨_, rfl⟩ | ⟨_, hx⟩
      · exact List.pairwise_singleton _ _
      · rcases get?_set_cases hx with ⟨_, rfl⟩ | ⟨_, hx⟩
        · exact (pairwise_snoc (ordered id s found)).mpr (last id _ s mem found)
        · exact ordered id' x hx

/-- One step over the database keeps the histories paths exactly when what it records is still
allowed and comes last. -/
lemma sqlStep_histories (ok : DatabaseOk cfg d) (chains : Chains d.tables.incidents)
    (h : HistoriesOk byCreatedAt d.tables.incidents) (st : sqlStep cfg d l = some d') :
    (HistoriesOk byCreatedAt d'.tables.incidents ↔ d.StillAllowed l d') ∧
      (d.StillAllowed l d' → ResolvedStay d.tables.incidents d'.tables.incidents) := by
  obtain ⟨paths, ordered⟩ := (histories_byCreatedAt chains).mp h
  rw [histories_byCreatedAt (sqlStep_chains ok chains st)]
  rcases sqlStep_cases ok st with ⟨same, allowed⟩ |
    ⟨i, env, signal, tx, out, p, links, rfl, calm, open', phase, planned, staged, result⟩ |
    ⟨i, env, r, s, rfl, calm, at', found, single, result⟩
  · rw [same]
    refine ⟨iff_of_true ⟨paths, ordered⟩ allowed, ?_⟩
    intro _ id s s' hx hx' closed
    rw [hx] at hx'
    cases hx'
    exact closed
  · have good := ok.transactions i signal tx open'
    have absorbs := (planned.absorbs good.held staged).1
    obtain ⟨env', writes⟩ := absorbs.writes
    rw [result]
    refine ⟨?_, fun _ => ?_⟩
    · rw [ordered_commit good ordered planned staged]
      constructor
      · rintro ⟨_, last⟩ i' env' ⟨⟩ _
        obtain ⟨w, at', rfl, running⟩ := open'
        refine ⟨?_, ?_⟩
        · intro r s at''
          cases at'.symm.trans at''
        · rintro signal' tx' out' ⟨w', at'', rfl, running'⟩ _
          cases at'.symm.trans at''
          cases running.symm.trans running'
          exact last
      · intro allowed
        exact ⟨paths.writes ok.incidents.keys writes,
          (allowed i env rfl calm).2 signal tx out open' phase⟩
    · exact absorbs.resolvedStay
  · rw [result]
    have step : Ordered (d.tables.incidents.set r.incidentId
        (s.transition r.target r.actor r.reason env.now)) ↔ ∀ y ∈ s.history, y.createdAt ≤ env.now := by
      constructor
      · intro ordered'
        exact (pairwise_snoc (ordered _ s found)).mp (ordered' r.incidentId _ Dict.get?_set_self)
      · intro last id' x hx
        rcases get?_set_cases hx with ⟨_, rfl⟩ | ⟨_, hx⟩
        · exact (pairwise_snoc (ordered _ s found)).mpr last
        · exact ordered id' x hx
    rw [step, paths.transition ok.incidents.keys found]
    refine ⟨⟨?_, ?_⟩, ?_⟩
    · rintro ⟨allowed, last⟩ i' env' ⟨⟩ _
      refine ⟨?_, ?_⟩
      · intro r' s' at'' found' _
        cases at'.symm.trans at''
        rw [found] at found'
        cases found'
        exact ⟨allowed, last⟩
      · rintro signal tx out ⟨w, at'', _⟩
        cases at'.symm.trans at''
    · intro allowed
      exact (allowed i env rfl calm).1 r s at' found single
    · intro allowed
      exact resolvedStay_transition found ((allowed i env rfl calm).1 r s at' found single).1

end

/-- Over every run, of the in-memory store as of the database, the histories are paths throughout, no
key has two active incidents and the resolved incidents stay resolved exactly when every transition
that is applied finds a status that still allows it and is recorded last. -/
theorem histories_are_paths (cfg : ProcessorConfig) :
    (∀ w0 w ls, (memoryService cfg).init w0 → (memoryService cfg).Run w0 ls w →
      ((memoryService cfg).Always (fun w => HistoriesOk id w.store.incidents) w0 ls ∧
        (memoryService cfg).EachStep
          (fun w _ w' => ResolvedStay w.store.incidents w'.store.incidents) w0 ls ↔
        (memoryService cfg).EachStep MemoryService.StillAllowed w0 ls)) ∧
    ∀ d0 d ls, (sqlCorrelator cfg).init d0 → (sqlCorrelator cfg).Run d0 ls d →
      ((sqlCorrelator cfg).Always (fun d => HistoriesOk byCreatedAt d.tables.incidents) d0 ls ∧
        (sqlCorrelator cfg).EachStep
          (fun d _ d' => ResolvedStay d.tables.incidents d'.tables.incidents) d0 ls ↔
        (sqlCorrelator cfg).EachStep Database.StillAllowed d0 ls) := by
  constructor
  · rintro ⟨store, requests⟩ w ls ⟨rfl, rfl⟩ run
    refine run.always_and_iff (I := fun w => Keyed w.store.incidents) ?_ ?_ ?_ ?_ ?_
    · intro s l s' keyed st
      exact memoryStep_keyed keyed st
    · intro s l s' keyed h st
      exact (memoryStep_histories keyed h st).1
    · intro s l s' keyed h st
      exact (memoryStep_histories keyed h st).2
    · intro id s found
      cases found
    · refine ⟨?_, ?_⟩
      · intro id s found
        cases found
      · intro id id' s s' found
        cases found
  · intro d0 d ls init run
    have ok := databaseOk_of_reachable ⟨d0, [], init, .nil⟩
    obtain ⟨t, ts⟩ := d0
    obtain ⟨rfl, rfl⟩ := init
    refine run.always_and_iff
      (I := fun d => DatabaseOk cfg d ∧ Chains d.tables.incidents) ?_ ?_ ?_ ⟨ok, ?_⟩ ?_
    · intro s l s' inv st
      exact ⟨inv.1.step st, sqlStep_chains inv.1 inv.2 st⟩
    · intro s l s' inv h st
      exact (sqlStep_histories inv.1 inv.2 h st).1
    · intro s l s' inv h st
      exact (sqlStep_histories inv.1 inv.2 h st).2
    · intro id s found
      cases found
    · refine ⟨?_, ?_⟩
      · intro id s found
        cases found
      · intro id id' s s' found
        cases found

/-- A transition of the incident `inc_1` by the API. -/
def manual (target : IncidentStatus) : TransitionRequest where
  incidentId := "inc_1"
  target
  actor := "api"
  reason := "manual"

/-- An incident is opened; one operator resolves it and another one acknowledges it, and both requests
are validated before the first of them is applied. -/
def lateAcknowledgement : List SqlLabel :=
  .process (anomalyOf "orders-service" "evt-1" 0)
    :: List.replicate 9 (.advance 0 { attempt := { token := "1" } })
    ++ [.request (manual .resolved), .request (manual .acknowledged),
      .advance 1 {}, .advance 2 {}, .advance 1 { now := seconds 60 }, .advance 2 { now := seconds 61 }]

/-- The incident after that run: its status, and its history as it is read. -/
lemma lateAcknowledgement_state : ((sqlCorrelator {}).exec {} lateAcknowledgement).bind (fun d =>
      (d.tables.incidents.get? "inc_1").map fun s =>
        (s.incident.status, (byCreatedAt s.history).map fun t => (t.fromStatus, t.toStatus))) =
    some (.acknowledged,
      [(none, .open), (some .open, .resolved), (some .resolved, .acknowledged)]) := by
  decide +kernel

/-- After that run the history of the incident is no path. -/
lemma lateAcknowledgement_end : ∃ d, (sqlCorrelator {}).Run {} lateAcknowledgement d ∧
    ¬ HistoriesOk byCreatedAt d.tables.incidents := by
  obtain ⟨d, run, state⟩ := Option.bind_eq_some_iff.mp lateAcknowledgement_state
  refine ⟨d, Machine.run_iff_exec.mpr run, fun h => ?_⟩
  obtain ⟨s, found, e⟩ := Option.map_eq_some_iff.mp state
  obtain ⟨t, ts, history, first, _, path⟩ := h.path "inc_1" s found
  have entries := (Prod.mk.inj e).2
  have mem : (some IncidentStatus.resolved, IncidentStatus.acknowledged) ∈
      (byCreatedAt s.history).map fun t => (t.fromStatus, t.toStatus) := by
    rw [entries]
    simp
  obtain ⟨x, hx, ends⟩ := List.mem_map.mp mem
  obtain ⟨from', to'⟩ := Prod.mk.inj ends
  rw [history] at hx
  rcases List.mem_cons.mp hx with rfl | later
  · rw [first] at from'
    cases from'
  · obtain ⟨u, start, allowed⟩ := path.allowed x later
    cases from'.symm.trans start
    rw [to'] at allowed
    cases allowed

/-- Not every run leaves the histories paths. -/
theorem histories_not_paths : ¬ ∀ d0 d ls, (sqlCorrelator {}).init d0 → (sqlCorrelator {}).Run d0 ls d →
    HistoriesOk byCreatedAt d.tables.incidents := by
  intro all
  obtain ⟨d, run, bad⟩ := lateAcknowledgement_end
  exact bad (all {} d lateAcknowledgement ⟨rfl, rfl⟩ run)

/-- In that run a transition is applied that is no longer allowed. -/
theorem histories_are_paths_late : ¬ (sqlCorrelator {}).EachStep Database.StillAllowed {}
    lateAcknowledgement := by
  intro allowed
  obtain ⟨d, run, bad⟩ := lateAcknowledgement_end
  obtain ⟨always, _⟩ := ((histories_are_paths {}).2 {} d lateAcknowledgement ⟨rfl, rfl⟩ run).mpr allowed
  exact bad (always lateAcknowledgement [] d (List.append_nil _).symm run)

end SentinelOps.IncidentCorrelator
