import SentinelOps.IncidentCorrelator.Interleaving
import SentinelOps.IncidentCorrelator.Links

/-!
# Links that are missed

A unit of work links its incident to those it reads, and it reads what was committed before. What
another unit commits between the read and its own commit it does not see, and the other one may not
have seen it either. `links_complete`: in every run in which no commit is missed in this way, every
two active incidents that belong linked are linked. `missedLink` is a run in which two units open
incidents of adjacent services at the same time.
-/

namespace SentinelOps.IncidentCorrelator

/-- The activity of two incidents is within the window of each other. -/
def Overlap (w : PyFloat) (x y : Incident) : Prop :=
  ∃ slack, timedelta w = .ok slack ∧ x.startedAt ≤ y.lastEvidenceAt + slack ∧
    y.startedAt ≤ x.lastEvidenceAt + slack

/-- Two incidents that belong linked. -/
structure ShouldLink (tcfg : TopologyConfig) (x y : Incident) : Prop where
  distinct : x.id ≠ y.id
  environment : x.environment = y.environment
  adjacent : Adjacent tcfg.dependencyGraph x y
  overlap : Overlap tcfg.correlationWindowSeconds x y

/-- A relation joins two incidents, from the one whose service depends on that of the other. -/
def IsLinked (tcfg : TopologyConfig) (relations : List IncidentRelation) (x y : Incident) : Prop :=
  ∃ r ∈ relations,
    (r.pair = (x.id, y.id) ∧ y.service ∈ dependenciesOf x.service tcfg.dependencyGraph) ∨
    (r.pair = (y.id, x.id) ∧ x.service ∈ dependenciesOf y.service tcfg.dependencyGraph)

/-- Every two active incidents that belong linked are linked. -/
def LinksComplete (tcfg : TopologyConfig) (t : Tables) : Prop :=
  ∀ id id' s s', t.incidents.get? id = some s → t.incidents.get? id' = some s' →
    s.incident.isActive = true → s'.incident.isActive = true →
    ShouldLink tcfg s.incident s'.incident → IsLinked tcfg t.relations s.incident s'.incident

/-- The relations among some writes. -/
def linksIn (ws : List Write) : List IncidentRelation :=
  ws.filterMap fun
    | .linkIncident r => some r
    | _ => none

namespace Transaction

/-- The unit of work has read the incidents of adjacent services. -/
def searched (tx : Transaction) : Bool :=
  match tx.phase with
  | .linking _ _ | .inserting _ _ _ | .committing _ => true
  | _ => false

/-- The incident the unit of work goes on with: the last one it has written. -/
def current (tx : Transaction) : Option Incident :=
  (tx.staged.filterMap fun
    | .insertIncident i | .updateIncident i => some i
    | _ => none).getLast?

/-- The incidents it has read and not yet looked at. -/
def candidates (tx : Transaction) : List Incident :=
  match tx.phase with
  | .linking candidates _ | .inserting _ candidates _ => candidates
  | _ => []

/-- The relations it has written or is about to write. -/
def links (tx : Transaction) : List IncidentRelation :=
  linksIn tx.staged ++ match tx.phase with
    | .inserting r _ _ => [r]
    | _ => []

/-- The unit of work links the incident it goes on with to another one, or it is linked already. -/
def Covers (tcfg : TopologyConfig) (relations : List IncidentRelation) (tx : Transaction)
    (x y : Incident) : Prop :=
  IsLinked tcfg (relations ++ tx.links) x y ∨
    ∃ c ∈ tx.candidates, c.id = y.id ∧ c.service = y.service ∧ ShouldLink tcfg x c

/-- Of the committed incidents none is missed. -/
def Abreast (tcfg : TopologyConfig) (t : Tables) (tx : Transaction) : Prop :=
  tx.searched = true → ∀ x, tx.current = some x → ∀ id s, t.incidents.get? id = some s →
    s.incident.isActive = true → tx.locked ≠ some id → ShouldLink tcfg x s.incident →
    tx.Covers tcfg t.relations x s.incident

end Transaction

/-- No commit is missed: where a unit of work commits an incident while another one, which has read
its candidates, goes on with an incident that belongs linked to it, the other one has linked the two
or has still to look at it. And no transition makes a resolved incident active again. -/
def Database.NoneMissed (tcfg : TopologyConfig) (d : Database) (l : SqlLabel) (_ : Database) :
    Prop :=
  ∀ i env, l = .advance i env → env.raised = none →
    (∀ signal tx out x, d.Open i signal tx → tx.phase = .committing out → tx.current = some x →
      ∀ j signal' tx' y, j ≠ i → d.Open j signal' tx' → tx'.searched = true →
        tx'.current = some y → ShouldLink tcfg y x →
        tx'.Covers tcfg (d.tables.relations ++ tx.links) y x) ∧
    ∀ r s, d.tasks[i]? = some (.request r .validated) →
      d.tables.incidents.get? r.incidentId = some s → r.target.isActive = true →
      s.incident.isActive = true

/-- Every task is a unit of work that has committed. -/
def Database.Settled (d : Database) : Prop :=
  ∀ task ∈ d.tasks, ∃ w out, task = .worker w ∧ w.phase = .returned out

section
variable {tcfg : TopologyConfig} {x y y' : Incident} {relations relations' : List IncidentRelation}

/-- To belong linked is symmetric. -/
lemma ShouldLink.symm (h : ShouldLink tcfg x y) : ShouldLink tcfg y x where
  distinct := h.distinct.symm
  environment := h.environment.symm
  adjacent := Or.symm h.adjacent
  overlap := by
    obtain ⟨slack, converted, first, second⟩ := h.overlap
    exact ⟨slack, converted, second, first⟩

/-- To be linked is symmetric. -/
lemma IsLinked.symm (h : IsLinked tcfg relations x y) : IsLinked tcfg relations y x := by
  obtain ⟨r, mem, joins⟩ := h
  exact ⟨r, mem, joins.symm⟩

/-- What is linked stays so when relations are added. -/
lemma IsLinked.mono (h : IsLinked tcfg relations x y) (more : relations ⊆ relations') :
    IsLinked tcfg relations' x y := by
  obtain ⟨r, mem, joins⟩ := h
  exact ⟨r, more mem, joins⟩

/-- What is linked to an incident is linked to whatever has its id and its service. -/
lemma IsLinked.congr (h : IsLinked tcfg relations x y) (id : y.id = y'.id)
    (service : y.service = y'.service) : IsLinked tcfg relations x y' := by
  unfold IsLinked at h ⊢
  rwa [← id, ← service]

/-- More relations cover no less. -/
lemma Transaction.Covers.mono {tx : Transaction} (h : tx.Covers tcfg relations x y)
    (more : relations ⊆ relations') : tx.Covers tcfg relations' x y := by
  rcases h with linked | ahead
  · refine .inl (linked.mono ?_)
    intro r mem
    exact List.mem_append.mpr ((List.mem_append.mp mem).imp_left fun old => more old)
  · exact .inr ahead

/-- Two versions of an incident that differ in nothing a link depends on. -/
structure Alike (x y : Incident) : Prop where
  id : x.id = y.id
  service : x.service = y.service
  environment : x.environment = y.environment
  startedAt : x.startedAt = y.startedAt
  lastEvidenceAt : x.lastEvidenceAt = y.lastEvidenceAt

/-- What belongs linked to an incident belongs linked to a version of it. -/
lemma ShouldLink.congr (h : ShouldLink tcfg x y) (alike : Alike y y') : ShouldLink tcfg x y' := by
  obtain ⟨distinct, environment, adjacent, overlap⟩ := h
  refine ⟨alike.id ▸ distinct, alike.environment ▸ environment, ?_, ?_⟩
  · unfold Adjacent at adjacent ⊢
    rwa [← alike.service]
  · unfold Overlap at overlap ⊢
    rwa [← alike.startedAt, ← alike.lastEvidenceAt]

/-- What covers an incident covers its versions. -/
lemma Transaction.Covers.congr {tx : Transaction} (h : tx.Covers tcfg relations x y)
    (alike : Alike y y') : tx.Covers tcfg relations x y' := by
  rcases h with linked | ⟨c, mem, id, service, should⟩
  · exact .inl (linked.congr alike.id alike.service)
  · exact .inr ⟨c, mem, id.trans alike.id, service.trans alike.service, should⟩

/-- The link to a candidate that belongs linked. -/
lemma linkOf_some {now r} (h : linkOf tcfg x now y = .ok (some r)) (should : ShouldLink tcfg x y) :
    IsLinked tcfg [r] x y := by
  have adjacent := (@mem_relatedServices _ x y).mpr should.adjacent
  unfold linkOf at h
  split at h
  · cases h
  · obtain ⟨overlap, _, h⟩ := Except.bind_eq_ok.mp h
    split at h <;> cases h
    refine ⟨_, List.mem_singleton_self _, ?_⟩
    rcases @relationOf_pair tcfg x y now adjacent with ⟨along, first, second⟩ |
      ⟨along, first, second⟩
    · exact .inl ⟨Prod.ext first second, along⟩
    · exact .inr ⟨Prod.ext first second, along⟩

/-- A relation of the pair is there. -/
lemma IsLinked.of_related {t : Tables} {r} (h : IsLinked tcfg [r] x y)
    (known : t.related r = true) : IsLinked tcfg t.relations x y := by
  obtain ⟨r', single, joins⟩ := h
  cases List.mem_singleton.mp single
  obtain ⟨r', mem, same⟩ := List.any_eq_true.mp known
  obtain ⟨first, second⟩ := of_decide_eq_true same
  have pair : r'.pair = r.pair := Prod.ext first second
  refine ⟨r', mem, ?_⟩
  rwa [pair]

/-- A candidate that is left out does not belong linked. -/
lemma linkOf_none {now} (h : linkOf tcfg x now y = .ok none) : ¬ ShouldLink tcfg x y := by
  intro should
  unfold linkOf at h
  split at h
  · rename_i own
    exact should.distinct own.symm
  · obtain ⟨overlap, compared, h⟩ := Except.bind_eq_ok.mp h
    obtain ⟨slack, converted, iff⟩ := incidentsOverlap_ok compared
    obtain ⟨slack', converted', near⟩ := should.overlap
    cases converted.symm.trans converted'
    rw [iff.mpr near] at h
    cases h

end

section
variable {cfg : ProcessorConfig} {d : Database} {t : Tables} {i : Nat} {signal : AnomalySignal}
  {tx tx' : Transaction} {env : StepEnv} {p : Plan} {links : List IncidentRelation}

/-- An active incident of one of the services is read. -/
lemma activeIn_of {d : Incidents} {services environment id s} (found : d.get? id = some s)
    (service : s.incident.service ∈ services) (same : s.incident.environment = environment)
    (active : s.incident.isActive = true) : s.incident ∈ d.activeIn services environment :=
  List.mem_map.mpr ⟨s, List.mem_filter.mpr ⟨Dict.mem_values_iff.mpr ⟨id, found⟩,
    decide_eq_true ⟨service, same, active⟩⟩, rfl⟩

/-- The relations after some writes. -/
lemma relations_applyWrites {ws} : (t.applyWrites ws).relations = t.relations ++ linksIn ws := by
  have update {t : Tables} {id f} : (t.update id f).relations = t.relations := by
    unfold Tables.update
    split <;> rfl
  induction ws generalizing t with
  | nil => exact (List.append_nil _).symm
  | cons w ws ih =>
    refine (@ih (t.applyWrite w)).trans ?_
    cases w with
    | insertIncident i => rfl
    | updateIncident i => exact congrArg (· ++ _) update
    | addEvidence id e => exact congrArg (· ++ _) update
    | addTransition id x => exact congrArg (· ++ _) update
    | linkIncident r => exact List.append_assoc _ _ _

/-- The incident a unit of work goes on with is the one of its plan. -/
lemma Planned.current (h : Planned cfg t signal tx p)
    (staged : tx.staged = p.writes ++ links.map .linkIncident) : tx.current = some p.current := by
  have none' : (links.map Write.linkIncident).filterMap (fun
      | .insertIncident i | .updateIncident i => some i
      | _ => none) = [] := by
    rw [List.filterMap_map]
    exact List.filterMap_eq_nil_iff.mpr fun r _ => rfl
  obtain ⟨active, env, planned, _⟩ := h
  unfold Transaction.current
  rw [staged, List.filterMap_append, none', List.append_nil]
  rcases plan_cases planned with ⟨_, reason, hw, hc⟩ | ⟨a, reason, _, hw, hc, _⟩ |
    ⟨a, reason, _, hw, hc⟩ <;> rw [hw, hc] <;> rfl

/-- A plan writes to the row that was read and to the one it inserts. -/
lemma Planned.targets (h : Planned cfg t signal tx p) {w} (mem : w ∈ p.writes) :
    w.target = tx.locked ∨ ∃ i, .insertIncident i ∈ p.writes ∧ w.target = some i.id := by
  obtain ⟨active, env, planned, locked, _⟩ := h
  have opens : ∀ {reason w}, w ∈ openWrites cfg.severity signal reason env →
      w.target = some (newIncident cfg.severity signal env).id := by
    intro reason w mem
    simp only [openWrites, List.mem_cons, List.not_mem_nil, or_false] at mem
    rcases mem with rfl | rfl | rfl <;> rfl
  rw [locked]
  rcases plan_cases planned with ⟨_, reason, hw, _⟩ | ⟨a, reason, rfl, hw, _, _⟩ |
    ⟨a, reason, rfl, hw, _⟩
  · rw [hw] at mem ⊢
    exact .inr ⟨_, List.mem_cons_self, opens mem⟩
  · rw [hw] at mem
    simp only [List.mem_cons, List.not_mem_nil, or_false] at mem
    rcases mem with rfl | rfl <;> exact .inl rfl
  · rw [hw] at mem ⊢
    rcases List.mem_append.mp mem with mem | mem
    · simp only [List.mem_cons, List.not_mem_nil, or_false] at mem
      rcases mem with rfl | rfl <;> exact .inl rfl
    · exact .inr ⟨_, List.mem_append_right _ List.mem_cons_self, opens mem⟩

/-- The rows that a transaction has not locked are those committed. -/
lemma Planned.others (h : Planned cfg t signal tx p) (held : Held t signal tx) {id s}
    (staged : tx.staged = p.writes) (found : t.incidents.get? id = some s)
    (other : tx.locked ≠ some id) : (t.applyWrites tx.staged).incidents.get? id = some s := by
  rw [get?_applyWrites_ne]
  · exact found
  · intro w mem
    rw [staged] at mem
    rcases h.targets mem with locked | ⟨i, inserted, target⟩
    · rw [locked]
      exact other
    · rw [target]
      rintro ⟨⟩
      rw [← staged] at inserted
      rw [held.absent i inserted] at found
      cases found

/-- The active incidents after a commit: those that were committed and are not locked, and the one
that the unit of work goes on with. -/
lemma Planned.committed (h : Planned cfg t signal tx p) (held : Held t signal tx)
    (staged : tx.staged = p.writes ++ links.map .linkIncident) {id s}
    (found : (t.applyWrites tx.staged).incidents.get? id = some s)
    (active : s.incident.isActive = true) :
    (t.incidents.get? id = some s ∧ tx.locked ≠ some id) ∨ s.incident = p.current := by
  obtain ⟨read, env, planned, locked, row⟩ := h
  have absent : ∀ i, .insertIncident i ∈ p.writes → t.incidents.get? i.id = none := by
    intro i mem
    apply held.absent
    rw [staged]
    exact List.mem_append_left _ mem
  rw [staged, applyWrites_append, applyWrites_links] at found
  rcases plan_cases planned with ⟨rfl, reason, hw, hc⟩ | ⟨a, reason, rfl, hw, hc, _⟩ |
    ⟨a, reason, rfl, hw, hc⟩
  · rw [hw, applyWrites_open] at found
    rw [hc]
    rcases get?_set_cases found with ⟨_, rfl⟩ | ⟨_, found⟩
    · exact .inr rfl
    · refine .inl ⟨found, ?_⟩
      rw [locked]
      exact nofun
  · obtain ⟨s0, there, rfl⟩ := row a rfl
    rw [hw, applyWrites_append_evidence there] at found
    rw [hc]
    rcases get?_set_cases found with ⟨_, rfl⟩ | ⟨ne, found⟩
    · exact .inr rfl
    · refine .inl ⟨found, ?_⟩
      rw [locked]
      rintro ⟨⟩
      exact ne rfl
  · obtain ⟨s0, there, rfl⟩ := row a rfl
    rw [hw, applyWrites_append, applyWrites_open, applyWrites_resolve there] at found
    rw [hc]
    rcases get?_set_cases found with ⟨_, rfl⟩ | ⟨_, found⟩
    · exact .inr rfl
    · rcases get?_set_cases found with ⟨_, rfl⟩ | ⟨ne, found⟩
      · cases active
      · refine .inl ⟨found, ?_⟩
        rw [locked]
        rintro ⟨⟩
        exact ne rfl

/-- A transaction that has not read its candidates has nothing to have missed. -/
lemma Transaction.Abreast.unread {tcfg} (h : tx.searched = false) : tx.Abreast tcfg t := by
  intro searched
  rw [h] at searched
  cases searched

/-- A transaction that has written nothing goes on with no incident. -/
lemma Transaction.Abreast.idle {tcfg} (h : tx.staged = []) : tx.Abreast tcfg t := by
  intro _ x current
  unfold Transaction.current at current
  rw [h] at current
  cases current

/-- A transaction goes on to its next candidate, or to its commit. -/
lemma Transaction.Abreast.goesOn {tcfg} (h : tx.Abreast tcfg t) (searched : tx.searched = true)
    (locked : tx'.locked = tx.locked) (current : tx'.current = tx.current)
    (more : tx.links ⊆ tx'.links)
    (next : ∀ x c, tx.current = some x → c ∈ tx.candidates → ShouldLink tcfg x c →
      c ∈ tx'.candidates ∨ IsLinked tcfg (t.relations ++ tx'.links) x c) : tx'.Abreast tcfg t := by
  intro _ x same id s found active other should
  rw [current] at same
  rw [locked] at other
  rcases h searched x same id s found active other should with linked |
    ⟨c, mem, own, service, ahead⟩
  · refine .inl (linked.mono ?_)
    intro r there
    exact List.mem_append.mpr ((List.mem_append.mp there).imp_right fun old => more old)
  · rcases next x c same mem ahead with still | linked
    · exact .inr ⟨c, still, own, service, ahead⟩
    · exact .inl (linked.congr own service)

/-- A link changes nothing about the incident that a unit of work goes on with. -/
lemma current_link {r phase} :
    ({ tx with phase, staged := tx.staged ++ [.linkIncident r] } : Transaction).current =
      tx.current := by
  unfold Transaction.current
  rw [List.filterMap_append]
  exact congrArg List.getLast? (List.append_nil _)

/-- A statement that goes on misses no incident that was committed before. -/
lemma statement_abreast (ok : TransactionOk cfg d i signal tx)
    (h : tx.Abreast cfg.topology d.tables)
    (st : statement cfg d i env signal tx = some (.goesOn tx')) :
    tx'.Abreast cfg.topology d.tables := by
  have progress := ok.progress
  unfold Progress at progress
  unfold statement at st
  dsimp only at st
  cases phase : tx.phase with
  -- before the read of the candidates there is nothing to miss
  | begun =>
    rw [phase] at st progress
    cases st
    exact .idle progress.1
  | unseen =>
    rw [phase] at st progress
    cases st
    exact .idle progress.1
  | locking candidate =>
    rw [phase] at st progress
    have written : ∀ active, planned cfg signal active env.attempt tx = .goesOn tx' →
        tx'.staged = [] := by
      intro active made
      unfold planned at made
      split at made <;> cases made
      exact progress.1
    cases candidate with
    | none => exact .idle (written _ (Option.some.inj st))
    | some id =>
      dsimp only at st
      split at st
      · cases st
      · exact .idle (written _ (Option.some.inj st))
  | writing rest p =>
    rw [phase] at st progress
    obtain ⟨made, staged⟩ := progress
    cases rest with
    | cons write rest =>
      obtain ⟨rfl, _⟩ := flush_goesOn st
      exact .unread rfl
    | nil =>
      rw [List.append_nil] at staged
      cases st
      -- the read of the candidates: every committed incident that belongs linked is among them
      intro _ x current id s found active other should
      have bare : tx.staged = p.writes ++ List.map Write.linkIncident [] := by simp [staged]
      cases (made.current bare).symm.trans current
      refine .inr ⟨s.incident, ?_, rfl, rfl, should⟩
      exact activeIn_of (made.others ok.held staged found other)
        (mem_relatedServices.mpr should.adjacent) should.environment.symm active
  | linking candidates p =>
    rw [phase] at st progress
    obtain ⟨made, links, staged⟩ := progress
    have searched : tx.searched = true := by simp [Transaction.searched, phase]
    have current : tx.current = some p.current := made.current staged
    have before : tx.candidates = candidates := by simp [Transaction.candidates, phase]
    have unlinked : tx.links = linksIn tx.staged := by simp [Transaction.links, phase]
    cases candidates with
    | nil =>
      cases st
      refine h.goesOn searched rfl rfl ?_ ?_
      · rw [unlinked]
        exact List.subset_append_left _ _
      · intro x c _ mem
        rw [before] at mem
        cases mem
    | cons other rest =>
      dsimp only at st
      cases link : linkOf cfg.topology p.current tx.linkedNow other with
      | error e =>
        rw [link] at st
        cases st
      | ok found =>
        rw [link] at st
        cases found with
        | none =>
          cases st
          refine h.goesOn searched rfl rfl ?_ ?_
          · rw [unlinked]
            exact List.subset_append_left _ _
          · intro x c same mem should
            cases current.symm.trans same
            rw [before] at mem
            rcases List.mem_cons.mp mem with rfl | later
            · exact absurd should (linkOf_none link)
            · exact .inl later
        | some r =>
          dsimp only at st
          -- the read of the link sees what the transaction itself has written
          by_cases known : (d.tables.applyWrites tx.staged).related r = true
          · rw [if_pos known] at st
            cases st
            refine h.goesOn searched rfl rfl ?_ ?_
            · rw [unlinked]
              exact List.subset_append_left _ _
            · intro x c same mem should
              cases current.symm.trans same
              rw [before] at mem
              rcases List.mem_cons.mp mem with rfl | later
              · have linked := (linkOf_some link should).of_related known
                rw [relations_applyWrites] at linked
                refine .inr (linked.mono ?_)
                rw [← unlinked]
                simp [Transaction.links, phase]
              · exact .inl later
          · rw [if_neg known] at st
            cases st
            refine h.goesOn searched rfl rfl ?_ ?_
            · rw [unlinked]
              exact List.subset_append_left _ _
            · intro x c same mem should
              cases current.symm.trans same
              rw [before] at mem
              rcases List.mem_cons.mp mem with rfl | later
              · refine .inr ((linkOf_some link should).mono ?_)
                simp [Transaction.links]
              · exact .inl later
  | inserting r candidates p =>
    rw [phase] at st progress
    obtain ⟨rfl, _⟩ := flush_goesOn st
    have searched : tx.searched = true := by simp [Transaction.searched, phase]
    refine h.goesOn searched rfl current_link ?_ ?_
    · simp [Transaction.links, phase, linksIn]
    · intro x c _ mem _
      refine .inl ?_
      simpa [Transaction.candidates, phase] using mem
  | committing out =>
    rw [phase] at st
    cases st

end

/-- What holds as long as no commit is missed: the links are complete, and no open transaction has
missed a committed incident. -/
structure LinkingOk (tcfg : TopologyConfig) (d : Database) : Prop where
  complete : LinksComplete tcfg d.tables
  abreast : ∀ i signal tx, d.Open i signal tx → tx.Abreast tcfg d.tables

/-- The active incidents of some rows are versions of active incidents of others. -/
def Retains (t t' : Tables) : Prop :=
  t'.relations = t.relations ∧ ∀ id s', t'.incidents.get? id = some s' →
    s'.incident.isActive = true → ∃ s, t.incidents.get? id = some s ∧
      s.incident.isActive = true ∧ Alike s.incident s'.incident

section
variable {cfg : ProcessorConfig} {tcfg : TopologyConfig} {d d' : Database} {t t' : Tables} {i : Nat}
  {signal : AnomalySignal} {tx : Transaction} {env : StepEnv} {l : SqlLabel}

/-- An incident is a version of itself. -/
lemma Alike.refl {x} : Alike x x := ⟨rfl, rfl, rfl, rfl, rfl⟩

/-- To be a version is symmetric. -/
lemma Alike.symm {x y} (h : Alike x y) : Alike y x :=
  ⟨h.id.symm, h.service.symm, h.environment.symm, h.startedAt.symm, h.lastEvidenceAt.symm⟩

/-- Rows retain themselves. -/
lemma Retains.refl : Retains t t := ⟨rfl, fun _ s found active => ⟨s, found, active, .refl⟩⟩

/-- The links stay complete while no incident becomes active or grows. -/
lemma LinksComplete.retains (h : LinksComplete tcfg t) (same : Retains t t') :
    LinksComplete tcfg t' := by
  intro id id' s s' found found' active active' should
  obtain ⟨s0, there, busy, alike⟩ := same.2 id s found active
  obtain ⟨s0', there', busy', alike'⟩ := same.2 id' s' found' active'
  have before : ShouldLink tcfg s0.incident s0'.incident :=
    ((should.congr alike'.symm).symm.congr alike.symm).symm
  have linked := h id id' s0 s0' there there' busy busy' before
  rw [same.1]
  exact ((linked.congr alike'.id alike'.service).symm.congr alike.id alike.service).symm

/-- A transaction misses nothing while no incident becomes active or grows. -/
lemma Transaction.Abreast.retains (h : tx.Abreast tcfg t) (same : Retains t t') :
    tx.Abreast tcfg t' := by
  intro searched x current id s found active other should
  obtain ⟨s0, there, busy, alike⟩ := same.2 id s found active
  have covers := h searched x current id s0 there busy other (should.congr alike.symm)
  rw [same.1]
  exact covers.congr alike

/-- One task steps, or is new. -/
lemma LinkingOk.replace {tasks' : List Task} {task'} (h : LinkingOk tcfg d)
    (here : tasks'[i]? = some task') (others : ∀ j, j ≠ i → tasks'[j]? = d.tasks[j]?)
    (complete : LinksComplete tcfg t')
    (abreast : ∀ j signal tx, j ≠ i → d.Open j signal tx → tx.Abreast tcfg d.tables →
      tx.Abreast tcfg t')
    (own : ∀ w tx, task' = .worker w → w.phase = .running tx → tx.Abreast tcfg t') :
    LinkingOk tcfg { tables := t', tasks := tasks' } := by
  refine ⟨complete, ?_⟩
  rintro j signal tx ⟨w, at', rfl, running⟩
  by_cases e : j = i
  · subst e
    exact own w tx (Option.some.inj (here.symm.trans at')) running
  · have before : d.Open j w.signal tx := ⟨w, (others j e).symm.trans at', rfl, running⟩
    exact abreast j w.signal tx e before (h.abreast j w.signal tx before)

/-- One task steps, or is new, and no incident becomes active or grows. -/
lemma LinkingOk.goesOn {tasks' : List Task} {task'} (h : LinkingOk tcfg d)
    (here : tasks'[i]? = some task') (others : ∀ j, j ≠ i → tasks'[j]? = d.tasks[j]?)
    (same : Retains d.tables t')
    (own : ∀ w tx, task' = .worker w → w.phase = .running tx → tx.Abreast tcfg t') :
    LinkingOk tcfg { tables := t', tasks := tasks' } :=
  h.replace here others (h.complete.retains same) (fun _ _ _ _ _ before => before.retains same) own

/-- The commit of a unit of work. -/
lemma LinkingOk.committed {w : Worker} {out} (ok : DatabaseOk cfg d) (h : LinkingOk cfg.topology d)
    (at' : d.tasks[i]? = some (.worker w)) (running : w.phase = .running tx)
    (ends : tx.phase = .committing out) (calm : env.raised = none)
    (noticed : d.NoneMissed cfg.topology (.advance i env) d') :
    LinkingOk cfg.topology
      { tables := d.tables.applyWrites tx.staged
        tasks := d.tasks.set i (.worker { w with phase := .returned out }) } := by
  obtain ⟨here, others⟩ := tasks_set (.worker { w with phase := .returned out }) at'
  have open' : d.Open i w.signal tx := ⟨w, at', rfl, running⟩
  have okTx := ok.transactions i w.signal tx open'
  have ended : ∀ w' tx', Task.worker { w with phase := .returned out } = .worker w' →
      w'.phase = .running tx' → tx'.Abreast cfg.topology (d.tables.applyWrites tx.staged) := by
    rintro w' tx' ⟨⟩ running'
    cases running'
  have progress := okTx.progress
  unfold Progress at progress
  rw [ends] at progress
  rcases progress with ⟨empty, _⟩ | ⟨p, planned, links, staged⟩
  · refine h.goesOn here others ?_ ended
    rw [empty]
    exact .refl
  · have current := planned.current staged
    have relations :
        (d.tables.applyWrites tx.staged).relations = d.tables.relations ++ tx.links := by
      rw [relations_applyWrites]
      simp [Transaction.links, ends]
    have after : ∀ id s, (d.tables.applyWrites tx.staged).incidents.get? id = some s →
        s.incident.isActive = true → (d.tables.incidents.get? id = some s ∧ tx.locked ≠ some id) ∨
          s.incident = p.current := fun id s => planned.committed okTx.held staged
    -- what the committed incident belongs linked to, it has been linked to
    have mine : ∀ id s, d.tables.incidents.get? id = some s → s.incident.isActive = true →
        tx.locked ≠ some id → ShouldLink cfg.topology p.current s.incident →
        IsLinked cfg.topology (d.tables.relations ++ tx.links) p.current s.incident := by
      intro id s found active other should
      have searched : tx.searched = true := by simp [Transaction.searched, ends]
      rcases h.abreast i w.signal tx open' searched _ current id s found active other should with
        linked | ⟨c, mem, _⟩
      · exact linked
      · simp [Transaction.candidates, ends] at mem
    apply h.replace here others
    · intro id id' s s' found found' active active' should
      rw [relations]
      rcases after id s found active with ⟨old, other⟩ | new
      · rcases after id' s' found' active' with ⟨old', _⟩ | new'
        · exact (h.complete id id' s s' old old' active active' should).mono
            (List.subset_append_left _ _)
        · rw [new'] at should ⊢
          exact (mine id s old active other should.symm).symm
      · rcases after id' s' found' active' with ⟨old', other'⟩ | new'
        · rw [new] at should ⊢
          exact mine id' s' old' active' other' should
        · rw [new, new'] at should
          exact absurd rfl should.distinct
    · intro j signal' tx' ne open'' before searched x current' id s found active other should
      rw [relations]
      rcases after id s found active with ⟨old, _⟩ | new
      · exact (before searched x current' id s old active other should).mono
          (List.subset_append_left _ _)
      · rw [new] at should ⊢
        exact (noticed i env rfl calm).1 w.signal tx out p.current open' ends current j signal' tx'
          x ne open'' searched current' should
    · exact ended

/-- One step misses nothing and leaves the links complete when no commit is missed in it. -/
lemma LinkingOk.step (ok : DatabaseOk cfg d) (h : LinkingOk cfg.topology d)
    (noticed : d.NoneMissed cfg.topology l d') (st : sqlStep cfg d l = some d') :
    LinkingOk cfg.topology d' := by
  cases sqlStep_stepped st with
  | @called signal =>
    obtain ⟨here, others⟩ := tasks_append (.worker (.start cfg signal))
    refine h.goesOn here others .refl ?_
    rintro w tx ⟨⟩ running
    unfold Worker.start at running
    dsimp only at running
    split at running <;> cases running
    exact .idle rfl
  | @requested r =>
    obtain ⟨here, others⟩ := tasks_append (.request r .received)
    refine h.goesOn here others .refl ?_
    rintro w tx ⟨⟩
  | @goesOn i env w tx tx' at' running ran =>
    have open' : d.Open i w.signal tx := ⟨w, at', rfl, running⟩
    obtain ⟨here, others⟩ := tasks_set (.worker { w with phase := .running tx' }) at'
    refine h.goesOn here others .refl ?_
    rintro w' tx'' ⟨⟩ ⟨⟩
    exact statement_abreast (ok.transactions i w.signal tx open') (h.abreast i w.signal tx open') ran
  | @failed i env w tx e at' running _ =>
    -- a rollback leaves the tables; a retry starts with nothing written
    obtain ⟨here, others⟩ := tasks_set (.worker (w.fail cfg e)) at'
    refine h.goesOn here others .refl ?_
    rintro w' tx' ⟨⟩ running'
    rcases (@Worker.fail_phase cfg w e).2 with again | ⟨x, ended⟩
    · cases again.symm.trans running'
      exact .idle rfl
    · cases ended.symm.trans running'
  | commits at' running calm ends => exact h.committed ok at' running ends calm noticed
  | @answered i env r phase phase' at' _ =>
    obtain ⟨here, others⟩ := tasks_set (.request r phase') at'
    refine h.goesOn here others .refl ?_
    rintro w tx ⟨⟩
  | @moved i env r s at' calm found unlocked single free =>
    obtain ⟨here, others⟩ := tasks_set (.request r (.answered 200)) at'
    refine h.goesOn here others ?_ ?_
    · refine ⟨rfl, ?_⟩
      intro id s' there active
      rcases get?_set_cases there with ⟨rfl, rfl⟩ | ⟨_, there⟩
      · -- a transition that makes an incident active again is what `noticed` excludes
        have busy := (noticed i env rfl calm).2 r s at' found active
        exact ⟨s, found, busy, rfl, rfl, rfl, rfl, rfl⟩
      · exact ⟨s', there, active, .refl⟩
    · rintro w tx ⟨⟩

end

/-- In every run in which no commit is missed, the links are complete in every state reached. -/
theorem links_complete (cfg : ProcessorConfig) (d0 d : Database) (ls : List SqlLabel)
    (init : (sqlCorrelator cfg).init d0) (run : (sqlCorrelator cfg).Run d0 ls d)
    (noticed : (sqlCorrelator cfg).EachStep (Database.NoneMissed cfg.topology) d0 ls) :
    LinksComplete cfg.topology d.tables := by
  have start : DatabaseOk cfg d0 ∧ LinkingOk cfg.topology d0 := by
    refine ⟨databaseOk_of_reachable (.init init), ?_⟩
    obtain ⟨t, ts⟩ := d0
    obtain ⟨rfl, rfl⟩ := init
    refine ⟨?_, ?_⟩
    · intro id id' s s' found
      cases found
    · rintro i signal tx ⟨w, at', _⟩
      cases at'
  have ends : DatabaseOk cfg d ∧ LinkingOk cfg.topology d := by
    apply run.invariant_of (I := fun d => DatabaseOk cfg d ∧ LinkingOk cfg.topology d) noticed ?_
      start
    intro s l s' h clear st
    exact ⟨h.1.step st, h.2.step h.1 clear st⟩
  exact ends.2.complete

/-- Two anomalies of adjacent services at the same time: both units of work read their candidates
before either of them commits. -/
def missedLink : List SqlLabel :=
  [.process (anomalyOf "orders-service" "evt-1" 0),
      .process (anomalyOf "payments-service" "evt-2" 0)]
    ++ List.replicate 8 (.advance 0 { attempt := { token := "1" } })
    ++ List.replicate 8 (.advance 1 { attempt := { token := "2" } })
    ++ [.advance 0 {}, .advance 1 {}]

/-- The same two anomalies, one after the other. -/
def foundLink : List SqlLabel :=
  [.process (anomalyOf "payments-service" "evt-1" 0)]
    ++ List.replicate 9 (.advance 0 { attempt := { token := "1" } })
    ++ [.process (anomalyOf "orders-service" "evt-2" 0)]
    ++ List.replicate 11 (.advance 1 { attempt := { token := "2" } })

/-- The task is a call of the processor that has returned. -/
def Task.isReturned : Task → Bool
  | .worker { phase := .returned _, .. } => true
  | _ => false

/-- What an incident is of. -/
def Incident.place (i : Incident) : String × String × String := (i.id, i.service, i.environment)

/-- Whether an incident is active, and since and until when. -/
def Incident.activity (i : Incident) : Bool × Instant × Instant :=
  (i.isActive, i.startedAt, i.lastEvidenceAt)

/-- No other unit of work is open when one takes a step. -/
def Database.alone (d : Database) : SqlLabel → Bool
  | .advance i _ => !d.other i (·.transaction.isSome) && match d.tasks[i]? with
    | some (.request _ _) => false
    | _ => true
  | _ => true

/-- What goes on alone misses nothing. -/
lemma noneMissed_of_alone {tcfg} {d d' : Database} {l} (h : d.alone l = true) :
    d.NoneMissed tcfg l d' := by
  rintro i env rfl calm
  obtain ⟨alone, worker⟩ := (Bool.and_eq_true _ _).mp h
  rw [Bool.not_eq_true'] at alone
  refine ⟨?_, ?_⟩
  · rintro signal tx out x _ _ _ j signal' tx' y ne ⟨⟨s, a, _⟩, at', _, rfl⟩
    have closed := other_eq_false alone ne at'
    cases closed
  · intro r s at' found reactivated
    rw [at'] at worker
    cases worker

/-- The end of the first run: both units have committed, and there is no relation. -/
lemma missedLink_state : ((sqlCorrelator {}).exec {} missedLink).map (fun d =>
      (d.tasks.all Task.isReturned, d.tables.relations.length)) = some (true, 0) ∧
    ((sqlCorrelator {}).exec {} missedLink).map (fun d =>
      d.tables.incidents.values.map (·.incident.place)) =
        some [("inc_1", "orders-service", "development"),
          ("inc_2", "payments-service", "development")] ∧
    ((sqlCorrelator {}).exec {} missedLink).map (fun d =>
      d.tables.incidents.values.map (·.incident.activity)) =
        some [(true, seconds (-30), 0), (true, seconds (-30), 0)] := by
  refine ⟨?_, ?_, ?_⟩ <;> decide +kernel

/-- The second run: no two units are open at once, and its end has the relation. -/
lemma foundLink_state : (sqlCorrelator {}).check Database.alone (fun d =>
      d.tables.relations.map (·.pair) = [("inc_2", "inc_1")]) {} foundLink = true := by
  decide +kernel

/-- Two units of work that run at the same time may both miss the incident of the other. -/
theorem not_links_complete : ¬ ∀ (cfg : ProcessorConfig) (d0 d : Database) (ls : List SqlLabel),
    (∀ r, .request r ∉ ls) → (sqlCorrelator cfg).init d0 → (sqlCorrelator cfg).Run d0 ls d →
    d.Settled → LinksComplete cfg.topology d.tables := by
  intro all
  obtain ⟨d, run, state⟩ := Option.map_eq_some_iff.mp missedLink_state.1
  obtain ⟨returned, none'⟩ := Prod.mk.inj state
  obtain ⟨_, places, activities⟩ := missedLink_state
  rw [run, Option.map_some, Option.some.injEq] at places activities
  obtain ⟨s, s', both, place, place'⟩ : ∃ s s', d.tables.incidents.values = [s, s'] ∧
      s.incident.place = ("inc_1", "orders-service", "development") ∧
      s'.incident.place = ("inc_2", "payments-service", "development") := by
    simpa [List.map_eq_cons_iff] using places
  rw [both] at activities
  simp only [List.map_cons, List.map_nil, List.cons.injEq, and_true] at activities
  obtain ⟨activity, activity'⟩ := activities
  unfold Incident.place at place place'
  unfold Incident.activity at activity activity'
  simp only [Prod.mk.injEq] at place place' activity activity'
  obtain ⟨id, service, environment⟩ := place
  obtain ⟨id', service', environment'⟩ := place'
  obtain ⟨active, started, last⟩ := activity
  obtain ⟨active', started', last'⟩ := activity'
  obtain ⟨key, found⟩ : ∃ key, d.tables.incidents.get? key = some s := by
    rw [← Dict.mem_values_iff, both]
    exact List.mem_cons_self
  obtain ⟨key', found'⟩ : ∃ key, d.tables.incidents.get? key = some s' := by
    rw [← Dict.mem_values_iff, both]
    exact List.mem_cons_of_mem _ List.mem_cons_self
  have settled : d.Settled := by
    intro task mem
    have ended := List.all_eq_true.mp returned task mem
    unfold Task.isReturned at ended
    split at ended
    · exact ⟨_, _, rfl, rfl⟩
    · cases ended
  have calls : ∀ r, .request r ∉ missedLink := by
    intro r mem
    simp [missedLink] at mem
  have complete := all {} {} d missedLink calls ⟨rfl, rfl⟩ (Machine.run_iff_exec.mpr run) settled
  have should : ShouldLink {} s.incident s'.incident := by
    refine ⟨?_, ?_, ?_, 600000000, by decide +kernel, ?_, ?_⟩
    · rw [id, id']
      decide
    · rw [environment, environment']
    · unfold Adjacent
      rw [service, service']
      decide +kernel
    · rw [started, last']
      decide
    · rw [started', last]
      decide
  obtain ⟨r, mem, _⟩ := complete key key' s s' found found' active active' should
  rw [List.length_eq_zero_iff.mp none'] at mem
  cases mem

/-- One after the other they link their incidents. -/
theorem links_complete_found : ∃ d, (sqlCorrelator {}).Run {} foundLink d ∧
    d.tables.relations.map (·.pair) = [("inc_2", "inc_1")] ∧ LinksComplete {} d.tables := by
  obtain ⟨d, run, linked, alone⟩ := Machine.run_of_check
    (Q := Database.NoneMissed {}) (fun _ _ _ => noneMissed_of_alone) foundLink_state
  exact ⟨d, run, of_decide_eq_true linked, links_complete {} {} d foundLink ⟨rfl, rfl⟩ run alone⟩

end SentinelOps.IncidentCorrelator
